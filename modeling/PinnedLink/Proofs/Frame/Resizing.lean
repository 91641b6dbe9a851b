import PinnedLink.Proofs.Frame.Editing

/-!
# Resizing messages

A message may be resized any number of times, and its body takes its room from what an earlier, longer
body has left.  `Zeroed` says what such a body may hold of the bytes that there were at first: those in
front that no length on the way has cut off, and zeros behind them.  One resize keeps this with the
smaller of the two lengths (`Zeroed.resize`), so a run keeps it with the smallest (`zeroed_resized`).
-/

namespace PinnedLink.Frame

namespace Edit

variable {m : Message} {len : Nat}

/-- What a length that a header can declare makes of a message. -/
theorem after_resize (h : len ≤ maxDeclaredLen) :
    (Edit.resize len).after m =
      { header := { m.header with bodyLen := UInt32.ofNat len },
        body := m.body.take len ++ List.replicate (len - m.body.length) 0 } := by
  rw [after, make, result, Message.resize, if_pos h]

/-- A longer one is refused. -/
theorem make_resize_of_lt (h : maxDeclaredLen < len) :
    (Edit.resize len).make m = (.error (.tooLarge len maxDeclaredLen), m) := by
  rw [make, result, Message.resize, if_neg (Nat.not_le.2 h)]

theorem after_resize_of_lt (h : maxDeclaredLen < len) : (Edit.resize len).after m = m := by
  rw [after, make_resize_of_lt h]

end Edit

namespace Message

/-- The message behind several resizes, in order. -/
def resized (m : Message) (lens : List Nat) : Message := m.edited (lens.map .resize)

@[simp] theorem resized_nil (m : Message) : m.resized [] = m := rfl

@[simp] theorem resized_cons (m : Message) (len : Nat) (lens : List Nat) :
    m.resized (len :: lens) = ((Edit.resize len).after m).resized lens := rfl

theorem resized_append (m : Message) (lens more : List Nat) :
    m.resized (lens ++ more) = (m.resized lens).resized more := by
  rw [resized, List.map_append, edited_append]
  rfl

/-- The lengths, of those asked for, that a header can declare. -/
def granted (lens : List Nat) : List Nat := lens.filter (· ≤ maxDeclaredLen)

theorem granted_cons_of_le {len : Nat} (h : len ≤ maxDeclaredLen) (lens : List Nat) :
    granted (len :: lens) = len :: granted lens := List.filter_cons_of_pos (decide_eq_true h)

theorem granted_cons_of_lt {len : Nat} (h : maxDeclaredLen < len) (lens : List Nat) :
    granted (len :: lens) = granted lens :=
  List.filter_cons_of_neg (by simpa using h)

/-! ## What a body holds -/

/-- A body holds the first `kept` of some bytes, and zeros behind them. -/
structure Zeroed (bytes : Bytes) (kept : Nat) (body : Bytes) : Prop where
  le_bytes : kept ≤ bytes.length
  le_body : kept ≤ body.length
  eq : body = bytes.take kept ++ List.replicate (body.length - kept) 0

theorem Zeroed.refl (bytes : Bytes) : Zeroed bytes bytes.length bytes where
  le_bytes := Nat.le_refl _
  le_body := Nat.le_refl _
  eq := by simp

/-- What is cut off does not come back: a resize keeps the smaller number of bytes. -/
theorem Zeroed.resize {bytes : Bytes} {kept len : Nat} {m : Message} (h : Zeroed bytes kept m.body)
    (hlen : len ≤ maxDeclaredLen) :
    Zeroed bytes (min kept len) ((Edit.resize len).after m).body := by
  have hbytes := h.le_bytes
  have hbody := h.le_body
  have hlength : ((Edit.resize len).after m).body.length = len := (Edit.lengths_after_resize hlen).2
  refine ⟨by omega, by omega, ?_⟩
  rw [hlength, Edit.after_resize hlen]
  show m.body.take len ++ List.replicate (len - m.body.length) 0 = _
  rcases Nat.le_total len kept with hcut | hkeep
  · -- the cut goes through the bytes that were kept, so there are no zeros
    have hzeros : len - m.body.length = 0 := by omega
    rw [Nat.min_eq_right hcut, hzeros, Nat.sub_self, h.eq,
      List.take_append_of_le_length (by rw [List.length_take]; omega), List.take_take,
      Nat.min_eq_left hcut]
  · -- the cut, if there is one, goes through zeros, and more of them may follow
    have hfront : (bytes.take kept).length = kept := by rw [List.length_take]; omega
    conv_lhs => rw [h.eq]
    rw [Nat.min_eq_left hkeep, List.take_append, hfront, List.take_of_length_le (by omega),
      List.take_replicate, List.append_assoc, List.replicate_append_replicate]
    simp only [List.length_append, List.length_replicate, hfront]
    congr 2
    omega

/-- Several resizes keep the smallest number of bytes. -/
theorem zeroed_resized {bytes : Bytes} {kept : Nat} {m : Message} (h : Zeroed bytes kept m.body)
    (lens : List Nat) : Zeroed bytes ((granted lens).foldl min kept) (m.resized lens).body := by
  induction lens generalizing m kept with
  | nil => exact h
  | cons len lens ih =>
    rw [resized_cons]
    rcases Nat.lt_or_ge maxDeclaredLen len with hlt | hle
    · rw [Edit.after_resize_of_lt hlt, granted_cons_of_lt hlt]
      exact ih h
    · rw [granted_cons_of_le hle, List.foldl_cons]
      exact ih (h.resize hle)

/-! ## What a message declares -/

/-- Both lengths behind a run are the last one that was granted. -/
theorem lengths_resized (m : Message) (lens : List Nat) :
    (m.resized lens).bodyLen = (granted lens).getLast?.getD m.bodyLen ∧
      (m.resized lens).body.length = (granted lens).getLast?.getD m.body.length := by
  induction lens generalizing m with
  | nil => exact ⟨rfl, rfl⟩
  | cons len lens ih =>
    rw [resized_cons]
    rcases Nat.lt_or_ge maxDeclaredLen len with hlt | hle
    · rw [Edit.after_resize_of_lt hlt, granted_cons_of_lt hlt]
      exact ih m
    · obtain ⟨hdeclared, hheld⟩ := Edit.lengths_after_resize (m := m) hle
      rw [granted_cons_of_le hle, List.getLast?_cons, Option.getD_some, Option.getD_some, (ih _).1,
        (ih _).2, hdeclared, hheld]
      exact ⟨rfl, rfl⟩

/-- Resizing leaves the kind. -/
theorem kind_resized (m : Message) (lens : List Nat) : (m.resized lens).kind = m.kind := by
  have hnone : (lens.map Edit.resize).filterMap Edit.header? = [] := by
    rw [List.filterMap_map, List.filterMap_eq_nil_iff]
    exact fun _ _ => rfl
  rw [resized, kind_edited, hnone]
  rfl

/-- Behind any run of resizes the body has the last length that was granted, and holds the bytes in
front that no granted length has cut off, with zeros behind them; the header keeps its kind and
declares that length; and a length that no header can declare is refused, as if it had not been asked
for. -/
theorem resized_keeps_front (m : Message) (lens : List Nat) :
    let kept := (granted lens).foldl min m.body.length
    let len := (granted lens).getLast?.getD m.body.length
    (m.resized lens).body = m.body.take kept ++ List.replicate (len - kept) 0 ∧
      (m.resized lens).body.length = len ∧
      (m.resized lens).kind = m.kind ∧
      (m.resized lens).bodyLen = (granted lens).getLast?.getD m.bodyLen ∧
      ∀ before long later, lens = before ++ long :: later → maxDeclaredLen < long →
        (Edit.resize long).make (m.resized before) =
            (.error (.tooLarge long maxDeclaredLen), m.resized before) ∧
          m.resized lens = m.resized (before ++ later) := by
  intro kept len
  obtain ⟨hdeclared, hheld⟩ := lengths_resized m lens
  have hzeroed := zeroed_resized (Zeroed.refl m.body) lens
  refine ⟨?_, hheld, kind_resized m lens, hdeclared, ?_⟩
  · rw [hzeroed.eq, hheld]
  · rintro before long later rfl hlong
    refine ⟨Edit.make_resize_of_lt hlong, ?_⟩
    rw [resized_append, resized_cons, Edit.after_resize_of_lt hlong, ← resized_append]

/-- A body that is cut and extended again. -/
example : (resized { header := ⟨1, 4⟩, body := [1, 2, 3, 4] } [2, 4294967296, 5]).body =
    [1, 2, 0, 0, 0] := by
  decide

end Message

end PinnedLink.Frame
