import Mathlib.Data.List.Induction
import PinnedLink.Frame.Message
import PinnedLink.Proofs.Frame.Codec

/-!
# Editing messages

A message is made from a kind and perhaps a body; after that its header can be replaced, its body
resized and overwritten.  An `Edit` is one such use.  Whether it is refused depends on the edit alone,
and a refused one leaves the message as it is (`Edit.makes_make`).

The declared length and the body only part when a header is set that declares another length, and only
a resize brings them together again.  `length_ne_iff_parted` reads this off the list of all edits: the
last one that declared a length was such a header.

A message is kept here as what its header says.  `encode_header_edited` follows the eight bytes instead,
as `Edit.rewrite` leaves them, and finds the same header behind every run.
-/

namespace PinnedLink.Frame

namespace Message

/-! ## Lengths -/

theorem validate_eq_ok_iff {m : Message} : m.validate = .ok () ↔ m.body.length = m.bodyLen := by
  unfold validate
  split
  · exact iff_of_true rfl ‹_›
  · exact iff_of_false (fun h => by cases h) ‹_›

theorem validate_of_ne {m : Message} (h : m.body.length ≠ m.bodyLen) :
    m.validate = .error (.lengthMismatch m.bodyLen m.body.length) := if_neg h

theorem bodyLen_le (m : Message) : m.bodyLen ≤ maxDeclaredLen := by
  have hbound := m.header.bodyLen.toNat_lt
  rw [bodyLen, maxDeclaredLen]
  omega

/-- A length that a header can declare is what it declares. -/
theorem toNat_ofNat_of_le {len : Nat} (h : len ≤ maxDeclaredLen) : (UInt32.ofNat len).toNat = len := by
  rw [maxDeclaredLen] at h
  rw [UInt32.toNat_ofNat']
  omega

/-- A message whose lengths agree is what its kind and its body make. -/
theorem withBody_eq_of_validate {m : Message} (h : m.validate = .ok ()) :
    withBody m.kind m.body = .ok m := by
  have hlen := validate_eq_ok_iff.1 h
  rw [withBody, if_pos (hlen ▸ m.bodyLen_le), hlen, bodyLen, UInt32.ofNat_toNat]
  rfl

/-- A header with as many bytes as it declares makes a message. -/
theorem withBody_eq (header : Header) {body : Bytes} (hlen : body.length = header.bodyLen.toNat) :
    withBody header.kind body = .ok { header, body } :=
  withBody_eq_of_validate (m := { header, body }) (validate_eq_ok_iff.2 hlen)

/-- A message whose header was replaced can be resized to what it declares. -/
theorem resize_bodyLen (m : Message) :
    m.resize m.bodyLen =
      .ok { m with
            body := m.body.take m.bodyLen ++ List.replicate (m.bodyLen - m.body.length) 0 } := by
  rw [resize, if_pos m.bodyLen_le, bodyLen, UInt32.ofNat_toNat]

/-- The body is as long as the header declares, then. -/
theorem exists_resize_bodyLen (m : Message) :
    ∃ body, m.resize m.bodyLen = .ok { m with body } ∧ body.length = m.bodyLen := by
  refine ⟨_, m.resize_bodyLen, ?_⟩
  rw [List.length_append, List.length_take, List.length_replicate]
  omega

/-- Bytes that decode are set as the header. -/
theorem setHeader_of_decode {m : Message} {raw : Bytes} {header : Header}
    (h : Header.decode raw = .ok header) : m.setHeader raw = .ok { m with header } := by
  rw [setHeader, h]
  rfl

/-- Bytes as many as the body replace the body. -/
theorem overwrite_zero {m : Message} {bytes : Bytes} (hlen : bytes.length = m.body.length) :
    m.overwrite 0 bytes = { m with body := bytes } := by
  simp [overwrite, ← hlen]

/-- Writing into a body leaves its length. -/
theorem length_overwrite (m : Message) (offset : Nat) (bytes : Bytes) :
    (m.overwrite offset bytes).body.length = m.body.length := by
  simp only [overwrite, List.length_append, List.length_take, List.length_drop]
  omega

/-- A message as it is made: empty, or around a body. -/
def Fresh (m : Message) : Prop :=
  (∃ kind, m = new kind) ∨ ∃ kind body, withBody kind body = .ok m

theorem Fresh.length_eq {m : Message} (h : m.Fresh) : m.body.length = m.bodyLen := by
  rcases h with ⟨kind, rfl⟩ | ⟨kind, body, hm⟩
  · rfl
  · unfold withBody at hm
    split at hm
    · rename_i hlen
      cases hm
      exact (toNat_ofNat_of_le hlen).symm
    · cases hm

/-! ## Bytes of a message -/

theorem header_encode_inj {h h' : Header} : h.encode = h'.encode ↔ h = h' := by
  constructor
  · intro heq
    have hdecode := Header.decode_encode_append h []
    rw [heq, Header.decode_encode_append h' []] at hdecode
    exact (Except.ok.inj hdecode).symm
  · rintro rfl
    rfl

/-- Messages are the same if their bytes are. -/
theorem encode_inj {m m' : Message} : m.encode = m'.encode ↔ m = m' := by
  constructor
  · intro heq
    obtain ⟨hheader, hbody⟩ := List.append_inj heq rfl
    cases m
    cases m'
    rw [header_encode_inj] at hheader
    exact congr (congrArg Message.mk hheader) hbody
  · rintro rfl
    rfl

end Message

/-! ## Edits -/

/-- A use of a message that may change it. -/
inductive Edit where
  | setHeader (raw : Bytes)
  | resize (len : Nat)
  /-- Writes into the body. -/
  | overwrite (offset : Nat) (bytes : Bytes)

namespace Edit

/-- What an edit makes of a message, unless it is refused. -/
def result (m : Message) : Edit → Except Error Message
  | .setHeader raw => m.setHeader raw
  | .resize len => m.resize len
  | .overwrite offset bytes => .ok (m.overwrite offset bytes)

/-- The answer to an edit, and the message behind it. -/
def make (m : Message) (e : Edit) : Except Error Unit × Message :=
  match e.result m with
  | .ok m' => (.ok (), m')
  | .error error => (.error error, m)

/-- The message behind an edit, whatever the answer. -/
def after (m : Message) (e : Edit) : Message := (e.make m).2

/-- The header that an edit sets, if it is not refused. -/
def header? : Edit → Option Header
  | .setHeader raw => (Header.decode raw).toOption
  | _ => none

/-- An edit declares a length: it sets a header or resizes the body, and is not refused. -/
def declares : Edit → Bool
  | .setHeader raw => (Header.decode raw).toOption.isSome
  | .resize len => len ≤ maxDeclaredLen
  | .overwrite _ _ => false

/-- The eight bytes of a header behind an edit, from those before it: a header is replaced as it
stands, and a resize keeps the byte of the kind. -/
def rewrite (bytes : Bytes) : Edit → Bytes
  | .setHeader raw => if (Header.decode raw).toOption.isSome then raw.take headerLen else bytes
  | .resize len =>
    if len ≤ maxDeclaredLen then Header.encode ⟨bytes.getD 3 0, UInt32.ofNat len⟩ else bytes
  | .overwrite _ _ => bytes

/-- What an edit can do to a message. -/
inductive Makes (m : Message) : Edit → Except Error Unit × Message → Prop where
  | refused {e : Edit} {error : Error} (hdeclares : e.declares = false) (hheader : e.header? = none)
      (hresult : e.result m = .error error) : Makes m e (.error error, m)
  | header {raw : Bytes} {header : Header} (hdecode : Header.decode raw = .ok header) :
      Makes m (.setHeader raw) (.ok (), { m with header })
  | resized {len : Nat} (hlen : len ≤ maxDeclaredLen) :
      Makes m (.resize len) (.ok (),
        { header := { m.header with bodyLen := UInt32.ofNat len },
          body := m.body.take len ++ List.replicate (len - m.body.length) 0 })
  | overwritten {offset : Nat} {bytes : Bytes} :
      Makes m (.overwrite offset bytes) (.ok (), m.overwrite offset bytes)

theorem makes_make (m : Message) (e : Edit) : Makes m e (e.make m) := by
  cases e with
  | setHeader raw =>
    cases hdecode : Header.decode raw with
    | error error =>
      have hresult : (Edit.setHeader raw).result m = .error error := by
        rw [result, Message.setHeader, hdecode]
        rfl
      rw [make, hresult]
      exact .refused (by rw [declares, hdecode]; rfl) (by rw [header?, hdecode]; rfl) hresult
    | ok header =>
      have hresult : (Edit.setHeader raw).result m = .ok { m with header } := by
        rw [result, Message.setHeader, hdecode]
        rfl
      rw [make, hresult]
      exact .header hdecode
  | resize len =>
    by_cases hlen : len ≤ maxDeclaredLen
    · rw [make, result, Message.resize, if_pos hlen]
      exact .resized hlen
    · have hresult : (Edit.resize len).result m = .error (.tooLarge len maxDeclaredLen) := by
        rw [result, Message.resize, if_neg hlen]
      rw [make, hresult]
      exact .refused (decide_eq_false hlen) rfl hresult
  | overwrite offset bytes => exact .overwritten

variable {m : Message} {e : Edit}

/-- An edit that declares no length leaves the bytes of the header. -/
theorem rewrite_of_not_declares (bytes : Bytes) (h : e.declares = false) : e.rewrite bytes = bytes := by
  cases e with
  | setHeader raw => exact if_neg (by rw [← declares, h]; exact Bool.false_ne_true)
  | resize len => exact if_neg (of_decide_eq_false h)
  | overwrite offset bytes => rfl

namespace Makes

variable {r : Except Error Unit × Message}

/-- A refused edit leaves the message as it is. -/
theorem eq_of_error {error : Error} (h : Makes m e r) (hr : r.1 = .error error) : r.2 = m := by
  cases h with
  | refused hdeclares hheader hresult => rfl
  | header hdecode => cases hr
  | resized hlen => cases hr
  | overwritten => cases hr

/-- The kind behind an edit is that of the header that it sets. -/
theorem kind (h : Makes m e r) : r.2.kind = (e.header?.map Header.kind).getD m.kind := by
  cases h with
  | refused hdeclares hheader hresult => rw [hheader]; rfl
  | header hdecode => rw [header?, hdecode]; rfl
  | resized hlen => rfl
  | overwritten => rfl

theorem setHeader_of_kind_ne (h : Makes m e r) (hne : r.2.kind ≠ m.kind) :
    ∃ raw, e = .setHeader raw ∧ r.1 = .ok () := by
  cases h with
  | refused hdeclares hheader hresult => exact absurd rfl hne
  | header hdecode => exact ⟨_, rfl, rfl⟩
  | resized hlen => exact absurd rfl hne
  | overwritten => exact absurd rfl hne

/-- Whether an edit declares a length shows in the answer. -/
theorem declares_iff (h : Makes m e r) :
    e.declares = true ↔ r.1 = .ok () ∧ ∀ offset bytes, e ≠ .overwrite offset bytes := by
  cases h with
  | refused hdeclares hheader hresult => simp [hdeclares]
  | header hdecode => simp [declares, hdecode, Except.toOption]
  | resized hlen => simp [declares, hlen]
  | overwritten => simp [declares]

/-- A message keeps its header as the bytes that were brought, although it holds what they say. -/
theorem encode_header (h : Makes m e r) : r.2.header.encode = e.rewrite m.header.encode := by
  cases h with
  | refused hdeclares hheader hresult => exact (rewrite_of_not_declares _ hdeclares).symm
  | header hdecode =>
    rw [rewrite, if_pos (by rw [hdecode]; rfl)]
    exact Header.encode_eq_take_of_decode hdecode
  | resized hlen =>
    rw [rewrite, if_pos hlen, List.getD_eq_getElem?_getD, m.header.getElem?_encode_kind]
    rfl
  | overwritten => rfl

/-- An edit that declares no length leaves both lengths. -/
theorem lengths (h : Makes m e r) (hdeclares : e.declares = false) :
    r.2.bodyLen = m.bodyLen ∧ r.2.body.length = m.body.length := by
  cases h with
  | refused hdeclares' hheader hresult => exact ⟨rfl, rfl⟩
  | header hdecode => rw [declares, hdecode] at hdeclares; cases hdeclares
  | resized hlen => exact absurd hlen (of_decide_eq_false hdeclares)
  | overwritten => exact ⟨rfl, m.length_overwrite _ _⟩

end Makes

/-- A header that is set declares its length and leaves the body. -/
theorem after_setHeader {raw : Bytes} {header : Header} (h : Header.decode raw = .ok header) :
    (Edit.setHeader raw).after m = { m with header } := by
  rw [after, make, result, Message.setHeader, h]
  rfl

/-- A body that is resized has the length that it was given, and the header declares it. -/
theorem lengths_after_resize {len : Nat} (h : len ≤ maxDeclaredLen) :
    ((Edit.resize len).after m).bodyLen = len ∧
      ((Edit.resize len).after m).body.length = len := by
  rw [after, make, result, Message.resize, if_pos h]
  refine ⟨Message.toNat_ofNat_of_le h, ?_⟩
  simp only [List.length_append, List.length_take, List.length_replicate]
  omega

end Edit

/-! ## Runs of edits -/

namespace Message

/-- The message behind several edits, in order. -/
def edited (m : Message) (edits : List Edit) : Message := edits.foldl Edit.after m

@[simp] theorem edited_nil (m : Message) : m.edited [] = m := rfl

@[simp] theorem edited_cons (m : Message) (e : Edit) (edits : List Edit) :
    m.edited (e :: edits) = (e.after m).edited edits := rfl

theorem edited_append (m : Message) (edits more : List Edit) :
    m.edited (edits ++ more) = (m.edited edits).edited more := List.foldl_append

/-- The kind behind a run is that of the last header that was set. -/
theorem kind_edited (m : Message) (edits : List Edit) :
    (m.edited edits).kind = ((edits.filterMap Edit.header?).getLast?.map Header.kind).getD m.kind := by
  induction edits generalizing m with
  | nil => rfl
  | cons e edits ih =>
    have hkind : (e.after m).kind = (e.header?.map Header.kind).getD m.kind :=
      (Edit.makes_make m e).kind
    rw [edited_cons, ih, hkind, List.filterMap_cons]
    cases e.header? with
    | none => rfl
    | some header =>
      rw [List.getLast?_cons]
      cases (edits.filterMap Edit.header?).getLast? <;> rfl

theorem encode_header_edited (m : Message) (edits : List Edit) :
    (m.edited edits).header.encode = edits.foldl Edit.rewrite m.header.encode := by
  induction edits generalizing m with
  | nil => rfl
  | cons e edits ih =>
    have hheader : (e.after m).header.encode = e.rewrite m.header.encode :=
      (Edit.makes_make m e).encode_header
    rw [edited_cons, ih, hheader, List.foldl_cons]

/-- The last edit of a run that declared a length was a header, and what it declared is not the length
of the body. -/
def Parted (m : Message) (edits : List Edit) : Prop :=
  ∃ before raw later header, edits = before ++ .setHeader raw :: later ∧
    Header.decode raw = .ok header ∧ (∀ e ∈ later, e.declares = false) ∧
    header.bodyLen.toNat ≠ (m.edited before).body.length

theorem parted_concat {m : Message} {edits : List Edit} {e : Edit} :
    Parted m (edits ++ [e]) ↔
      (e.declares = false ∧ Parted m edits) ∨
        ∃ raw header, e = .setHeader raw ∧ Header.decode raw = .ok header ∧
          header.bodyLen.toNat ≠ (m.edited edits).body.length := by
  constructor
  · rintro ⟨before, raw, later, header, hsplit, hdecode, hlater, hne⟩
    rcases List.eq_nil_or_concat later with rfl | ⟨later, last, rfl⟩
    · obtain ⟨rfl, hlast⟩ := List.append_inj' hsplit rfl
      exact .inr ⟨raw, header, List.singleton_inj.1 hlast, hdecode, hne⟩
    · rw [List.concat_eq_append, ← List.cons_append, ← List.append_assoc] at hsplit
      obtain ⟨rfl, hlast⟩ := List.append_inj' hsplit rfl
      obtain rfl := List.singleton_inj.1 hlast
      rw [List.concat_eq_append, List.forall_mem_append] at hlater
      exact .inl ⟨hlater.2 e (List.mem_singleton_self e), before, raw, later, header, rfl, hdecode,
        hlater.1, hne⟩
  · rintro (⟨he, before, raw, later, header, rfl, hdecode, hlater, hne⟩ |
      ⟨raw, header, rfl, hdecode, hne⟩)
    · refine ⟨before, raw, later ++ [e], header, by rw [List.append_assoc, List.cons_append],
        hdecode, ?_, hne⟩
      rw [List.forall_mem_append]
      exact ⟨hlater, fun x hx => List.mem_singleton.1 hx ▸ he⟩
    · exact ⟨edits, raw, [], header, rfl, hdecode, fun x hx => absurd hx List.not_mem_nil, hne⟩

/-- The lengths of a message differ behind a run exactly if the run has parted them. -/
theorem length_ne_iff_parted {m : Message} (h : m.body.length = m.bodyLen) (edits : List Edit) :
    (m.edited edits).body.length ≠ (m.edited edits).bodyLen ↔ Parted m edits := by
  -- from the last edit backwards, since that is the one that decides
  induction edits using List.reverseRecOn with
  | nil =>
    refine iff_of_false (fun hne => hne h) ?_
    rintro ⟨before, raw, later, header, hsplit, -⟩
    exact absurd hsplit (by simp)
  | append_singleton edits e ih =>
    rw [edited_append, edited_cons, edited_nil, parted_concat]
    cases hdeclares : e.declares with
    | false =>
      have hlengths : (e.after (m.edited edits)).bodyLen = (m.edited edits).bodyLen ∧
          (e.after (m.edited edits)).body.length = (m.edited edits).body.length :=
        (Edit.makes_make _ e).lengths hdeclares
      rw [hlengths.1, hlengths.2, ih]
      constructor
      · intro hparted
        exact .inl ⟨rfl, hparted⟩
      · rintro (⟨-, hparted⟩ | ⟨raw, header, rfl, hdecode, -⟩)
        · exact hparted
        · rw [Edit.declares, hdecode] at hdeclares
          cases hdeclares
    | true =>
      cases e with
      | setHeader raw =>
        cases hdecode : Header.decode raw with
        | error error =>
          rw [Edit.declares, hdecode] at hdeclares
          cases hdeclares
        | ok header =>
          rw [Edit.after_setHeader hdecode]
          constructor
          · intro hne
            exact .inr ⟨raw, header, rfl, hdecode, hne.symm⟩
          · rintro (⟨hfalse, -⟩ | ⟨raw', header', heq, hdecode', hne⟩)
            · cases hfalse
            · cases heq
              cases hdecode.symm.trans hdecode'
              exact hne.symm
      | resize len =>
        obtain ⟨hdeclared, hheld⟩ :=
          Edit.lengths_after_resize (m := m.edited edits) (of_decide_eq_true hdeclares)
        refine iff_of_false (fun hne => hne (hheld.trans hdeclared.symm)) ?_
        rintro (⟨hfalse, -⟩ | ⟨raw, header, heq, -⟩)
        · cases hfalse
        · cases heq
      | overwrite offset bytes => cases hdeclares

theorem validate_edited {m : Message} (h : m.body.length = m.bodyLen) (edits : List Edit) :
    ((m.edited edits).validate =
        .error (.lengthMismatch (m.edited edits).bodyLen (m.edited edits).body.length) ↔
      Parted m edits) ∧ ((m.edited edits).validate = .ok () ↔ ¬ Parted m edits) := by
  rw [← length_ne_iff_parted h, not_ne_iff, validate_eq_ok_iff]
  refine ⟨⟨fun herror heq => ?_, validate_of_ne⟩, Iff.rfl⟩
  rw [validate_eq_ok_iff.2 heq] at herror
  cases herror

/-- The bytes of a message say the same as the message itself, and a message is known by them. -/
structure Legible (m : Message) : Prop where
  decode : ∃ header, Header.decode m.header.encode = .ok header ∧ header.kind = m.kind ∧
    header.bodyLen.toNat = m.bodyLen
  kind : m.header.encode[3]? = some m.kind
  bodyLen : BigEndian.readNat (m.header.encode.drop 4) = m.bodyLen
  frameLen : m.frameLen = 8 + m.bodyLen
  encode : m.encode = m.header.encode ++ m.body
  encode_inj : ∀ other : Message, m.encode = other.encode ↔ m = other

theorem legible (m : Message) : m.Legible where
  decode := by
    refine ⟨m.header, ?_, rfl, rfl⟩
    rw [← List.append_nil m.header.encode]
    exact Header.decode_encode_append m.header []
  kind := m.header.getElem?_encode_kind
  bodyLen := m.header.readNat_drop_encode
  frameLen := rfl
  encode := rfl
  encode_inj _ := Message.encode_inj

/-- An edit changes nothing if it is refused, and the kind only as a header that is set; it declares a
length if it is a header or a resize and not refused. -/
structure Yields (m : Message) (e : Edit) : Prop where
  refused : ∀ error, (e.make m).1 = .error error → (e.make m).2 = m
  kind : (e.make m).2.kind ≠ m.kind → ∃ raw, e = .setHeader raw ∧ (e.make m).1 = .ok ()
  declares : e.declares = true ↔
    (e.make m).1 = .ok () ∧ ∀ offset bytes, e ≠ .overwrite offset bytes

theorem yields (m : Message) (e : Edit) : m.Yields e where
  refused _ := (Edit.makes_make m e).eq_of_error
  kind := (Edit.makes_make m e).setHeader_of_kind_ne
  declares := (Edit.makes_make m e).declares_iff

/-- Behind any run of edits on a message as it is made: its header is the bytes that the edits leave of
it, and they say what the message says of itself; a further edit changes nothing if it is refused, and
the kind only as a header that is set; the kind is that of the last such header; and the lengths are
reported to differ exactly if the last edit that declared a length was a header with a length other
than that of the body. -/
theorem edited_legible {start : Message} (hstart : start.Fresh) (edits : List Edit) :
    (start.edited edits).header.encode = edits.foldl Edit.rewrite start.header.encode ∧
      (start.edited edits).Legible ∧
      (∀ e, (start.edited edits).Yields e) ∧
      (start.edited edits).kind =
        ((edits.filterMap Edit.header?).getLast?.map Header.kind).getD start.kind ∧
      ((start.edited edits).validate = .error (.lengthMismatch (start.edited edits).bodyLen
          (start.edited edits).body.length) ↔ Parted start edits) ∧
      ((start.edited edits).validate = .ok () ↔ ¬ Parted start edits) :=
  ⟨encode_header_edited start edits, legible _, fun e => yields _ e, kind_edited start edits,
    validate_edited hstart.length_eq edits⟩

/-- A header of three bytes over a body of two, a resize that is refused, and a byte that is written. -/
theorem edited_legible_parted :
    let start : Message := { header := ⟨1, 2⟩, body := [0xaa, 0xaa] }
    let edits : List Edit :=
      [.setHeader (Header.encode ⟨7, 3⟩), .resize 4294967296, .overwrite 1 [0x00]]
    withBody 1 [0xaa, 0xaa] = .ok start ∧
      (start.edited edits).validate = .error (.lengthMismatch 3 2) ∧
      (start.edited edits).kind = 7 := by
  intro start edits
  have hmade : withBody 1 [0xaa, 0xaa] = .ok start := rfl
  obtain ⟨-, -, -, hkind, hparted, -⟩ := edited_legible (.inr ⟨1, [0xaa, 0xaa], hmade⟩) edits
  exact ⟨hmade, hparted.2 ⟨[], _, _, ⟨7, 3⟩, rfl, rfl, by decide, by decide⟩, hkind⟩

end Message

end PinnedLink.Frame
