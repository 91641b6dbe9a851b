import PinnedLink.Proofs.Session.Rejection

/-!
# What a ciphertext carries

`carried` reads a byte string as records of one side and collects the plaintext of the first of them,
up to a record that is anything but application data in its place.  It knows nothing of sessions.

A session that opens what has arrived puts just that behind its plaintext (`plaintext_openRecords`),
whether it meets a bad record or not.  If it goes on, what it opens later is what the whole ciphertext
carries less what it has opened before (`Resumes.carried_append`), so it does not matter in which
pieces the ciphertext has come.
-/

namespace PinnedLink.Session

/-- The plaintext that the records of a side carry from its record number `seq` on, up to the first
that is no application data or does not open. -/
def carried (version : Version) (side : Side) (seq : Nat) (wire : Bytes) : Bytes :=
  match _h : Record.split wire with
  | .whole r rest =>
    if r.contentType = .changeCipherSpec then []
    else
      match Record.open? version side seq r with
      | some (.applicationData, content) => content ++ carried version side (seq + 1) rest
      | _ => []
  | _ => []
termination_by wire.length
decreasing_by exact Record.length_rest_lt _h

section Carried

variable {version : Version} {side : Side} {seq : Nat} {wire rest content : Bytes} {r : Record}

/-- Bytes that do not begin with a whole record carry nothing. -/
theorem carried_of_not_whole (h : ∀ r rest, Record.split wire ≠ .whole r rest) :
    carried version side seq wire = [] := by
  rw [carried]
  split
  · rename_i r rest hsplit
    exact absurd hsplit (h r rest)
  · rfl

theorem carried_of_whole (h : Record.split wire = .whole r rest) :
    carried version side seq wire =
      if r.contentType = .changeCipherSpec then []
      else
        match Record.open? version side seq r with
        | some (.applicationData, content) => content ++ carried version side (seq + 1) rest
        | _ => [] := by
  rw [carried]
  split
  · rename_i r' rest' hsplit
    rw [h] at hsplit
    cases hsplit
    rfl
  · rename_i hsplit
    exact absurd h (hsplit r rest)

/-- What a record carries stands ahead of what those behind it carry. -/
theorem carried_of_data (h : Record.split wire = .whole r rest)
    (htype : r.contentType ≠ .changeCipherSpec)
    (hopen : Record.open? version side seq r = some (.applicationData, content)) :
    carried version side seq wire = content ++ carried version side (seq + 1) rest := by
  rw [carried_of_whole h, if_neg htype, hopen]

/-- Behind a record that is anything else nothing counts. -/
theorem carried_of_not_data (h : Record.split wire = .whole r rest)
    (hopen : r.contentType ≠ .changeCipherSpec →
      ∀ content, Record.open? version side seq r ≠ some (.applicationData, content)) :
    carried version side seq wire = [] := by
  rw [carried_of_whole h]
  split
  · rfl
  · rename_i htype
    split
    · rename_i content hdata
      exact absurd hdata (hopen htype content)
    · rfl

end Carried

/-- What arrives later takes nothing back. -/
theorem carried_prefix_append (version : Version) (side : Side) (seq : Nat) (wire more : Bytes) :
    carried version side seq wire <+: carried version side seq (wire ++ more) := by
  fun_induction carried version side seq wire with
  | case1 => exact List.nil_prefix
  | case2 seq wire r rest hsplit htype content hopen ih =>
    rw [carried_of_data (Record.split_append_of_whole hsplit more) htype hopen]
    exact (List.prefix_append_right_inj content).2 ih
  | case3 => exact List.nil_prefix
  | case4 => exact List.nil_prefix

/-! ## Opening one record -/

/-- A record that a session takes is application data, which goes behind its plaintext, or it says
that the other end has closed. -/
theorem accept_cases {s t : Session} {r : Record} (h : s.accept r = .ok t) :
    r.contentType ≠ .changeCipherSpec ∧
      ((∃ content, Record.open? s.version s.side.other s.openedCount r =
            some (.applicationData, content) ∧
          t = { s with
            openedCount := s.openedCount + 1, plaintext := s.plaintext ++ content }) ∨
        ∃ content, Record.open? s.version s.side.other s.openedCount r = some (.alert, content) ∧
          t = { s with openedCount := s.openedCount + 1, peerClosed := true }) := by
  unfold accept at h
  split at h
  · cases h
  · rename_i htype
    refine ⟨htype, ?_⟩
    split at h
    · cases h
    · rename_i contentType content hopen
      dsimp only at h
      split at h
      · cases h
        exact Or.inl ⟨content, hopen, rfl⟩
      · split at h
        · cases h
          exact Or.inr ⟨_, hopen, rfl⟩
        · cases h
        · cases h
      · cases h

/-- Application data in its place is not refused. -/
theorem not_data_of_accept_error {s : Session} {r : Record} {e : Error}
    (h : s.accept r = .error e) (htype : r.contentType ≠ .changeCipherSpec) (content : Bytes) :
    Record.open? s.version s.side.other s.openedCount r ≠ some (.applicationData, content) := by
  intro hopen
  rw [accept, if_neg htype, hopen] at h
  cases h

/-! ## Opening what has arrived -/

/-- A session puts what has arrived behind its plaintext, as far as it gets. -/
theorem plaintext_openRecords {s : Session} (hopen : s.peerClosed = false) :
    s.openRecords.2.plaintext =
      s.plaintext ++ carried s.version s.side.other s.openedCount s.inbox := by
  fun_induction openRecords s with
  | case1 s hsplit =>
    have hnone : ∀ r rest, Record.split s.inbox ≠ .whole r rest := by simp [hsplit]
    rw [carried_of_not_whole hnone, List.append_nil]
  | case2 s fault hsplit =>
    have hnone : ∀ r rest, Record.split s.inbox ≠ .whole r rest := by simp [hsplit]
    rw [carried_of_not_whole hnone, List.append_nil, plaintext_fail]
  | case3 s r rest hsplit e he =>
    rw [carried_of_not_data hsplit (not_data_of_accept_error he), List.append_nil, plaintext_fail]
  | case4 s r rest hsplit t ht hclosed =>
    obtain ⟨-, ⟨content, -, rfl⟩ | ⟨content, halert, rfl⟩⟩ := accept_cases ht
    · rw [hopen] at hclosed
      cases hclosed
    · rw [carried_of_not_data hsplit (by simp [halert]), List.append_nil]
  | case5 s r rest hsplit t ht hclosed ih =>
    obtain ⟨htype, ⟨content, hdata, rfl⟩ | ⟨content, -, rfl⟩⟩ := accept_cases ht
    · rw [carried_of_data hsplit htype hdata, ← List.append_assoc]
      exact ih hopen
    · exact absurd rfl hclosed

/-- A session `t` that `s` has become by opening what has arrived, and that has met no bad record. -/
structure Resumes (s t : Session) : Prop where
  version : t.version = s.version
  side : t.side = s.side
  failure : t.failure = s.failure
  /-- Unless the other end has closed, what comes later is opened as a part of the whole. -/
  carried_append : t.peerClosed = false → ∀ more,
    carried s.version s.side.other s.openedCount (s.inbox ++ more) =
      carried s.version s.side.other s.openedCount s.inbox ++
        carried t.version t.side.other t.openedCount (t.inbox ++ more)

theorem resumes_of_openRecords {s t : Session} (hopen : s.peerClosed = false)
    (h : s.openRecords = (none, t)) : Resumes s t := by
  fun_induction openRecords s with
  | case1 s hsplit =>
    have hnone : ∀ r rest, Record.split s.inbox ≠ .whole r rest := by simp [hsplit]
    obtain rfl : s = t := congrArg Prod.snd h
    refine ⟨rfl, rfl, rfl, fun _ more => ?_⟩
    rw [carried_of_not_whole hnone, List.nil_append]
  | case2 s fault hsplit => cases h
  | case3 s r rest hsplit e he => cases h
  | case4 s r rest hsplit u hu hclosed =>
    cases h
    obtain ⟨-, ⟨content, -, rfl⟩ | ⟨content, -, rfl⟩⟩ := accept_cases hu
    · rw [hopen] at hclosed
      cases hclosed
    · exact ⟨rfl, rfl, rfl, fun hlive => by cases hlive⟩
  | case5 s r rest hsplit u hu hclosed ih =>
    obtain ⟨htype, ⟨content, hdata, rfl⟩ | ⟨content, -, rfl⟩⟩ := accept_cases hu
    · obtain ⟨hversion, hside, hfailure, happend⟩ := ih hopen h
      refine ⟨hversion, hside, hfailure, fun hlive more => ?_⟩
      have hmore := Record.split_append_of_whole hsplit more
      rw [carried_of_data hsplit htype hdata, carried_of_data hmore htype hdata,
        List.append_assoc]
      exact congrArg (content ++ ·) (happend hlive more)
    · exact absurd rfl hclosed

end PinnedLink.Session
