import PinnedLink.Session.Basic
import PinnedLink.Proofs.Session.Wire

/-!
# What one end says

`Transcript` reads a stretch of ciphertext as what one end of a session has sealed: pieces of
plaintext in records of consecutive numbers, up to a torn record, to the number of the next record,
or to the goodbye behind which nothing counts.  Transcripts join at the number of a record
(`Transcript.append`), so what an end seals later stands behind what it has sealed before
(`send?_speaks`, `closeNotify_speaks`).

From the other side, `Transcript.of_whole` says what the first record of a transcript can be, and
`Transcript.of_incomplete` that less than a record carries nothing.
-/

namespace PinnedLink.Session

/-! ## Transcripts -/

/-- How a transcript leaves off. -/
inductive Tail where
  /-- Behind a whole record; the next one has this number. -/
  | next (seq : Nat)
  /-- Inside a record. -/
  | torn
  /-- The end has said goodbye. -/
  | goodbye
deriving DecidableEq, Repr

/-- `Transcript version side seq wire plain tail`: the bytes `wire` are what a side has sealed from its
record number `seq` on; they carry the plaintext `plain` and leave off as `tail` says. -/
inductive Transcript (version : Version) (side : Side) : Nat → Bytes → Bytes → Tail → Prop where
  | nil (seq : Nat) : Transcript version side seq [] [] (.next seq)
  | torn {seq : Nat} {wire : Bytes} (h : Record.split wire = .incomplete) :
      Transcript version side seq wire [] .torn
  | goodbye (seq : Nat) (level : UInt8) (rest : Bytes) :
      Transcript version side seq
        ((Record.sealed version side seq .alert [level, Alert.closeNotify.code]).encode ++ rest)
        [] .goodbye
  | data {seq : Nat} {piece wire plain : Bytes} {tail : Tail}
      (hlen : piece.length ≤ Record.maxFragment)
      (h : Transcript version side (seq + 1) wire plain tail) :
      Transcript version side seq
        ((Record.sealed version side seq .applicationData piece).encode ++ wire)
        (piece ++ plain) tail

namespace Transcript

variable {version : Version} {side : Side} {seq n : Nat} {wire more plain plain' : Bytes} {tail : Tail}

/-- Transcripts join at the number of a record. -/
theorem append (h : Transcript version side seq wire plain (.next n))
    (hmore : Transcript version side n more plain' tail) :
    Transcript version side seq (wire ++ more) (plain ++ plain') tail := by
  generalize hnext : Tail.next n = start at h
  induction h with
  | nil seq =>
    cases hnext
    exact hmore
  | torn _ => cases hnext
  | goodbye _ _ _ => cases hnext
  | data hlen _ ih =>
    rw [List.append_assoc, List.append_assoc]
    exact .data hlen (ih hnext)

/-- Nothing counts behind a goodbye. -/
theorem append_goodbye (h : Transcript version side seq wire plain .goodbye) (more : Bytes) :
    Transcript version side seq (wire ++ more) plain .goodbye := by
  generalize hbye : Tail.goodbye = start at h
  induction h with
  | nil seq => cases hbye
  | torn _ => cases hbye
  | goodbye seq level rest =>
    rw [List.append_assoc]
    exact .goodbye seq level (rest ++ more)
  | data hlen _ ih =>
    rw [List.append_assoc]
    exact .data hlen (ih hbye)

theorem length_goodbye_le (level : UInt8) :
    [level, Alert.closeNotify.code].length ≤ Record.maxFragment := by
  simp only [List.length_cons, List.length_nil, Record.maxFragment]
  omega

/-- A transcript begins with no malformed record. -/
theorem not_malformed (h : Transcript version side seq wire plain tail) (fault : Malformation) :
    Record.split wire ≠ .malformed fault := by
  intro hsplit
  cases h with
  | nil seq => cases hsplit
  | torn htorn => rw [htorn] at hsplit; cases hsplit
  | goodbye _ level rest =>
    rw [Record.split_encode_sealed_append _ _ _ _ _ (length_goodbye_le level)] at hsplit
    cases hsplit
  | data hlen _ =>
    rw [Record.split_encode_sealed_append _ _ _ _ _ hlen] at hsplit
    cases hsplit

/-- A transcript of less than a record carries nothing, and if it is not torn, it is empty. -/
theorem of_incomplete (h : Transcript version side seq wire plain tail)
    (hsplit : Record.split wire = .incomplete) :
    plain = [] ∧ tail ≠ .goodbye ∧ ∀ n, tail = .next n → wire = [] := by
  cases h with
  | nil seq => exact ⟨rfl, Tail.noConfusion, fun _ _ => rfl⟩
  | torn _ => exact ⟨rfl, Tail.noConfusion, fun _ hn => Tail.noConfusion hn⟩
  | goodbye _ level rest =>
    rw [Record.split_encode_sealed_append _ _ _ _ _ (length_goodbye_le level)] at hsplit
    cases hsplit
  | data hlen _ =>
    rw [Record.split_encode_sealed_append _ _ _ _ _ hlen] at hsplit
    cases hsplit

/-- The first record of a transcript is a piece of plaintext or the goodbye. -/
theorem of_whole {r : Record} {rest : Bytes} (h : Transcript version side seq wire plain tail)
    (hsplit : Record.split wire = .whole r rest) :
    (∃ piece plain', r = Record.sealed version side seq .applicationData piece ∧
        plain = piece ++ plain' ∧ Transcript version side (seq + 1) rest plain' tail) ∨
      (∃ level, r = Record.sealed version side seq .alert [level, Alert.closeNotify.code] ∧
        plain = [] ∧ tail = .goodbye) := by
  cases h with
  | nil seq => cases hsplit
  | torn htorn => rw [htorn] at hsplit; cases hsplit
  | goodbye _ level rest =>
    rw [Record.split_encode_sealed_append _ _ _ _ _ (length_goodbye_le level)] at hsplit
    cases hsplit
    exact Or.inr ⟨level, rfl, rfl, rfl⟩
  | data hlen h =>
    rw [Record.split_encode_sealed_append _ _ _ _ _ hlen] at hsplit
    cases hsplit
    exact Or.inl ⟨_, _, rfl, rfl, h⟩

end Transcript

/-! ## Speaking -/

theorem length_le_of_mem_fragments {plain piece : Bytes} (h : piece ∈ fragments plain) :
    piece.length ≤ Record.maxFragment := by
  fun_induction fragments plain with
  | case1 => cases h
  | case2 plain _ ih =>
    rcases List.mem_cons.1 h with rfl | hrest
    · exact List.length_take_le _ _
    · exact ih hrest

theorem flatten_fragments (plain : Bytes) : (fragments plain).flatten = plain := by
  fun_induction fragments plain with
  | case1 => rfl
  | case2 plain _ ih => rw [List.flatten_cons, ih, List.take_append_drop]

/-- Pieces of plaintext that are sealed one after the other make a transcript. -/
theorem foldl_sealOne_speaks (pieces : List Bytes) (s : Session)
    (hlen : ∀ piece ∈ pieces, piece.length ≤ Record.maxFragment) :
    ∃ wire, pieces.foldl (fun s piece => s.sealOne .applicationData piece) s =
        { s with sealedCount := s.sealedCount + pieces.length, outbox := s.outbox ++ wire } ∧
      Transcript s.version s.side s.sealedCount wire pieces.flatten
        (.next (s.sealedCount + pieces.length)) := by
  induction pieces generalizing s with
  | nil => exact ⟨[], by simp, .nil s.sealedCount⟩
  | cons piece rest ih =>
    obtain ⟨wire, hfold, hspoken⟩ := ih (s.sealOne .applicationData piece)
      fun p hp => hlen p (List.mem_cons_of_mem _ hp)
    have hcount : s.sealedCount + (piece :: rest).length = s.sealedCount + 1 + rest.length := by
      rw [List.length_cons]
      omega
    refine ⟨(Record.sealed s.version s.side s.sealedCount .applicationData piece).encode ++ wire,
      ?_, ?_⟩
    · rw [List.foldl_cons, hfold, hcount]
      simp [sealOne, List.append_assoc]
    · rw [hcount, List.flatten_cons]
      exact .data (hlen piece List.mem_cons_self) hspoken

/-- A session that has not failed takes all plaintext, which stands behind what it said before. -/
theorem send?_speaks {s : Session} (hfailure : s.failure = none) (plain : Bytes) :
    ∃ count wire, s.send? plain =
        .ok { s with sealedCount := count, outbox := s.outbox ++ wire } ∧
      Transcript s.version s.side s.sealedCount wire plain (.next count) := by
  obtain ⟨wire, hfold, hspoken⟩ := foldl_sealOne_speaks (fragments plain) s
    fun _ hp => length_le_of_mem_fragments hp
  rw [flatten_fragments] at hspoken
  refine ⟨_, wire, ?_, hspoken⟩
  simp only [send?, hfailure, hfold]

/-- The first goodbye stands behind what was said before. -/
theorem closeNotify_speaks {s : Session} (h : s.saidGoodbye = false) :
    ∃ wire, s.closeNotify =
        { s with
          sealedCount := s.sealedCount + 1, outbox := s.outbox ++ wire, saidGoodbye := true } ∧
      Transcript s.version s.side s.sealedCount wire [] .goodbye := by
  refine ⟨_, ?_, .goodbye s.sealedCount 1 []⟩
  simp [closeNotify, h, sealAlert, sealOne]

end PinnedLink.Session
