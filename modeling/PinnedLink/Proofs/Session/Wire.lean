import Mathlib.Tactic.ByContra
import Mathlib.Tactic.SplitIfs
import PinnedLink.Session.Record

/-!
# Records in a byte stream

A reader of records sees the bytes of the other end in pieces.  `Record.split_append` says that a
judgement that `Record.split` has made stands whatever follows: a whole record stays the same record,
a malformed one stays malformed.  Only an unfinished record waits for what follows, and it is always
shorter than the longest record (`Record.length_lt_of_split_incomplete`), so a reader that keeps an
unfinished record has room for more.

`Record.split_encode_append` takes a record back off the front of a stream, and
`Record.split_encode_sealed_append` says that of every record that an end seals.
-/

namespace PinnedLink.Session.Record

/-! ## More bytes behind a judgement -/

/-- What stands at the front once more bytes have followed. -/
def Split.append : Split → Bytes → Split
  | .incomplete, _ => .incomplete
  | .malformed fault, _ => .malformed fault
  | .whole record rest, more => .whole record (rest ++ more)

theorem splitPayload_append {contentType : ContentType} {len : Nat} {body : Bytes}
    (more : Bytes) (h : splitPayload contentType len body ≠ .incomplete) :
    splitPayload contentType len (body ++ more) =
      (splitPayload contentType len body).append more := by
  unfold splitPayload at h ⊢
  by_cases hempty : len = 0 ∧ contentType ≠ .applicationData
  · rw [if_pos hempty, if_pos hempty, Split.append]
  · rw [if_neg hempty] at h ⊢
    rw [if_neg hempty]
    by_cases hlarge : maxPayload ≤ len
    · rw [if_pos hlarge, if_pos hlarge, Split.append]
    · rw [if_neg hlarge] at h ⊢
      rw [if_neg hlarge]
      by_cases hshort : (body.take len).length < len
      · exact absurd (if_pos hshort) h
      · have hle : len ≤ body.length := by
          rw [List.length_take] at hshort
          omega
        have hmore : ¬ ((body ++ more).take len).length < len := by
          rw [List.length_take, List.length_append]
          omega
        rw [if_neg hshort, if_neg hmore, Split.append,
          List.take_append_of_le_length hle, List.drop_append_of_le_length hle]

/-- A judgement on the front of a byte string stands whatever follows. -/
theorem split_append {bytes : Bytes} (more : Bytes) (h : split bytes ≠ .incomplete) :
    split (bytes ++ more) = (split bytes).append more := by
  rcases bytes with _ | ⟨code, afterType⟩
  · exact absurd rfl h
  rw [List.cons_append]
  unfold split at h ⊢
  cases hcode : ContentType.ofCode? code with
  | none => simp only [hcode, Split.append]
  | some contentType =>
    rcases afterType with _ | ⟨major, _ | ⟨minor, afterVersion⟩⟩
    · simp only [hcode, ne_eq, not_true_eq_false] at h
    · simp only [hcode, ne_eq, not_true_eq_false] at h
    · simp only [hcode, List.cons_append] at h ⊢
      by_cases hversion : isKnownVersion major minor = true
      · rw [if_pos hversion] at h ⊢
        rw [if_pos hversion]
        rcases afterVersion with _ | ⟨hi, _ | ⟨lo, body⟩⟩
        · simp only [ne_eq, not_true_eq_false] at h
        · simp only [ne_eq, not_true_eq_false] at h
        · exact splitPayload_append more h
      · rw [if_neg hversion, if_neg hversion, Split.append]

/-- A whole record at the front stays there. -/
theorem split_append_of_whole {bytes rest : Bytes} {r : Record} (h : split bytes = .whole r rest)
    (more : Bytes) : split (bytes ++ more) = .whole r (rest ++ more) := by
  rw [split_append more (by rw [h]; exact Split.noConfusion), h, Split.append]

/-- A malformed front stays malformed. -/
theorem split_append_of_malformed {bytes : Bytes} {fault : Malformation}
    (h : split bytes = .malformed fault) (more : Bytes) :
    split (bytes ++ more) = .malformed fault := by
  rw [split_append more (by rw [h]; exact Split.noConfusion), h, Split.append]

/-! ## The length of an unfinished record -/

theorem length_lt_of_splitPayload_incomplete {contentType : ContentType} {len : Nat} {body : Bytes}
    (h : splitPayload contentType len body = .incomplete) : body.length < maxPayload := by
  unfold splitPayload at h
  dsimp only at h
  split_ifs at h with hempty hlarge hshort
  · rw [List.length_take] at hshort
    omega

/-- An unfinished record is shorter than the longest record. -/
theorem length_lt_of_split_incomplete {bytes : Bytes} (h : split bytes = .incomplete) :
    bytes.length < maxWireLen := by
  have hwire : maxWireLen = maxPayload + 5 := rfl
  have hpos : 0 < maxPayload := by decide
  rcases bytes with _ | ⟨code, afterType⟩
  · rw [List.length_nil]
    omega
  unfold split at h
  cases hcode : ContentType.ofCode? code with
  | none => simp only [hcode, reduceCtorEq] at h
  | some contentType =>
    rcases afterType with _ | ⟨major, _ | ⟨minor, afterVersion⟩⟩
    · simp only [List.length_cons, List.length_nil]
      omega
    · simp only [List.length_cons, List.length_nil]
      omega
    · simp only [hcode] at h
      by_cases hversion : isKnownVersion major minor = true
      · rw [if_pos hversion] at h
        rcases afterVersion with _ | ⟨hi, _ | ⟨lo, body⟩⟩
        · simp only [List.length_cons, List.length_nil]
          omega
        · simp only [List.length_cons, List.length_nil]
          omega
        · have hbody := length_lt_of_splitPayload_incomplete h
          simp only [List.length_cons]
          omega
      · rw [if_neg hversion] at h
        cases h

/-! ## Taking records back off a stream -/

theorem splitPayload_append_self {contentType : ContentType} {payload : Bytes} (rest : Bytes)
    (hlen : payload.length < maxPayload)
    (hne : payload ≠ [] ∨ contentType = .applicationData) :
    splitPayload contentType payload.length (payload ++ rest) =
      .whole { contentType, payload } rest := by
  have hempty : ¬ (payload.length = 0 ∧ contentType ≠ .applicationData) := by
    rintro ⟨hzero, htype⟩
    rcases hne with hne | hne
    · exact hne (List.length_eq_zero_iff.1 hzero)
    · exact htype hne
  have htake : (payload ++ rest).take payload.length = payload := List.take_left
  unfold splitPayload
  rw [if_neg hempty, if_neg (Nat.not_le.2 hlen), htake, if_neg (Nat.lt_irrefl _), List.drop_left]

/-- A record that is not too long comes back off the front of a stream. -/
theorem split_encode_append (r : Record) (rest : Bytes) (hlen : r.payload.length < maxPayload)
    (hne : r.payload ≠ [] ∨ r.contentType = .applicationData) :
    split (r.encode ++ rest) = .whole r rest := by
  have hread : (UInt8.ofNat (r.payload.length / 256)).toNat * 256
      + (UInt8.ofNat r.payload.length).toNat = r.payload.length := by
    have hmax : maxPayload = 18432 := rfl
    simp only [UInt8.toNat_ofNat']
    omega
  have hversion : isKnownVersion 0x03 0x03 = true := by decide
  simp only [encode, BigEndian.writeUInt16, List.cons_append, List.nil_append, split,
    ContentType.ofCode?_code, hversion, ↓reduceIte, hread]
  exact splitPayload_append_self rest hlen hne

/-- The payload of a sealed record is the content and at most twenty-four bytes more. -/
theorem length_payload_sealed (version : Version) (side : Side) (seq : Nat) (t : ContentType)
    (content : Bytes) :
    content.length < (sealed version side seq t content).payload.length ∧
      (sealed version side seq t content).payload.length ≤ content.length + 24 := by
  cases version with
  | tls12 =>
    simp only [sealed, noncePart, List.length_append, BigEndian.length_writeNat, length_sealOf,
      sealLen]
    omega
  | tls13 =>
    simp only [sealed, List.length_append, List.length_cons, List.length_nil, length_sealOf,
      sealLen]
    omega

/-- A sealed record comes back off the front of a stream. -/
theorem split_encode_sealed_append (version : Version) (side : Side) (seq : Nat) (t : ContentType)
    {content : Bytes} (rest : Bytes) (hlen : content.length ≤ maxFragment) :
    split ((sealed version side seq t content).encode ++ rest) =
      .whole (sealed version side seq t content) rest := by
  obtain ⟨hlower, hupper⟩ := length_payload_sealed version side seq t content
  have hmax : maxPayload = 18432 := rfl
  have hfragment : maxFragment = 16384 := rfl
  refine split_encode_append _ rest (by omega) (Or.inl ?_)
  intro hnil
  rw [hnil, List.length_nil] at hlower
  omega

end PinnedLink.Session.Record
