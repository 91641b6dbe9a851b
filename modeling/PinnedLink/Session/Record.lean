import PinnedLink.Session.Error
import PinnedLink.Session.Version

/-!
# Records

What two established ends of a session exchange is a sequence of records: a content type, two
version bytes, a length and a payload.  `Record.split` takes the first record off a byte string or
says what is wrong with it.

A record is sealed under its direction, its place in the sequence and its content type, and opens
only where all three agree (`open?_sealed`).  The seal is a checksum: it tells a record that was
lost, moved, injected or damaged from one that was not, and it keeps nothing secret.
-/

namespace PinnedLink.Session

/-- A record on the wire, without its version and length. -/
structure Record where
  contentType : ContentType
  payload : Bytes
deriving DecidableEq, Repr

namespace Record

/-- Bytes ahead of the payload. -/
def headerLen : Nat := 5

/-- Payloads are shorter than this. -/
def maxPayload : Nat := 18432

/-- The longest record on the wire. -/
def maxWireLen : Nat := maxPayload + headerLen

/-- The most content that one record carries. -/
def maxFragment : Nat := 16384

/-- A record as bytes. -/
def encode (r : Record) : Bytes :=
  r.contentType.code :: 0x03 :: 0x03 :: (BigEndian.writeUInt16 r.payload.length ++ r.payload)

/-- The version bytes of the protocols that records may belong to. -/
def isKnownVersion (major minor : UInt8) : Bool :=
  major == 0x03 || (major, minor) ∈ [((0x02 : UInt8), (0x00 : UInt8)), (0xfe, 0xff), (0xfe, 0xfd),
    (0xfe, 0xfc)]

/-- What stands at the front of a byte string. -/
inductive Split where
  /-- The beginning of a record. -/
  | incomplete
  /-- Nothing that can become a record. -/
  | malformed (fault : Malformation)
  /-- A whole record and what follows it. -/
  | whole (record : Record) (rest : Bytes)
deriving DecidableEq, Repr

/-- The payload of a declared length, and what follows it, behind a record's header. -/
def splitPayload (contentType : ContentType) (len : Nat) (body : Bytes) : Split :=
  if len = 0 ∧ contentType ≠ .applicationData then .malformed .invalidEmptyPayload
  else if maxPayload ≤ len then .malformed .messageTooLarge
  else
    let payload := body.take len
    if payload.length < len then .incomplete
    else .whole { contentType, payload } (body.drop len)

/-- Takes the first record off a byte string.  Its first byte, then its version, then its length
are judged as soon as they are there. -/
def split : Bytes → Split
  | [] => .incomplete
  | code :: afterType =>
    match ContentType.ofCode? code, afterType with
    | none, _ => .malformed .invalidContentType
    | some contentType, major :: minor :: afterVersion =>
      if isKnownVersion major minor then
        match afterVersion with
        | hi :: lo :: body => splitPayload contentType (hi.toNat * 256 + lo.toNat) body
        | _ => .incomplete
      else .malformed .unknownProtocolVersion
    | some _, _ => .incomplete

theorem length_rest_splitPayload {contentType : ContentType} {len : Nat} {body rest : Bytes}
    {record : Record} (h : splitPayload contentType len body = .whole record rest) :
    rest.length ≤ body.length := by
  unfold splitPayload at h
  by_cases hempty : len = 0 ∧ contentType ≠ .applicationData
  · rw [if_pos hempty] at h; cases h
  · rw [if_neg hempty] at h
    by_cases hlarge : maxPayload ≤ len
    · rw [if_pos hlarge] at h; cases h
    · rw [if_neg hlarge] at h
      by_cases hshort : (body.take len).length < len
      · rw [if_pos hshort] at h; cases h
      · rw [if_neg hshort] at h
        cases h
        rw [List.length_drop]
        omega

theorem length_rest_lt {bytes rest : Bytes} {record : Record}
    (h : split bytes = .whole record rest) : rest.length < bytes.length := by
  unfold split at h
  split at h
  · cases h
  · split at h
    · cases h
    · split at h
      · split at h
        · have := length_rest_splitPayload h
          simp only [List.length_cons]
          omega
        · cases h
      · cases h
    · cases h

/-! ## Sealing -/

/-- Mixes one byte into a running checksum. -/
def mix (acc : UInt64) (b : UInt8) : UInt64 :=
  (acc ^^^ b.toUInt64) * 0x100000001b3

/-- The checksum of a record's content under its direction, place and type. -/
def checksum (side : Side) (seq : Nat) (contentType : ContentType) (content : Bytes) : UInt64 :=
  let direction : UInt8 := match side with
    | .client => 0
    | .server => 1
  let start := (direction :: contentType.code :: BigEndian.writeNat 8 seq).foldl mix
    0xcbf29ce484222325
  content.foldl mix start

/-- The sixteen bytes that close a sealed record: its place and its checksum. -/
def sealOf (side : Side) (seq : Nat) (contentType : ContentType) (content : Bytes) : Bytes :=
  BigEndian.writeNat 8 seq
    ++ BigEndian.writeNat 8 (checksum side seq contentType content).toNat

/-- Length of the closing bytes. -/
def sealLen : Nat := 16

/-- Bytes ahead of the content in the payload of a sealed record. -/
def noncePart (version : Version) (seq : Nat) : Bytes :=
  match version with
  | .tls12 => BigEndian.writeNat 8 seq
  | .tls13 => []

/-- Length of the bytes ahead of the content. -/
def nonceLen : Version → Nat
  | .tls12 => 8
  | .tls13 => 0

/-- Seals content that a side sends as its record number `seq`.  The newer version hides the
content type behind the content and calls every record application data. -/
def sealed (version : Version) (side : Side) (seq : Nat) (contentType : ContentType)
    (content : Bytes) : Record :=
  match version with
  | .tls12 =>
    { contentType
      payload := noncePart .tls12 seq ++ (content ++ sealOf side seq contentType content) }
  | .tls13 =>
    { contentType := .applicationData
      payload := (content ++ [contentType.code]) ++ sealOf side seq contentType content }

/-- Opens a record that the given side sent as its record number `seq`. -/
def open? (version : Version) (side : Side) (seq : Nat) (r : Record) :
    Option (ContentType × Bytes) :=
  let inner := r.payload.drop (nonceLen version)
  if inner.length < sealLen then none
  else
    let body := inner.take (inner.length - sealLen)
    let closing := inner.drop (inner.length - sealLen)
    match version with
    | .tls12 =>
      if closing = sealOf side seq r.contentType body then some (r.contentType, body) else none
    | .tls13 => do
      let code ← body.getLast?
      let contentType ← ContentType.ofCode? code
      let content := body.dropLast
      if closing = sealOf side seq contentType content then some (contentType, content) else none

@[simp] theorem length_sealOf (side : Side) (seq : Nat) (t : ContentType) (content : Bytes) :
    (sealOf side seq t content).length = sealLen := by
  simp [sealOf, BigEndian.length_writeNat, sealLen]

/-- A sealed record opens where it was sealed for, with the content that went in. -/
theorem open?_sealed (version : Version) (side : Side) (seq : Nat) (t : ContentType)
    (content : Bytes) :
    open? version side seq (sealed version side seq t content) = some (t, content) := by
  cases version with
  | tls12 =>
    have hd : (noncePart .tls12 seq ++ (content ++ sealOf side seq t content)).drop 8
        = content ++ sealOf side seq t content := by
      rw [List.drop_append_of_le_length] <;> simp [noncePart, BigEndian.length_writeNat]
    simp [open?, sealed, nonceLen, hd]
  | tls13 =>
    have ht : ((content ++ [t.code]) ++ sealOf side seq t content).take
        (((content ++ [t.code]) ++ sealOf side seq t content).length - sealLen)
        = content ++ [t.code] := by
      rw [List.length_append, length_sealOf, Nat.add_sub_cancel, List.take_left]
    have hd : ((content ++ [t.code]) ++ sealOf side seq t content).drop
        (((content ++ [t.code]) ++ sealOf side seq t content).length - sealLen)
        = sealOf side seq t content := by
      rw [List.length_append, length_sealOf, Nat.add_sub_cancel, List.drop_left]
    have hl : ¬ ((content ++ [t.code]) ++ sealOf side seq t content).length < sealLen := by
      rw [List.length_append, length_sealOf]
      omega
    simp only [open?, sealed, nonceLen, List.drop_zero, ht, hd, if_neg hl,
      List.getLast?_concat, List.dropLast_concat]
    simp [ContentType.ofCode?_code]

end Record

end PinnedLink.Session
