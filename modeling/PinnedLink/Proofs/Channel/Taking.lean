import PinnedLink.Proofs.Channel.Buffering

/-!
# Looking for a frame never stops halfway

`takeFrame` cuts and copies bytes with functions that always give something.  The machine that does the
same is not so forgiving: a slice beyond the end, a sum that is no word, or a copy between places of
different lengths stops it, and a message that refused its header or its length would do so when the
header has left the buffer already.  `takeGuarded` looks for a frame step by step with operations that
end in a `Mishap` there, and keeps a record of how it uses the buffer.

No mishap ever happens, whatever the buffer, the bound and the caller's message are; what the steps come
to is `takeFrame`, and what they put on record is `frameUses` (`takeGuarded_eq`).  What is left of buffer
and message is told by `Takes`.
-/

namespace PinnedLink.Channel

open PinnedLink.Frame (Header Message)

/-! ## Steps that can go wrong -/

/-- What can go wrong on the way to a frame. -/
inductive Mishap where
  /-- A slice ends behind the bytes. -/
  | outside (stop len : Nat)
  /-- More bytes are taken off than there are. -/
  | exhausted (n len : Nat)
  /-- A sum is no word. -/
  | overflow (a b : Nat)
  /-- A difference is below zero. -/
  | underflow (a b : Nat)
  /-- A buffer is to hold more bytes than any can. -/
  | capacity (len : Nat)
  /-- Bytes are copied to a place of another length. -/
  | uneven (place len : Nat)
  /-- The message refuses a header that has been taken off the buffer. -/
  | halfway (e : Frame.Error)
deriving DecidableEq, Repr

/-- The bytes in front of an index. -/
def slice (bytes : Bytes) (stop : Nat) : Except Mishap Bytes :=
  if stop ≤ bytes.length then .ok (bytes.take stop) else .error (.outside stop bytes.length)

/-- The sum of two words. -/
def addWords (a b : Nat) : Except Mishap Nat :=
  if a + b < UInt64.size then .ok (a + b) else .error (.overflow a b)

/-- The difference of two words. -/
def subWords (a b : Nat) : Except Mishap Nat :=
  if b ≤ a then .ok (a - b) else .error (.underflow a b)

/-- Bytes copied to a place. -/
def copyTo (place bytes : Bytes) : Except Mishap Bytes :=
  if place.length = bytes.length then .ok bytes
  else .error (.uneven place.length bytes.length)

/-- The message that a change makes of a message, behind the point of no return. -/
def committed (change : Except Frame.Error Message) : Except Mishap Message :=
  change.mapError .halfway

/-- A buffer with a record of how it was used, oldest first. -/
structure TrackedBuffer where
  bytes : Bytes
  uses : List BufferUse

namespace TrackedBuffer

/-- A buffer that was not used yet. -/
def ofBytes (bytes : Bytes) : TrackedBuffer := { bytes, uses := [] }

/-- The buffer behind a use of it. -/
def behind (b : TrackedBuffer) (use : BufferUse) : TrackedBuffer :=
  { bytes := use.apply b.bytes, uses := b.uses ++ [use] }

/-- Takes bytes off the front. -/
def advance (b : TrackedBuffer) (n : Nat) : Except Mishap TrackedBuffer :=
  if n ≤ b.bytes.length then .ok (b.behind (.advance n)) else .error (.exhausted n b.bytes.length)

/-- Makes room for more bytes.  A buffer holds less than half of what a word can count. -/
def reserve (b : TrackedBuffer) (more : Nat) : Except Mishap TrackedBuffer :=
  if b.bytes.length + more < UInt64.size / 2 then .ok (b.behind (.reserve more))
  else .error (.capacity (b.bytes.length + more))

theorem advance_of_le {b : TrackedBuffer} {n : Nat} (h : n ≤ b.bytes.length) :
    b.advance n = .ok (b.behind (.advance n)) := if_pos h

theorem reserve_of_lt {b : TrackedBuffer} {more : Nat}
    (h : b.bytes.length + more < UInt64.size / 2) :
    b.reserve more = .ok (b.behind (.reserve more)) := if_pos h

end TrackedBuffer

theorem slice_of_le {bytes : Bytes} {stop : Nat} (h : stop ≤ bytes.length) :
    slice bytes stop = .ok (bytes.take stop) := if_pos h

theorem addWords_of_lt {a b : Nat} (h : a + b < UInt64.size) : addWords a b = .ok (a + b) := if_pos h

theorem subWords_of_le {a b : Nat} (h : b ≤ a) : subWords a b = .ok (a - b) := if_pos h

theorem copyTo_of_eq {place bytes : Bytes} (h : place.length = bytes.length) :
    copyTo place bytes = .ok bytes := if_pos h

/-! ## Looking for a frame step by step -/

/-- Looks for a frame at the front of a buffer, and ends at the first mishap; with the result, the
record of how the buffer was used. -/
def takeGuarded (maxBodyLen : Nat) (buffer : Bytes) (m : Message) :
    Except Mishap ((Except TransportError (Option Nat) × Bytes × Message) × List BufferUse) := do
  let b := TrackedBuffer.ofBytes buffer
  if b.bytes.length < Frame.headerLen then
    pure ((.ok none, b.bytes, m), b.uses)
  else
    match Header.decode (← slice b.bytes Frame.headerLen) with
    | .error e => pure ((.error (.malformedHeader e), b.bytes, m), b.uses)
    | .ok header =>
      let bodyLen := header.bodyLen.toNat
      if maxBodyLen < bodyLen then
        pure ((.error (.oversizedMessage bodyLen maxBodyLen), b.bytes, m), b.uses)
      else
        let needed ← addWords Frame.headerLen bodyLen
        if b.bytes.length < needed then
          let b ← b.reserve (← subWords needed b.bytes.length)
          pure ((.ok none, b.bytes, m), b.uses)
        else
          let raw ← copyTo (List.replicate Frame.headerLen 0) (← slice b.bytes Frame.headerLen)
          let b ← b.advance Frame.headerLen
          let m ← committed (m.setHeader raw)
          let m ← committed (m.resize m.bodyLen)
          let body ← copyTo m.body (← slice b.bytes bodyLen)
          let b ← b.advance bodyLen
          pure ((.ok (some bodyLen), b.bytes, { m with body }), b.uses)

/-- A header declares less than a word can count, even together with its own eight bytes. -/
theorem frameLen_lt (header : Header) :
    Frame.headerLen + header.bodyLen.toNat < UInt64.size / 2 := by
  have hbound := header.bodyLen.toNat_lt
  have hheader : Frame.headerLen = 8 := rfl
  have hhalf : UInt64.size / 2 = 9223372036854775808 := rfl
  omega

/-- Looking for a frame never ends in a mishap. -/
theorem takeGuarded_eq (maxBodyLen : Nat) (buffer : Bytes) (m : Message) :
    takeGuarded maxBodyLen buffer m =
      .ok (takeFrame maxBodyLen buffer m, frameUses maxBodyLen buffer) := by
  unfold takeGuarded takeFrame frameUses
  dsimp only [TrackedBuffer.ofBytes]
  by_cases hshort : buffer.length < Frame.headerLen
  · rw [if_pos hshort, if_pos hshort, if_pos hshort]
    rfl
  have hheader := Nat.not_lt.1 hshort
  rw [if_neg hshort, if_neg hshort, if_neg hshort, slice_of_le hheader]
  cases hdecode : Header.decode (buffer.take Frame.headerLen) with
  | error e => simp only [bind, Except.bind, hdecode]; rfl
  | ok header =>
    have hneeded := frameLen_lt header
    simp only [bind, Except.bind, hdecode]
    by_cases hlarge : maxBodyLen < header.bodyLen.toNat
    · rw [if_pos hlarge, if_pos hlarge, if_pos hlarge]
      rfl
    rw [if_neg hlarge, if_neg hlarge, if_neg hlarge, addWords_of_lt (by omega)]
    by_cases hbody : buffer.length < Frame.headerLen + header.bodyLen.toNat
    · simp only [if_pos hbody, subWords_of_le (Nat.le_of_lt hbody)]
      rw [TrackedBuffer.reserve_of_lt (by dsimp only; omega)]
      rfl
    have hwhole := Nat.not_lt.1 hbody
    have hrest : header.bodyLen.toNat ≤ (buffer.drop Frame.headerLen).length := by
      rw [List.length_drop]
      omega
    have hraw : (List.replicate Frame.headerLen (0 : UInt8)).length =
        (buffer.take Frame.headerLen).length := by
      rw [List.length_replicate, List.length_take, Nat.min_eq_left hheader]
    have htaken : ((buffer.drop Frame.headerLen).take header.bodyLen.toNat).length =
        header.bodyLen.toNat := by
      rw [List.length_take, Nat.min_eq_left hrest]
    -- the header was decoded before it was taken off, so the message cannot refuse it now
    obtain ⟨body, hresize, hplace⟩ := ({ m with header } : Message).exists_resize_bodyLen
    have hplace : body.length = header.bodyLen.toNat := hplace
    have hcopy := copyTo_of_eq (hplace.trans htaken.symm)
    have hoverwrite := Message.overwrite_zero (m := { header, body }) (htaken.trans hplace.symm)
    have hpast := TrackedBuffer.advance_of_le (b := .ofBytes buffer) hheader
    have hleft := TrackedBuffer.advance_of_le
      (b := (TrackedBuffer.ofBytes buffer).behind (.advance Frame.headerLen)) hrest
    simp only [TrackedBuffer.ofBytes, TrackedBuffer.behind, BufferUse.apply] at hpast hleft
    simp only [if_neg hbody, copyTo_of_eq hraw, hpast, Message.setHeader_of_decode hdecode, committed,
      Except.mapError, hresize, slice_of_le hrest, hcopy, hleft, hoverwrite]
    rfl

/-- What looking for a frame leaves of buffer and message: both as they are, or the frame in the message
and what follows it in the buffer. -/
inductive Takes (buffer : Bytes) (m : Message) :
    Except TransportError (Option Nat) × Bytes × Message → Prop where
  | nothing : Takes buffer m (.ok none, buffer, m)
  | refused {e : TransportError} : Takes buffer m (.error e, buffer, m)
  | frame {n : Nat} {after : Message} (hle : Frame.headerLen + n ≤ buffer.length)
      (hbytes : after.encode = buffer.take (Frame.headerLen + n)) (hlen : after.bodyLen = n)
      (hbody : after.body.length = n) :
      Takes buffer m (.ok (some n), buffer.drop (Frame.headerLen + n), after)

theorem takes_takeFrame (maxBodyLen : Nat) (buffer : Bytes) (m : Message) :
    Takes buffer m (takeFrame maxBodyLen buffer m) := by
  rw [takeFrame_eq]
  cases hfront : front maxBodyLen buffer with
  | unfinished => exact .nothing
  | bad e => exact .refused
  | frame after rest =>
    obtain ⟨hbuffer, hvalid, -⟩ := eq_encode_append_of_front hfront
    have hbody := Message.validate_eq_ok_iff.1 hvalid
    have hlength : after.encode.length = Frame.headerLen + after.bodyLen := by
      rw [Message.encode, List.length_append, Header.length_encode, hbody]
    have hrest : rest = buffer.drop (Frame.headerLen + after.bodyLen) := by
      rw [hbuffer, ← hlength, List.drop_left]
    have htake : after.encode = buffer.take (Frame.headerLen + after.bodyLen) := by
      rw [hbuffer, ← hlength, List.take_left]
    have hle : Frame.headerLen + after.bodyLen ≤ buffer.length := by
      rw [hbuffer, List.length_append]
      omega
    dsimp only
    rw [hrest]
    exact .frame hle htake rfl hbody

/-- Looking for a frame is safe and all or nothing, whatever the buffer holds, whatever the bound is and
whatever message the caller brings: no step of it can go wrong, the ones behind the point where the
header has left the buffer included; it uses the buffer as `frameUses` lists; and it leaves buffer and
message as they are unless it moves exactly one frame from the front of the buffer into the message. -/
theorem takeFrame_all_or_nothing (maxBodyLen : Nat) (buffer : Bytes) (m : Message) :
    takeGuarded maxBodyLen buffer m =
        .ok (takeFrame maxBodyLen buffer m, frameUses maxBodyLen buffer) ∧
      Takes buffer m (takeFrame maxBodyLen buffer m) :=
  ⟨takeGuarded_eq maxBodyLen buffer m, takes_takeFrame maxBodyLen buffer m⟩

/-- The longest frame that a header can declare, under the largest bound. -/
example : takeGuarded (UInt64.size - 1) (Header.encode ⟨7, 4294967295⟩) (Message.new 0) =
    .ok ((.ok none, Header.encode ⟨7, 4294967295⟩, Message.new 0), [.reserve 4294967295]) := by
  rfl

end PinnedLink.Channel
