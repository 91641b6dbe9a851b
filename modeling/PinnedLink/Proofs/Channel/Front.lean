import PinnedLink.Channel.Frames
import PinnedLink.Proofs.Frame.Editing

/-!
# What stands at the front of a stream of frames

`front` reads the front of a whole stream of plaintext: a frame and what follows it, a header that
can never become a frame, or the beginning of one.  It knows nothing of buffers or of the message
that a caller brings.  `takeFrame_eq` says that `takeFrame` is `front` on whatever has gathered in the
buffer, and `front_append` that what `front` has made out stands whatever follows.  So a receiver
that looks at its buffer too early only ever learns that it has to wait.

A frame at the front is the encoding of its message (`eq_encode_append_of_front`), and the encoding
of a message is a frame at the front, or a bad header if its body is above the bound
(`front_encode_append`).
-/

namespace PinnedLink

open PinnedLink.Frame (Header Message)

namespace Channel

/-! ## The front of a stream -/

/-- What stands at the front of a stream of frames. -/
inductive Front where
  /-- Less than a frame. -/
  | unfinished
  /-- A header that a receiver refuses. -/
  | bad (e : TransportError)
  /-- A frame and what follows it. -/
  | frame (m : Message) (rest : Bytes)

/-- Reads the front of a stream: eight bytes of header, then as many bytes as it declares. -/
def front (maxBodyLen : Nat) (plain : Bytes) : Front :=
  if plain.length < Frame.headerLen then .unfinished
  else
    match Header.decode (plain.take Frame.headerLen) with
    | .error e => .bad (.malformedHeader e)
    | .ok header =>
      let len := header.bodyLen.toNat
      let afterHeader := plain.drop Frame.headerLen
      if maxBodyLen < len then .bad (.oversizedMessage len maxBodyLen)
      else if afterHeader.length < len then .unfinished
      else
        match Message.withBody header.kind (afterHeader.take len) with
        | .error e => .bad (.malformedHeader e)
        | .ok m => .frame m (afterHeader.drop len)

/-- What stands at the front once more bytes have followed. -/
def Front.append : Front → Bytes → Front
  | .unfinished, _ => .unfinished
  | .bad e, _ => .bad e
  | .frame m rest, more => .frame m (rest ++ more)

/-- What was made out at the front of a stream stands whatever follows. -/
theorem front_append {maxBodyLen : Nat} {plain : Bytes} (more : Bytes)
    (h : front maxBodyLen plain ≠ .unfinished) :
    front maxBodyLen (plain ++ more) = (front maxBodyLen plain).append more := by
  unfold front at h ⊢
  by_cases hshort : plain.length < Frame.headerLen
  · exact absurd (if_pos hshort) h
  · have hmore : ¬ (plain ++ more).length < Frame.headerLen := by
      rw [List.length_append]
      omega
    have hheader := Nat.not_lt.1 hshort
    rw [if_neg hshort] at h ⊢
    rw [if_neg hmore, List.take_append_of_le_length hheader, List.drop_append_of_le_length hheader]
    cases hdecode : Header.decode (plain.take Frame.headerLen) with
    | error e => rfl
    | ok header =>
      simp only [hdecode] at h ⊢
      by_cases hlarge : maxBodyLen < header.bodyLen.toNat
      · rw [if_pos hlarge, if_pos hlarge, Front.append]
      · rw [if_neg hlarge] at h ⊢
        rw [if_neg hlarge]
        by_cases hbody : (plain.drop Frame.headerLen).length < header.bodyLen.toNat
        · exact absurd (if_pos hbody) h
        · have hbody' : ¬ (plain.drop Frame.headerLen ++ more).length < header.bodyLen.toNat := by
            rw [List.length_append]
            omega
          have hlen := Nat.not_lt.1 hbody
          rw [if_neg hbody, if_neg hbody', List.take_append_of_le_length hlen,
            List.drop_append_of_le_length hlen]
          cases Message.withBody header.kind
            ((plain.drop Frame.headerLen).take header.bodyLen.toNat) with
          | error e => rfl
          | ok m => rfl

theorem front_append_of_bad {maxBodyLen : Nat} {plain : Bytes} {e : TransportError}
    (h : front maxBodyLen plain = .bad e) (more : Bytes) :
    front maxBodyLen (plain ++ more) = .bad e := by
  rw [front_append more (by rw [h]; exact Front.noConfusion), h, Front.append]

theorem front_append_of_frame {maxBodyLen : Nat} {plain rest : Bytes} {m : Message}
    (h : front maxBodyLen plain = .frame m rest) (more : Bytes) :
    front maxBodyLen (plain ++ more) = .frame m (rest ++ more) := by
  rw [front_append more (by rw [h]; exact Front.noConfusion), h, Front.append]

/-! ## Frames and messages -/

/-- A frame at the front is the encoding of its message, whose lengths agree and are in bounds. -/
theorem eq_encode_append_of_front {maxBodyLen : Nat} {plain rest : Bytes} {m : Message}
    (h : front maxBodyLen plain = .frame m rest) :
    plain = m.encode ++ rest ∧ m.validate = .ok () ∧ m.bodyLen ≤ maxBodyLen := by
  unfold front at h
  by_cases hshort : plain.length < Frame.headerLen
  · rw [if_pos hshort] at h; cases h
  rw [if_neg hshort] at h
  cases hdecode : Header.decode (plain.take Frame.headerLen) with
  | error e => simp only [hdecode] at h; cases h
  | ok header =>
    simp only [hdecode] at h
    by_cases hlarge : maxBodyLen < header.bodyLen.toNat
    · rw [if_pos hlarge] at h; cases h
    rw [if_neg hlarge] at h
    by_cases hbody : (plain.drop Frame.headerLen).length < header.bodyLen.toNat
    · rw [if_pos hbody] at h; cases h
    have htake : ((plain.drop Frame.headerLen).take header.bodyLen.toNat).length =
        header.bodyLen.toNat := by
      rw [List.length_take]
      omega
    rw [if_neg hbody, Message.withBody_eq header htake] at h
    cases h
    refine ⟨?_, Message.validate_eq_ok_iff.2 htake, Nat.not_lt.1 hlarge⟩
    rw [Message.encode, Header.encode_eq_take_of_decode hdecode, List.take_take, Nat.min_self,
      List.append_assoc, List.take_append_drop, List.take_append_drop]

/-- The encoding of a message whose lengths agree is a frame at the front, unless it is above the
bound. -/
theorem front_encode_append (maxBodyLen : Nat) {m : Message} (hvalid : m.validate = .ok ())
    (rest : Bytes) :
    front maxBodyLen (m.encode ++ rest) =
      if maxBodyLen < m.bodyLen then .bad (.oversizedMessage m.bodyLen maxBodyLen)
      else .frame m rest := by
  have hbody : m.body.length = m.header.bodyLen.toNat := Message.validate_eq_ok_iff.1 hvalid
  have hheader : m.header.encode.length = Frame.headerLen := Header.length_encode m.header
  have hlong : ¬ (m.encode ++ rest).length < Frame.headerLen := by
    simp only [Message.encode, List.length_append, hheader]
    omega
  have htake : (m.encode ++ rest).take Frame.headerLen = m.header.encode := by
    rw [Message.encode, List.append_assoc, ← hheader, List.take_left]
  have hdrop : (m.encode ++ rest).drop Frame.headerLen = m.body ++ rest := by
    rw [Message.encode, List.append_assoc, ← hheader, List.drop_left]
  have hdecode : Header.decode m.header.encode = .ok m.header := by
    rw [← List.append_nil m.header.encode]
    exact Header.decode_encode_append m.header []
  have hwhole : ¬ (m.body ++ rest).length < m.header.bodyLen.toNat := by
    rw [List.length_append]
    omega
  rw [front, if_neg hlong, htake, hdrop]
  simp only [hdecode]
  rw [if_neg hwhole, ← hbody, List.take_left, List.drop_left, Message.withBody_eq m.header hbody,
    Message.bodyLen, ← hbody]

/-! ## The front of the receive buffer -/

/-- `takeFrame` goes by the front of its buffer, and a frame takes the place of whatever message the
caller brings. -/
theorem takeFrame_eq (maxBodyLen : Nat) (buffer : Bytes) (m : Message) :
    takeFrame maxBodyLen buffer m =
      match front maxBodyLen buffer with
      | .unfinished => (.ok none, buffer, m)
      | .bad e => (.error e, buffer, m)
      | .frame m' rest => (.ok (some m'.bodyLen), rest, m') := by
  unfold takeFrame front
  by_cases hshort : buffer.length < Frame.headerLen
  · rw [if_pos hshort, if_pos hshort]
  rw [if_neg hshort, if_neg hshort]
  cases hdecode : Header.decode (buffer.take Frame.headerLen) with
  | error e => rfl
  | ok header =>
    dsimp only
    by_cases hlarge : maxBodyLen < header.bodyLen.toNat
    · rw [if_pos hlarge, if_pos hlarge]
    rw [if_neg hlarge, if_neg hlarge]
    have hdrop : (buffer.drop Frame.headerLen).length = buffer.length - Frame.headerLen :=
      List.length_drop
    by_cases hbody : (buffer.drop Frame.headerLen).length < header.bodyLen.toNat
    · rw [if_pos hbody, if_pos (by omega)]
    have htake : ((buffer.drop Frame.headerLen).take header.bodyLen.toNat).length =
        header.bodyLen.toNat := by
      rw [List.length_take]
      omega
    rw [if_neg hbody, if_neg (by omega), Message.withBody_eq header htake,
      Message.setHeader_of_decode hdecode]
    dsimp only
    rw [Message.resize_bodyLen]
    dsimp only
    rw [Message.overwrite_zero]
    · rfl
    · rw [htake, List.length_append, List.length_take, List.length_replicate]
      exact (by omega : ∀ a b : Nat, a = min a b + (a - b)) _ _

end Channel

end PinnedLink
