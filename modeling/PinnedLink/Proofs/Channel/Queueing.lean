import PinnedLink.Proofs.Channel.Sending

/-!
# What a channel takes

A channel judges a message by its lengths, then by its bound, and then by whether its session has
failed.  What it does not take it reports and leaves itself as it is (`queue_of_mismatch`,
`queue_of_oversized`, `queue_of_failure`); what it takes it hands to the session whole
(`queue_of_accepts`).  Either way to send a message comes down to that (`send_of_queue_error`).
-/

namespace PinnedLink

open PinnedLink.Frame (Message)

namespace Channel

variable {σ : Type} {c d : Channel σ} {m : Message}

/-- A channel takes a message: it admits it, and its session has not failed. -/
def Accepts (c : Channel σ) (m : Message) : Prop :=
  Admits c.maxBodyLen m ∧ c.session.failure = none

instance (c : Channel σ) (m : Message) : Decidable (c.Accepts m) :=
  inferInstanceAs (Decidable (_ ∧ _))

theorem admits_iff {maxBodyLen : Nat} :
    Admits maxBodyLen m ↔ m.body.length = m.bodyLen ∧ m.bodyLen ≤ maxBodyLen :=
  and_congr_left' Message.validate_eq_ok_iff

/-- The lengths are judged first. -/
theorem queue_of_mismatch (h : m.body.length ≠ m.bodyLen) :
    c.queue m = (.error (.malformedHeader (.lengthMismatch m.bodyLen m.body.length)), c) := by
  rw [queue, Message.validate, if_neg h]

/-- The bound is judged next. -/
theorem queue_of_oversized (h : m.body.length = m.bodyLen) (hlarge : c.maxBodyLen < m.bodyLen) :
    c.queue m = (.error (.oversizedMessage m.bodyLen c.maxBodyLen), c) := by
  simp only [queue, Message.validate_eq_ok_iff.2 h, if_pos hlarge]

/-- A session that has failed takes nothing. -/
theorem queue_of_failure (h : Admits c.maxBodyLen m) {e : Session.Error}
    (hfailure : c.session.failure = some e) : c.queue m = (.error (.sendFailed (.session e)), c) := by
  simp only [queue, h.1, if_neg (Nat.not_lt.2 h.2), Session.send?, hfailure]

theorem length_encode (h : m.validate = .ok ()) : m.encode.length = 8 + m.bodyLen := by
  rw [Message.encode, List.length_append, Frame.Header.length_encode,
    Message.validate_eq_ok_iff.1 h, Frame.headerLen]

/-- A message that is taken goes to the session whole. -/
theorem queue_of_accepts (h : c.Accepts m) :
    ∃ session, c.session.send? m.encode = .ok session ∧
      c.queue m = (.ok (8 + m.bodyLen), { c with session }) := by
  obtain ⟨count, wire, hsend, -⟩ := Session.send?_speaks h.2 m.encode
  refine ⟨_, hsend, ?_⟩
  simp only [queue, h.1.1, if_neg (Nat.not_lt.2 h.1.2), hsend, length_encode h.1.1]

/-- A message that is not taken leaves the channel as it is. -/
theorem queue_of_not_accepts (h : ¬ c.Accepts m) : ∃ e, c.queue m = (.error e, c) := by
  by_cases hlen : m.body.length = m.bodyLen
  · rcases Nat.lt_or_ge c.maxBodyLen m.bodyLen with hlarge | hle
    · exact ⟨_, queue_of_oversized hlen hlarge⟩
    · have hadmits : Admits c.maxBodyLen m := admits_iff.2 ⟨hlen, hle⟩
      cases hfailure : c.session.failure with
      | none => exact absurd ⟨hadmits, hfailure⟩ h
      | some e => exact ⟨_, queue_of_failure hadmits hfailure⟩
  · exact ⟨_, queue_of_mismatch hlen⟩

theorem accepts_of_queue {len : Nat} (h : c.queue m = (.ok len, d)) :
    c.Accepts m ∧ len = 8 + m.bodyLen := by
  by_cases haccepts : c.Accepts m
  · obtain ⟨session, -, hqueue⟩ := queue_of_accepts haccepts
    rw [h] at hqueue
    cases hqueue
    exact ⟨haccepts, rfl⟩
  · obtain ⟨e, hqueue⟩ := queue_of_not_accepts haccepts
    rw [h] at hqueue
    cases hqueue

theorem stream_queue (c : Channel σ) (m : Message) : (c.queue m).2.stream = c.stream := by
  by_cases haccepts : c.Accepts m
  · obtain ⟨session, -, hqueue⟩ := queue_of_accepts haccepts
    rw [hqueue]
  · obtain ⟨e, hqueue⟩ := queue_of_not_accepts haccepts
    rw [hqueue]

/-- What is not queued is not sent, and the channel is as it was. -/
theorem send_of_queue_error [ByteStream σ] {e : TransportError} (h : c.queue m = (.error e, c)) :
    c.send m = (.error e, c) ∧ c.trySend m = (.error e, c) := by
  simp only [send, trySend, h, and_self]

/-- What is sent was taken. -/
theorem accepts_of_send [ByteStream σ] {len : Nat} (h : (c.send m).1 = .ok len) : c.Accepts m := by
  by_contra hnot
  obtain ⟨e, hqueue⟩ := queue_of_not_accepts hnot
  rw [(send_of_queue_error hqueue).1] at h
  cases h

end Channel

end PinnedLink
