import PinnedLink.Channel.Basic
import PinnedLink.Proofs.Channel.Front
import PinnedLink.Proofs.Session.Hears
import PinnedLink.Proofs.Stream.Lossless

/-!
# What sending does to a channel

A channel has an outward half, all that it has said, whether the stream has taken it or not, and an
inward half, all that it has heard or will hear.  Draining the session into the stream changes
neither (`flush_outward`, `flush_inward`), however the stream takes it.  Sending therefore comes down to
`queue`: a message within the bounds goes, as one transcript of its encoding, behind all that was
said, whatever the stream then does with it, and any other message leaves the channel as it is
(`queue_of_admits`, `queue_of_not_admits`).
-/

namespace PinnedLink

open PinnedLink.Frame (Message)
open Session (Transcript)

namespace Channel

/-- A message that a channel of a bound takes: its lengths agree and its body is within the bound. -/
def Admits (maxBodyLen : Nat) (m : Message) : Prop := m.validate = .ok () ∧ m.bodyLen ≤ maxBodyLen

instance (maxBodyLen : Nat) (m : Message) : Decidable (Admits maxBodyLen m) :=
  decidable_of_iff (m.body.length = m.bodyLen ∧ m.bodyLen ≤ maxBodyLen)
    (and_congr_left' Message.validate_eq_ok_iff.symm)

/-! ## The two halves of a channel -/

variable {σ : Type}

/-- All that a channel has said: what the stream has taken and what still waits for it. -/
def outward [LosslessStream σ] (c : Channel σ) : Session.Speaking :=
  { c.session.speaking with outbox := LosslessStream.sent c.stream ++ c.session.outbox }

/-- What a channel goes by when it receives. -/
structure Inward where
  session : Session.Listening
  ahead : Bytes
  received : Bytes
  maxBodyLen : Nat

/-- The receiving half of a channel. -/
def inward [LosslessStream σ] (c : Channel σ) : Inward :=
  { session := c.session.listening, ahead := LosslessStream.ahead c.stream, received := c.received,
    maxBodyLen := c.maxBodyLen }

theorem inward_eq_iff [LosslessStream σ] {c d : Channel σ} :
    d.inward = c.inward ↔ d.session.listening = c.session.listening ∧
      LosslessStream.ahead d.stream = LosslessStream.ahead c.stream ∧ d.received = c.received ∧
      d.maxBodyLen = c.maxBodyLen := by
  simp only [inward, Inward.mk.injEq]

/-! ## The stages of an operation -/

section Stages

variable [ByteStream σ]

/-- What waiting for the stream leaves: the stream was told to wait, and if it obeyed, the session was
drained and the stream was told not to wait. -/
theorem drainBlocking_snd (c : Channel σ) :
    c.drainBlocking.2 = { c with stream := (ByteStream.setBlocking c.stream true).2 } ∨
      c.drainBlocking.2 =
        { (flush { c with stream := (ByteStream.setBlocking c.stream true).2 }).2 with
          stream := (ByteStream.setBlocking
            (flush { c with stream := (ByteStream.setBlocking c.stream true).2 }).2.stream
            false).2 } := by
  unfold drainBlocking
  rcases ByteStream.setBlocking c.stream true with ⟨_ | _, stream⟩
  · exact Or.inl rfl
  · refine Or.inr ?_
    dsimp only
    rcases flush { c with stream } with ⟨_ | _ | _, d⟩
    · rfl
    · dsimp only
      rcases ByteStream.setBlocking d.stream false with ⟨_ | _, after⟩
      · rfl
      · rfl
    · rfl

/-- What sending leaves is what queueing left, drained in one way or another. -/
theorem send_snd (c : Channel σ) (m : Message) :
    (c.send m).2 = (c.queue m).2 ∨ (c.send m).2 = (c.queue m).2.flush.2 ∨
      (c.send m).2 = (c.queue m).2.flush.2.drainBlocking.2 := by
  unfold send
  rcases c.queue m with ⟨_ | len, d⟩
  · exact Or.inl rfl
  · dsimp only
    rcases d.flush with ⟨_ | _ | _, f⟩
    · exact Or.inr (Or.inl rfl)
    · exact Or.inr (Or.inl rfl)
    · refine Or.inr (Or.inr ?_)
      dsimp only
      rcases f.drainBlocking with ⟨_ | _, g⟩
      · rfl
      · rfl

theorem trySend_snd (c : Channel σ) (m : Message) :
    (c.trySend m).2 = (c.queue m).2 ∨ (c.trySend m).2 = (c.queue m).2.flush.2 := by
  unfold trySend
  rcases c.queue m with ⟨_ | len, d⟩
  · exact Or.inl rfl
  · refine Or.inr ?_
    dsimp only
    rcases d.flush with ⟨_ | _ | _, f⟩
    · rfl
    · rfl
    · rfl

end Stages

/-! ## Draining -/

section Draining

variable [LosslessStream σ]

/-- Draining moves bytes from the session to the stream, and none is lost or added. -/
theorem flush_outward (c : Channel σ) : c.flush.2.outward = c.outward := by
  fun_induction flush c with
  | case1 c _ => rfl
  | case2 c _ stream h =>
    simp only [outward, Session.speaking, LosslessStream.sent_write_ok h, List.take_zero,
      List.append_nil]
  | case3 c _ n stream h ih =>
    rw [ih]
    simp only [outward, Session.speaking, Session.dropSent, LosslessStream.sent_write_ok h,
      List.append_assoc, List.take_append_drop]
  | case4 c _ e stream h _ =>
    simp only [outward, LosslessStream.sent_write_error h]
  | case5 c _ e stream h _ _ ih =>
    rw [ih]
    simp only [outward, LosslessStream.sent_write_error h]
  | case6 c _ e stream h _ _ =>
    simp only [outward, LosslessStream.sent_write_error h]

/-- Draining does not touch what is received. -/
theorem flush_inward (c : Channel σ) : c.flush.2.inward = c.inward := by
  fun_induction flush c with
  | case1 c _ => rfl
  | case2 c _ stream h => simp only [inward, LosslessStream.ahead_of_write h]
  | case3 c _ n stream h ih =>
    rw [ih]
    simp only [inward, LosslessStream.ahead_of_write h, Session.listening_dropSent]
  | case4 c _ e stream h _ => simp only [inward, LosslessStream.ahead_of_write h]
  | case5 c _ e stream h _ _ ih =>
    rw [ih]
    simp only [inward, LosslessStream.ahead_of_write h]
  | case6 c _ e stream h _ _ => simp only [inward, LosslessStream.ahead_of_write h]

theorem setBlocking_outward (c : Channel σ) (blocking : Bool) :
    ({ c with stream := (ByteStream.setBlocking c.stream blocking).2 } : Channel σ).outward =
      c.outward := by
  simp only [outward, LosslessStream.sent_setBlocking]

theorem setBlocking_inward (c : Channel σ) (blocking : Bool) :
    ({ c with stream := (ByteStream.setBlocking c.stream blocking).2 } : Channel σ).inward =
      c.inward := by
  simp only [inward, LosslessStream.ahead_setBlocking]

theorem drainBlocking_outward (c : Channel σ) : c.drainBlocking.2.outward = c.outward := by
  rcases drainBlocking_snd c with h | h
  · rw [h, setBlocking_outward]
  · rw [h, setBlocking_outward, flush_outward, setBlocking_outward]

theorem drainBlocking_inward (c : Channel σ) : c.drainBlocking.2.inward = c.inward := by
  rcases drainBlocking_snd c with h | h
  · rw [h, setBlocking_inward]
  · rw [h, setBlocking_inward, flush_inward, setBlocking_inward]

/-! ## Sending -/

theorem send_outward (c : Channel σ) (m : Message) : (c.send m).2.outward = (c.queue m).2.outward := by
  rcases send_snd c m with h | h | h
  · rw [h]
  · rw [h, flush_outward]
  · rw [h, drainBlocking_outward, flush_outward]

theorem send_inward (c : Channel σ) (m : Message) : (c.send m).2.inward = (c.queue m).2.inward := by
  rcases send_snd c m with h | h | h
  · rw [h]
  · rw [h, flush_inward]
  · rw [h, drainBlocking_inward, flush_inward]

theorem trySend_outward (c : Channel σ) (m : Message) :
    (c.trySend m).2.outward = (c.queue m).2.outward := by
  rcases trySend_snd c m with h | h
  · rw [h]
  · rw [h, flush_outward]

theorem trySend_inward (c : Channel σ) (m : Message) :
    (c.trySend m).2.inward = (c.queue m).2.inward := by
  rcases trySend_snd c m with h | h
  · rw [h]
  · rw [h, flush_inward]

theorem shutdown_outward (c : Channel σ) :
    c.shutdown.outward = ({ c with session := c.session.closeNotify } : Channel σ).outward :=
  flush_outward _

theorem shutdown_inward (c : Channel σ) :
    c.shutdown.inward = ({ c with session := c.session.closeNotify } : Channel σ).inward :=
  flush_inward _

end Draining

/-! ## Queueing -/

/-- A message that is not admitted leaves the channel as it is. -/
theorem queue_of_not_admits {c : Channel σ} {m : Message} (h : ¬ Admits c.maxBodyLen m) :
    (c.queue m).2 = c := by
  unfold queue
  cases hvalid : m.validate with
  | error e => rfl
  | ok _ =>
    have hlarge : c.maxBodyLen < m.bodyLen := Nat.not_le.1 fun hle => h ⟨hvalid, hle⟩
    dsimp only
    rw [if_pos hlarge]

/-- A message that is admitted goes behind all that was sealed, as one transcript. -/
theorem queue_of_admits {c : Channel σ} {m : Message} (h : Admits c.maxBodyLen m)
    (hfailure : c.session.failure = none) :
    ∃ count wire, c.queue m =
        (.ok m.encode.length,
          { c with session := { c.session with
                                sealedCount := count, outbox := c.session.outbox ++ wire } }) ∧
      Transcript c.session.version c.session.side c.session.sealedCount wire m.encode
        (.next count) := by
  obtain ⟨count, wire, hsend, hspoken⟩ := Session.send?_speaks hfailure m.encode
  refine ⟨count, wire, ?_, hspoken⟩
  simp only [queue, h.1, if_neg (Nat.not_lt.2 h.2), hsend]

end Channel

end PinnedLink
