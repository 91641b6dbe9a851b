import PinnedLink.Proofs.Channel.Flow

/-!
# Operations of one end

An `Act` is one operation of the user of a channel.  `Act.does` says what it does to the messages on
their way: it puts the message that it offers, if the channel admits it and has not said goodbye,
behind those on their way out, and takes the message that it hands out off those on their way in.
How the stream takes it, and what the operation returns, makes no difference.
-/

namespace PinnedLink

open PinnedLink.Frame (Message)

namespace Channel

/-! ## Operations of one end -/

/-- What the user of a channel does. -/
inductive Act where
  | send (m : Message)
  | trySend (m : Message)
  | flush
  | recv
  | shutdown
  /-- Brings another message to receive into. -/
  | own (m : Message)

namespace Act

variable {σ : Type} [ByteStream σ]

/-- An operation on a channel and the message of its user. -/
def run (c : Channel σ) (own : Message) : Act → Channel σ × Message
  | .send m => ((c.send m).2, own)
  | .trySend m => ((c.trySend m).2, own)
  | .flush => (c.flush.2, own)
  | .recv => ((c.recv own).2.1, (c.recv own).2.2)
  | .shutdown => (c.shutdown, own)
  | .own m => (c, m)

/-- Several operations, in order. -/
def runAll (c : Channel σ) (own : Message) : List Act → Channel σ × Message
  | [] => (c, own)
  | a :: acts => runAll (a.run c own).1 (a.run c own).2 acts

/-- The message that an operation offers to a channel that admits it. -/
def offer? (maxBodyLen : Nat) : Act → Option Message
  | .send m | .trySend m => if Admits maxBodyLen m then some m else none
  | _ => none

/-- The message that an operation hands out. -/
def receipt? (c : Channel σ) (own : Message) : Act → Option Message
  | .recv => delivered? (c.recv own).1 (c.recv own).2.2
  | _ => none

/-- The operation ends its direction. -/
def isShutdown : Act → Bool
  | .shutdown => true
  | _ => false

end Act

variable {σ : Type} [LosslessStream σ] {c d : Channel σ} {own m : Message} {out : Session.Speaking}
  {s : Session} {received later : Bytes} {todo more : List Message}

/-- Queueing a message puts it behind those on their way, if it is admitted and there was no goodbye. -/
theorem Flow.queue (h : Flow c.outward s received todo) (m : Message) :
    Flow (c.queue m).2.outward s received
        (todo ++ if c.session.saidGoodbye then [] else ((Act.send m).offer? c.maxBodyLen).toList) ∧
      (c.queue m).2.session.saidGoodbye = c.session.saidGoodbye ∧
      (c.queue m).2.inward = c.inward := by
  by_cases hadmits : Admits c.maxBodyLen m
  · obtain ⟨count, wire, hqueue, hwire⟩ := queue_of_admits hadmits h.failure
    rw [hqueue]
    refine ⟨?_, rfl, rfl⟩
    have houtward : ({ c with session := { c.session with
        sealedCount := count, outbox := c.session.outbox ++ wire } } : Channel σ).outward =
          { c.outward with sealedCount := count, outbox := c.outward.outbox ++ wire } := by
      simp only [outward, Session.speaking, List.append_assoc]
    rw [houtward]
    cases hsaid : c.session.saidGoodbye with
    | true =>
      rw [if_pos rfl, List.append_nil]
      exact h.say_late hsaid count wire
    | false =>
      rw [if_neg Bool.false_ne_true, Act.offer?, if_pos hadmits]
      exact h.say hsaid hadmits.1 hwire
  · rw [queue_of_not_admits hadmits, Act.offer?, if_neg hadmits, Option.toList_none, ite_self,
      List.append_nil]
    exact ⟨h, rfl, rfl⟩

/-- Ending a direction leaves the messages on their way. -/
theorem Flow.closeNotify (h : Flow c.outward s received todo) :
    Flow ({ c with session := c.session.closeNotify } : Channel σ).outward s received todo ∧
      c.session.closeNotify.saidGoodbye = true ∧
      ({ c with session := c.session.closeNotify } : Channel σ).inward = c.inward := by
  cases hsaid : c.session.saidGoodbye with
  | true =>
    have hsame : c.session.closeNotify = c.session := by rw [Session.closeNotify, if_pos hsaid]
    rw [hsame]
    exact ⟨h, hsaid, rfl⟩
  | false =>
    obtain ⟨wire, hclose, hwire⟩ := Session.closeNotify_speaks hsaid
    rw [hclose]
    have houtward : ({ c with session := { c.session with
        sealedCount := c.session.sealedCount + 1, outbox := c.session.outbox ++ wire,
        saidGoodbye := true } } : Channel σ).outward =
          { c.outward with
            sealedCount := c.outward.sealedCount + 1, outbox := c.outward.outbox ++ wire,
            saidGoodbye := true } := by
      simp only [outward, Session.speaking, List.append_assoc]
    rw [houtward]
    exact ⟨h.say_goodbye hsaid hwire, rfl, rfl⟩

/-- What leaves the receiving half of a channel leaves the messages on their way to it. -/
theorem Flow.of_inward
    (h : Flow { out with outbox := LosslessStream.ahead c.stream ++ later } c.session c.received todo)
    (heq : d.inward = c.inward) :
    Flow { out with outbox := LosslessStream.ahead d.stream ++ later } d.session d.received todo := by
  have hahead : LosslessStream.ahead d.stream = LosslessStream.ahead c.stream :=
    congrArg Inward.ahead heq
  have hreceived : d.received = c.received := congrArg Inward.received heq
  rw [hahead, hreceived]
  exact h.congr (congrArg Inward.session heq)

/-- What an operation of one end does to the messages on their way in either direction. -/
structure Act.Does (a : Act) (c : Channel σ) (own : Message) (out : Session.Speaking)
    (later : Bytes) (s : Session) (received : Bytes) (todo more : List Message)
    (d : Channel σ) : Prop where
  outgoing : Flow d.outward s received
    (todo ++ if c.session.saidGoodbye then [] else (a.offer? c.maxBodyLen).toList)
  incoming : ∃ left, more = (a.receipt? c own).toList ++ left ∧
    Flow { out with outbox := LosslessStream.ahead d.stream ++ later } d.session d.received left
  saidGoodbye : d.session.saidGoodbye = (c.session.saidGoodbye || a.isShutdown)
  maxBodyLen : d.maxBodyLen = c.maxBodyLen

theorem Flow.append_none (h : Flow out s received todo) (late : Bool) :
    Flow out s received (todo ++ if late then [] else (none : Option Message).toList) := by
  rw [Option.toList_none, ite_self, List.append_nil]
  exact h

/-- An operation that queues a message does so in whatever way the stream then takes it. -/
theorem Act.Does.of_queue {a : Act} (hout : Flow c.outward s received todo)
    (hin : Flow { out with outbox := LosslessStream.ahead c.stream ++ later } c.session c.received
      more)
    (hoffer : a.offer? c.maxBodyLen = (Act.send m).offer? c.maxBodyLen)
    (hreceipt : a.receipt? c own = none) (hgoes : a.isShutdown = false)
    (houtward : d.outward = (c.queue m).2.outward) (hinward : d.inward = (c.queue m).2.inward) :
    a.Does c own out later s received todo more d := by
  obtain ⟨hflow, hsaid, hqueue⟩ := hout.queue m
  have hsame : d.inward = c.inward := hinward.trans hqueue
  have hsaid' : d.session.saidGoodbye = c.session.saidGoodbye :=
    (congrArg Session.Speaking.saidGoodbye houtward).trans hsaid
  refine ⟨?_, ⟨more, ?_, hin.of_inward hsame⟩, ?_, congrArg Inward.maxBodyLen hsame⟩
  · rw [houtward, hoffer]
    exact hflow
  · rw [hreceipt]
    rfl
  · rw [hsaid', hgoes, Bool.or_false]

/-- An operation puts the message that it offers behind those on their way out, and takes the message
that it hands out off those on their way in. -/
theorem Act.does (a : Act) (hout : Flow c.outward s received todo)
    (hin : Flow { out with outbox := LosslessStream.ahead c.stream ++ later } c.session c.received
      more) :
    a.Does c own out later s received todo more (a.run c own).1 := by
  cases a with
  | send m => exact .of_queue hout hin rfl rfl rfl (send_outward c m) (send_inward c m)
  | trySend m => exact .of_queue hout hin rfl rfl rfl (trySend_outward c m) (trySend_inward c m)
  | flush =>
    have hsaid := congrArg Session.Speaking.saidGoodbye (flush_outward c)
    rw [← flush_outward] at hout
    exact ⟨hout.append_none _, ⟨more, rfl, hin.of_inward (flush_inward c)⟩,
      hsaid.trans (Bool.or_false _).symm, congrArg Inward.maxBodyLen (flush_inward c)⟩
  | recv =>
    obtain ⟨left, hflow, houtward, hmax, hleft, -, -⟩ := hin.recv own
    have hsaid := congrArg Session.Speaking.saidGoodbye houtward
    rw [← houtward] at hout
    exact ⟨hout.append_none _, ⟨left, hleft, hflow⟩, hsaid.trans (Bool.or_false _).symm, hmax⟩
  | shutdown =>
    obtain ⟨hflow, hsaid, hinward⟩ := hout.closeNotify
    have hinward' := (shutdown_inward c).trans hinward
    have hsaid' := (congrArg Session.Speaking.saidGoodbye (shutdown_outward c)).trans hsaid
    rw [← shutdown_outward] at hflow
    exact ⟨hflow.append_none _, ⟨more, rfl, hin.of_inward hinward'⟩,
      hsaid'.trans (Bool.or_true _).symm, congrArg Inward.maxBodyLen hinward'⟩
  | own m => exact ⟨hout.append_none _, ⟨more, rfl, hin⟩, (Bool.or_false _).symm, rfl⟩

end Channel

end PinnedLink
