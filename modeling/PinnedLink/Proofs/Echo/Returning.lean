import PinnedLink.Proofs.Channel.Flushing
import PinnedLink.Proofs.Channel.Spoken
import PinnedLink.Proofs.Echo.Steps

/-!
# What a listener puts on the connection

What a listener has sent back is not only what it says: the bytes that its steps put on the connection
carry it.  `Listener.Wrote` ties these bytes to the messages that the listener has sent back and to those
that it has received, and a step of the listener keeps it (`Listener.step_wrote`).

While the listener is at work it has put out all that it was given, so the other end opens just the frames
of what it has sent back.  Once it has ended, the frame in hand may be there as well, or a part of it, and
nothing else.
-/

namespace PinnedLink.Echo.Listener

open PinnedLink.Frame (Message)
open Channel (Act frames Spoken)
open LosslessStream (sent since)
open Session (opened)

variable {σ : Type} [LosslessDuplex σ] {l : Listener σ} {b c d : Channel σ} {version : Session.Version}
  {view : σ} {wire : Bytes} {heard replied returned : List Message} {conn : Wire σ}

/-- The bytes `wire` are what a listener has put on its connection when it has received and sent back
these messages. -/
inductive Wrote (version : Session.Version) (wire : Bytes) (heard returned : List Message)
    (l : Listener σ) : Prop
  /-- It is at work, and all that it was given has gone. -/
  | working {c : Channel σ} (channel : l.transport.channel = some c) (drained : c.session.outbox = [])
    (spoken : c.Spoken version .server wire (frames returned))
  | ended (gone : l.transport.channel = none)
    (hreturned : frames returned <+: opened version .server wire)
    (hheard : opened version .server wire <+: frames heard)

omit [LosslessDuplex σ] in
/-- The other end opens what a listener has sent back, and at most what it has received. -/
theorem Wrote.opened (h : l.Wrote version wire heard returned) (hreturned : returned <+: heard) :
    frames returned <+: opened version .server wire ∧
      opened version .server wire <+: frames heard := by
  cases h with
  | working _ drained spoken =>
    rw [spoken.opened_eq drained]
    obtain ⟨more, rfl⟩ := hreturned
    rw [Channel.frames_append]
    exact ⟨List.prefix_rfl, List.prefix_append _ _⟩
  | ended _ hfirst hlast => exact ⟨hfirst, hlast⟩

/-- A listener that stops says no more than its channel was given. -/
theorem stop_wrote {stage : Stage} {plain : Bytes} (hchannel : l.transport.channel = some d)
    (hreaches : ByteStream.Reaches view d.stream)
    (spoken : d.Spoken version .server (wire ++ since view d.stream) plain)
    (hreturned : frames returned <+: opened version .server wire) (hheard : plain <+: frames heard) :
    let r := l.stop stage conn
    r.1.Wrote version (wire ++ since view (r.1.transport.leaves r.2)) heard returned := by
  intro r
  obtain ⟨hgone, hsent, -⟩ := Transport.close_leaves hchannel conn
  have hshut : ByteStream.Reaches d.stream d.shutdown.stream := Act.run_reaches d (.new 0) .shutdown
  have hsaid : d.shutdown.Spoken version .server (wire ++ since view d.stream ++
      since d.stream d.shutdown.stream) (plain ++ if d.session.saidGoodbye then [] else []) :=
    spoken.act (.new 0) .shutdown
  rw [ite_self, List.append_nil, List.append_assoc, LosslessStream.since_append_since
    (LosslessStream.sent_of_reaches hreaches) (LosslessStream.sent_of_reaches hshut)] at hsaid
  have hsince : since view (r.1.transport.leaves r.2) = since view d.shutdown.stream :=
    LosslessStream.since_congr hsent
  rw [hsince]
  exact .ended hgone (hreturned.trans (Session.opened_prefix_append _ _ _ _))
    (hsaid.opened_prefix.trans hheard)

/-- A listener that asks puts out nothing but an alert. -/
theorem ask_wrote (hstage : l.stage = .asking) (hstate : l.transport.state = .established)
    (hchannel : l.transport.channel = some c) (drained : c.session.outbox = [])
    (spoken : c.Spoken version .server wire (frames heard)) :
    let r := l.ask conn
    r.1.Wrote version (wire ++ since c.stream (r.1.transport.leaves r.2))
      (heard ++ (l.received? r.1).toList) heard := by
  intro r
  have hopened : frames heard <+: opened version .server wire :=
    (spoken.opened_eq drained).symm ▸ List.prefix_rfl
  have hsaid : (c.recv l.message).2.1.Spoken version .server
      (wire ++ since c.stream (c.recv l.message).2.1.stream)
      (frames heard ++ if c.session.saidGoodbye then [] else []) := spoken.act l.message .recv
  rw [ite_self, List.append_nil] at hsaid
  have hreaches := Channel.recv_reaches c l.message
  have hquiet := Channel.recv_outward_of_ok c l.message
  have hrecv := Transport.recv_of_channel hstate hchannel l.message
  simp only [r, ask, hrecv]
  generalize c.recv l.message = result at hsaid hreaches hquiet ⊢
  obtain ⟨e | outcome, d, message⟩ := result
  all_goals dsimp only at hsaid hreaches hquiet ⊢
  · rw [append_received? (.inr (by rw [stage_stop]; nofun))]
    exact stop_wrote (Transport.channel_settle _ _ _) hreaches hsaid hopened List.prefix_rfl
  · have hdrained := Channel.drained_of_outward_eq drained hreaches (hquiet _ rfl)
    cases outcome with
    | empty =>
      rw [append_received? (.inr (by rw [hstage]; nofun))]
      exact .working (Transport.channel_settle _ _ _) hdrained hsaid
    | received n => exact .working (Transport.channel_settle _ _ _) hdrained hsaid
    | closed =>
      rw [append_received? (.inr (by rw [stage_stop]; nofun))]
      exact stop_wrote (Transport.channel_settle _ _ _) hreaches hsaid hopened List.prefix_rfl

/-- A listener that sends the message in hand back puts out its frame, or a part of it. -/
theorem reply_wrote (hstage : l.stage = .holding) (hstate : l.transport.state = .established)
    (hchannel : l.transport.channel = some c) (hspeaks : c.session.saidGoodbye = false)
    (drained : c.session.outbox = []) (spoken : c.Spoken version .server wire (frames returned))
    (hheard : heard = returned ++ [l.message]) :
    let r := l.reply conn
    r.1.Wrote version (wire ++ since c.stream (r.1.transport.leaves r.2)) heard
      (returned ++ (l.returned? r.1).toList) := by
  intro r
  have hopened : frames returned <+: opened version .server wire :=
    (spoken.opened_eq drained).symm ▸ List.prefix_rfl
  have hsaid : (c.send l.message).2.Spoken version .server
      (wire ++ since c.stream (c.send l.message).2.stream)
      (frames returned ++ if c.session.saidGoodbye then []
        else frames ((Act.send l.message).gives? c).toList) := spoken.act (.new 0) (.send l.message)
  rw [hspeaks, if_neg Bool.false_ne_true, ← Channel.frames_append] at hsaid
  have hreaches := Channel.send_reaches c l.message
  have hsend := Transport.send_of_channel hstate hchannel l.message
  simp only [r, reply, hsend]
  rcases hresult : c.send l.message with ⟨e | n, d⟩
  all_goals
    rw [hresult] at hsaid hreaches
    dsimp only at hsaid hreaches ⊢
  · rw [append_returned? (.inr (by rw [stage_stop]; nofun))]
    refine stop_wrote (Transport.channel_settle _ _ _) hreaches hsaid hopened ?_
    -- The stream may have taken the whole frame before it failed, or a part of it, or nothing.
    obtain ⟨rest, hmore⟩ := Act.prefix_gives? c l.message
    rw [hheard, ← hmore, ← List.append_assoc, Channel.frames_append _ rest,
      Channel.frames_append returned]
    exact List.prefix_append _ _
  · rw [Act.gives?, if_pos (Channel.accepts_of_send (congrArg Prod.fst hresult)),
      Option.toList_some] at hsaid
    have hdrained : d.session.outbox = [] := by
      simpa [Channel.hasPendingOutput] using (Channel.send_ok hresult).1
    simp only [returned?, hstage, Option.toList_some]
    exact .working (Transport.channel_settle _ _ _) hdrained hsaid

/-- A listener that has ended puts out nothing more. -/
theorem idle_wrote (hasking : l.stage ≠ .asking) (hholding : l.stage ≠ .holding)
    (gone : l.transport.channel = none) (h : l.Wrote version wire heard returned) :
    (l.inView view).Wrote version
      (wire ++ since view ((l.inView view).transport.leaves (Wire.mk view)))
      (heard ++ (l.received? (l.inView view)).toList)
      (returned ++ (l.returned? (l.inView view)).toList) := by
  rw [append_received? (.inl hasking), append_returned? (.inl hholding), inView,
    Transport.leaves_withView_of_gone gone, LosslessStream.since_of_sent_eq rfl, List.append_nil]
  cases h with
  | working channel => cases gone.symm.trans channel
  | ended _ hfirst hlast =>
    exact .ended (Transport.channel_withView_of_gone gone view) hfirst hlast

omit [LosslessDuplex σ] in
/-- A listener at work with its view of the connection. -/
theorem working_inView (runs : l.transport.Runs b) (h : l.Wrote version wire heard returned) :
    (l.inView view).transport.channel = some (b.viewing view) ∧ b.session.outbox = [] ∧
      (b.viewing view).Spoken version .server wire (frames returned) := by
  obtain ⟨s, hchannel⟩ := runs.channel
  cases h with
  | ended gone => cases gone.symm.trans hchannel
  | working channel drained spoken =>
    cases channel.symm.trans hchannel
    refine ⟨?_, drained, spoken⟩
    rw [inView, Transport.withView, hchannel]
    rfl

/-- A step of a listener puts out what goes with what it then has received and sent back. -/
theorem step_wrote {r : Listener σ × Wire σ} (hr : (l.inView view).step (Wire.mk view) = r)
    (hat : l.At b heard replied returned) (h : l.Wrote version wire heard returned) :
    r.1.Wrote version (wire ++ since view (r.1.transport.leaves r.2))
      (heard ++ (l.received? r.1).toList) (returned ++ (l.returned? r.1).toList) := by
  cases hat with
  | asking hstage runs _ hreturned =>
    rw [step_of_asking hstage] at hr
    subst hr hreturned
    obtain ⟨hchannel, drained, spoken⟩ := working_inView runs h
    rw [append_returned? (.inl (by rw [hstage]; decide))]
    exact ask_wrote (l := l.inView view) hstage runs.state hchannel drained spoken
  | holding hstage runs hheard hreturned =>
    rw [step_of_holding hstage] at hr
    subst hr hreturned
    obtain ⟨hchannel, drained, spoken⟩ := working_inView runs h
    rw [append_received? (.inl (by rw [hstage]; decide))]
    exact reply_wrote (l := l.inView view) hstage runs.state hchannel runs.speaks drained spoken hheard
  | finished hstage gone =>
    have hasking : l.stage ≠ .asking := by rw [hstage]; decide
    have hholding : l.stage ≠ .holding := by rw [hstage]; decide
    rw [step_of_ended hasking hholding] at hr
    subst hr
    exact idle_wrote hasking hholding gone h
  | failed e hstage gone =>
    have hasking : l.stage ≠ .asking := by rw [hstage]; nofun
    have hholding : l.stage ≠ .holding := by rw [hstage]; nofun
    rw [step_of_ended hasking hholding] at hr
    subst hr
    exact idle_wrote hasking hholding gone h

end PinnedLink.Echo.Listener
