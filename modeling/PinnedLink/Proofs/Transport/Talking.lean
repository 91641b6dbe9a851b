import PinnedLink.Echo.Meeting
import PinnedLink.Proofs.Channel.Queueing
import PinnedLink.Proofs.Channel.Talk

/-!
# Transports that talk

A transport `Has` a share in a talk if it has the channel of one end, and is `Live` if it can use it as
well.  `Live.send` and `Live.recv` say what a send and a receive come to: the transport stays live, and
a message went on its way or came off it, or it has failed, and then it still has its share and can be
closed.  To close it takes back nothing that is on its way (`Has.close`).
-/

namespace PinnedLink

open PinnedLink.Frame (Message)
open Channel (Act Talk)

/-! ## Giving up a connection -/

namespace Socket

variable {σ : Type} [LosslessDuplex σ]

/-- To give up the connection takes back nothing that was sent. -/
theorem closeStream_keeps (s : Socket) (wire : Echo.Wire σ) :
    LosslessStream.sent (s.closeStream wire).2.view = LosslessStream.sent wire.view ∧
      LosslessStream.ahead (s.closeStream wire).2.view = LosslessStream.ahead wire.view := by
  unfold closeStream
  split
  · exact ⟨LosslessDuplex.sent_cutOff _, LosslessDuplex.ahead_cutOff _⟩
  · exact ⟨rfl, rfl⟩

theorem close_keeps (s : Socket) (wire : Echo.Wire σ) :
    LosslessStream.sent (s.close wire).2.view = LosslessStream.sent wire.view ∧
      LosslessStream.ahead (s.close wire).2.view = LosslessStream.ahead wire.view := by
  have hkeeps := s.closeStream_keeps wire
  unfold close
  dsimp only
  split
  · exact hkeeps
  · exact hkeeps

end Socket

namespace Transport

variable {σ : Type} [LosslessDuplex σ] {t : Transport σ} {a b c : Channel σ} {view : σ}
  {m : Message} {up down : List Message}

/-- A connection as a process leaves it that had this transport and this wire. -/
def leaves (t : Transport σ) (wire : Echo.Wire σ) : σ := t.view?.getD wire.view

/-! A transport without a channel has no view of a connection, and leaves it as it is. -/

omit [LosslessDuplex σ] in
theorem channel_withView_of_gone (h : t.channel = none) (view : σ) :
    (t.withView view).channel = none := by
  rw [withView, h]
  rfl

omit [LosslessDuplex σ] in
theorem leaves_withView_of_gone (h : t.channel = none) (view : σ) (wire : Echo.Wire σ) :
    (t.withView view).leaves wire = wire.view := by
  rw [leaves, view?, channel_withView_of_gone h]
  rfl

/-- A transport that is closed has shut its channel down, and leaves the bytes that this leaves. -/
theorem close_leaves (h : t.channel = some c) (wire : Echo.Wire σ) :
    (t.close wire).1.channel = none ∧
      LosslessStream.sent ((t.close wire).1.leaves (t.close wire).2) =
        LosslessStream.sent c.shutdown.stream ∧
      LosslessStream.ahead ((t.close wire).1.leaves (t.close wire).2) =
        LosslessStream.ahead c.shutdown.stream := by
  have hstream := t.socket.closeStream_keeps (Echo.Wire.mk c.shutdown.stream)
  have hsocket := (t.socket.closeStream (Echo.Wire.mk c.shutdown.stream)).1.close_keeps
    (t.socket.closeStream (Echo.Wire.mk c.shutdown.stream)).2
  unfold close release leaves
  rw [h]
  exact ⟨rfl, hsocket.1.trans hstream.1, hsocket.2.trans hstream.2⟩

omit [LosslessDuplex σ] in
/-- An established transport sends through its channel. -/
theorem send_of_channel [ByteStream σ] (hstate : t.state = .established) (hchannel : t.channel = some c)
    (m : Message) : t.send m = ((c.send m).1, t.settle (c.send m).1 (c.send m).2) := by
  rw [Transport.send, live?, if_pos hstate, hchannel]

omit [LosslessDuplex σ] in
/-- An established transport receives through its channel. -/
theorem recv_of_channel [ByteStream σ] (hstate : t.state = .established) (hchannel : t.channel = some c)
    (own : Message) : t.recv own =
      ((c.recv own).1, t.settle (c.recv own).1 (c.recv own).2.1, (c.recv own).2.2) := by
  rw [Transport.recv, live?, if_pos hstate, hchannel]

omit [LosslessDuplex σ] in
theorem channel_settle {α : Type} (t : Transport σ) (result : Except TransportError α)
    (c : Channel σ) : (t.settle result c).channel = some c := by
  cases result <;> rfl

/-! ## Shares in a talk -/

/-- The transport has the channel of one end of a talk, over its view of the connection. -/
def Has (t : Transport σ) (b : Channel σ) (up down : List Message) : Prop :=
  ∃ d, t.channel = some d ∧ Talk d b d.stream up down

/-- The transport is established over one end of a talk that has not said goodbye. -/
structure Live (t : Transport σ) (b : Channel σ) (up down : List Message) : Prop where
  state : t.state = .established
  share : ∃ d, t.channel = some d ∧ d.session.saidGoodbye = false ∧ Talk d b d.stream up down

/-- The transport is established over a channel that has not said goodbye, whichever view of the
connection it has. -/
structure Runs (t : Transport σ) (a : Channel σ) : Prop where
  state : t.state = .established
  channel : ∃ s, t.channel = some (a.viewing s)
  speaks : a.session.saidGoodbye = false

/-! ## From the handshake on -/

/-- What a transport has after a handshake besides its session. -/
structure Surroundings (σ : Type) where
  socket : Socket
  context : CryptoContext
  peer : PeerInfo
  stream : σ

/-- A transport after a handshake that has agreed on a version. -/
def secured (t : Transport σ) (version : Session.Version) (side : Session.Side)
    (around : Surroundings σ) : Transport σ :=
  t.withSession around.socket
    { context := around.context
      channel := .new (.established version side) around.stream t.config.maxBodyLen.toNat
      peer := around.peer }

omit [LosslessDuplex σ] in
theorem secured_runs (t : Transport σ) (version : Session.Version) (side : Session.Side)
    (around : Surroundings σ) :
    (t.secured version side around).Runs
      (.new (.established version side) around.stream t.config.maxBodyLen.toNat) :=
  ⟨rfl, ⟨around.stream, rfl⟩, rfl⟩

/-! ## Taking part -/

/-- With its view of the connection, a transport can take part in the talk. -/
theorem Runs.live (h : t.Runs a) (htalk : Talk a b view up down) :
    (t.withView view).Live b up down := by
  obtain ⟨s, hchannel⟩ := h.channel
  refine ⟨h.state, a.viewing view, ?_, h.speaks, htalk.up, htalk.down⟩
  rw [withView, hchannel]
  rfl

/-- A transport that takes part in a talk leaves the connection as its channel has it. -/
theorem Live.runs (h : t.Live b up down) (wire : Echo.Wire σ) :
    ∃ d, t.Runs d ∧ Talk d b (t.leaves wire) up down := by
  obtain ⟨d, hchannel, hspeaks, htalk⟩ := h.share
  refine ⟨d, ⟨h.state, ⟨d.stream, hchannel⟩, hspeaks⟩, ?_⟩
  rw [leaves, view?, hchannel]
  exact htalk

theorem Live.has (h : t.Live b up down) : t.Has b up down := by
  obtain ⟨d, hchannel, -, htalk⟩ := h.share
  exact ⟨d, hchannel, htalk⟩

/-- To close a transport takes back nothing that is on its way. -/
theorem Has.close (h : t.Has b up down) (wire : Echo.Wire σ) :
    (t.close wire).1.channel = none ∧
      ∃ d, Talk d b ((t.close wire).1.leaves (t.close wire).2) up down := by
  obtain ⟨c, hchannel, htalk⟩ := h
  obtain ⟨hgone, hsent, hahead⟩ := close_leaves hchannel wire
  exact ⟨hgone, _, htalk.shutdown.congr hsent hahead⟩

/-! ## Sending -/

/-- What a send comes to. -/
inductive Sends (b : Channel σ) (m : Message) (up down : List Message) :
    Except TransportError Nat → Transport σ → Prop
  | sent {n : Nat} {t : Transport σ} (live : t.Live b (up ++ [m]) down) : Sends b m up down (.ok n) t
  /-- The message may have been handed over before the stream failed. -/
  | failed {e : TransportError} {t : Transport σ} {more : List Message} (hmore : more <+: [m])
    (has : t.Has b (up ++ more) down) : Sends b m up down (.error e) t

theorem Live.send (h : t.Live b up down) (m : Message) :
    Sends b m up down (t.send m).1 (t.send m).2 := by
  obtain ⟨c, hchannel, hspeaks, htalk⟩ := h.share
  obtain ⟨hsent, hspeaks'⟩ := htalk.send hspeaks m
  rw [send_of_channel h.state hchannel]
  cases hresult : (c.send m).1 with
  | ok n =>
    rw [Act.offer?, if_pos (Channel.accepts_of_send hresult).1] at hsent
    exact .sent ⟨h.state, _, rfl, hspeaks', hsent⟩
  | error e =>
    refine .failed ?_ ⟨_, rfl, hsent⟩
    rw [Act.offer?]
    split
    · exact List.prefix_refl _
    · exact List.nil_prefix

/-! ## Receiving -/

/-- What a receive comes to. -/
inductive Receives (b : Channel σ) (up down : List Message) :
    Except TransportError Channel.RecvOutcome → Transport σ → Message → Prop
  | empty {t : Transport σ} {m : Message} (live : t.Live b up down) :
    Receives b up down (.ok .empty) t m
  | received {n : Nat} {t : Transport σ} {m : Message} {left : List Message}
    (hdown : down = m :: left) (live : t.Live b up left) : Receives b up down (.ok (.received n)) t m
  | closed {t : Transport σ} {m : Message} (live : t.Live b up down) :
    Receives b up down (.ok .closed) t m
  | failed {e : TransportError} {t : Transport σ} {m : Message} (has : t.Has b up down) :
    Receives b up down (.error e) t m

theorem Live.recv (h : t.Live b up down) (own : Message) :
    Receives b up down (t.recv own).1 (t.recv own).2.1 (t.recv own).2.2 := by
  obtain ⟨c, hchannel, hspeaks, htalk⟩ := h.share
  obtain ⟨left, hdown, htaken, hsaid⟩ := htalk.recv own
  have hspeaks' := hsaid.trans hspeaks
  rw [recv_of_channel h.state hchannel]
  rcases hresult : (c.recv own).1 with e | n | _ | _
  all_goals
    rw [hresult] at hdown
  · exact .failed (hdown ▸ ⟨_, rfl, htaken⟩)
  · exact .received hdown ⟨h.state, _, rfl, hspeaks', htaken⟩
  · exact .closed (hdown ▸ ⟨h.state, _, rfl, hspeaks', htaken⟩)
  · exact .empty (hdown ▸ ⟨h.state, _, rfl, hspeaks', htaken⟩)

end Transport

end PinnedLink
