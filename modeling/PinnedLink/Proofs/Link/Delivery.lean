import PinnedLink.Link
import PinnedLink.Proofs.Channel.Act

/-!
# Delivery over a link

A run of a link is a list of moves: operations of either end, in any order, and changes of what goes
wrong on either pipe, as long as they keep the bytes in it.

`Linked` holds of a link whose two directions each carry some messages that are still on their way.
One move takes at most one message off and puts at most one behind (`Linked.move`), so over a run what
an end has received, and then what is on its way, is what the other end has accepted (`Linked.run`).
-/

namespace PinnedLink

open PinnedLink.Frame (Message)
open Session (Side)
open Channel (Act Flow)

namespace Link

/-! ## Moves -/

/-- A change of what goes wrong on a pipe keeps the bytes in it. -/
def PipeChange.keepsBytes : PipeChange → Bool
  | .drop | .inject _ => false
  | _ => true

/-- What one end does, or what happens to a pipe. -/
inductive Move where
  | act (side : Side) (a : Act)
  /-- A change of the pipe that a side writes into. -/
  | change (side : Side) (what : PipeChange) (h : what.keepsBytes = true)

namespace Move

/-- The link after a move. -/
def apply (l : Link) : Move → Link
  | .act side (.send m) => (l.send side m).2
  | .act side (.trySend m) => (l.trySend side m).2
  | .act side .flush => (l.flush side).2
  | .act side .recv => (l.recv side).2
  | .act side .shutdown => l.shutdown side
  | .act side (.own m) => l.setMessage side m
  | .change side what _ => l.changePipe side [what]

/-- The message that a move hands out to a side. -/
def receipt? (side : Side) (l : Link) : Move → Option Message
  | .act doer .recv =>
    if doer = side then
      match (l.recv side).1, (l.recv side).2.message? side with
      | some r, some m => Channel.delivered? r m
      | _, _ => none
    else none
  | _ => none

/-- The message that a move of a side offers to a channel that admits it. -/
def offer? (maxBodyLen : Nat) (side : Side) : Move → Option Message
  | .act doer a => if doer = side then a.offer? maxBodyLen else none
  | .change _ _ _ => none

/-- The move ends the direction of a side. -/
def isShutdown (side : Side) : Move → Bool
  | .act doer a => doer = side && a.isShutdown
  | .change _ _ _ => false

theorem offer?_of_isShutdown {maxBodyLen : Nat} {side : Side} {move : Move}
    (h : move.isShutdown side = true) : move.offer? maxBodyLen side = none := by
  cases move with
  | act doer a =>
    rw [isShutdown, Bool.and_eq_true] at h
    cases a with
    | shutdown => exact ite_self _
    | _ => cases h.2
  | change _ _ _ => rfl

end Move

/-- The link after several moves. -/
def run (l : Link) (moves : List Move) : Link := moves.foldl Move.apply l

/-- The messages that a side accepts before it ends its direction: those that it sends, in one way or
the other, and that are well formed and within its bound. -/
def acceptedBy (maxBodyLen : Nat) (side : Side) : List Move → List Message
  | [] => []
  | move :: moves =>
    if move.isShutdown side then []
    else (move.offer? maxBodyLen side).toList ++ acceptedBy maxBodyLen side moves

/-- The messages that a side receives. -/
def receivedBy (side : Side) (l : Link) : List Move → List Message
  | [] => []
  | move :: moves => (move.receipt? side l).toList ++ receivedBy side (move.apply l) moves

/-! ## The channels of a link -/

section Channels

variable {l : Link} {side : Side} {c d : Channel Pipe.End} {own own' : Message}

/-- The channel of an end is over its view of the pipes. -/
theorem stream_of_channel? (h : l.channel? side = some (c, own)) : c.stream = l.view side := by
  unfold channel? at h
  dsimp only at h
  split at h
  · cases h
    rfl
  · cases h

theorem session_of_channel? (h : l.channel? side = some (c, own)) :
    c.session = (l.party side).session := by
  unfold channel? at h
  dsimp only at h
  split at h
  · cases h
    rfl
  · cases h

theorem channel?_setChannel (l : Link) (side : Side) (c : Channel Pipe.End) (own : Message) :
    (l.setChannel side c own).channel? side = some (c, own) := by
  cases side <;> rfl

/-- The other end sees the pipes as the channel that was put back has left them. -/
theorem channel?_setChannel_other (h : l.channel? side.other = some (d, own'))
    (c : Channel Pipe.End) (own : Message) :
    (l.setChannel side c own).channel? side.other =
      some ({ d with stream := { outgoing := c.stream.incoming, incoming := c.stream.outgoing } },
        own') := by
  cases side
  all_goals
    simp only [channel?, party, Side.other] at h
    simp only [setChannel, setView, setParty, setOutgoing, channel?, party, view, outgoing,
      Side.other]
    split at h
    · cases h
      rfl
    · cases h

/-- An operation of an end replaces its channel and its message. -/
theorem apply_act (h : l.channel? side = some (c, own)) (a : Act) :
    (Move.act side a).apply l = l.setChannel side (a.run c own).1 (a.run c own).2 := by
  cases a <;> simp only [Move.apply, send, trySend, flush, recv, shutdown, setMessage, h, Act.run]

theorem receipt?_act (h : l.channel? side = some (c, own)) (a : Act) :
    (Move.act side a).receipt? side l = a.receipt? c own := by
  cases a with
  | recv =>
    have hmessage : (l.recv side).2.message? side = some (c.recv own).2.2 := by
      simp only [recv, h, message?, channel?_setChannel, Option.map_some]
    have hresult : (l.recv side).1 = some (c.recv own).1 := by
      simp only [recv, h]
    simp only [Move.receipt?, ↓reduceIte, hmessage, hresult, Act.receipt?]
  | send m => rfl
  | trySend m => rfl
  | flush => rfl
  | shutdown => rfl
  | own m => rfl

/-- A change of a pipe that keeps its bytes changes nothing else of the channels over it. -/
theorem channel?_changePipe (h : l.channel? side = some (c, own)) (doer : Side) {what : PipeChange}
    (hkeeps : what.keepsBytes = true) :
    ∃ e : Pipe.End, (l.changePipe doer [what]).channel? side = some ({ c with stream := e }, own) ∧
      e.outgoing.queue = c.stream.outgoing.queue := by
  have hqueue : ∀ p : Pipe, (what.apply p).queue = p.queue := by
    intro p
    cases what <;> first | rfl | cases hkeeps
  refine ⟨(l.changePipe doer [what]).view side, ?_, ?_⟩
  · unfold channel? at h
    dsimp only at h
    split at h
    · rename_i hrole
      cases h
      cases doer <;> cases side <;> simp_all [channel?, changePipe, setOutgoing, party]
    · cases h
  · rw [stream_of_channel? h]
    cases doer <;> cases side <;> simp [changePipe, setOutgoing, view, outgoing, hqueue]

/-- What a channel has said is the same over a view with the same bytes on their way out. -/
theorem outward_of_queue {e : Pipe.End} (h : e.outgoing.queue = c.stream.outgoing.queue) :
    ({ c with stream := e } : Channel Pipe.End).outward = c.outward := by
  show { c.session.speaking with outbox := e.outgoing.queue ++ c.session.outbox } = c.outward
  rw [h]
  rfl

/-- An end has said goodbye. -/
def saidGoodbye (l : Link) (side : Side) : Bool := (l.party side).session.saidGoodbye

theorem saidGoodbye_of_channel? (h : l.channel? side = some (c, own)) :
    l.saidGoodbye side = c.session.saidGoodbye :=
  (congrArg Session.saidGoodbye (session_of_channel? h)).symm

end Channels

/-! ## Links with messages on their way -/

/-- Both ends of a link speak frames up to their bounds, and messages are on their way in both
directions: `todo` from a side, and `more` to it. -/
inductive Linked (bounds : Side → Nat) (l : Link) (side : Side) (todo more : List Message) : Prop
  | intro (c d : Channel Pipe.End) (own own' : Message) (hc : l.channel? side = some (c, own))
    (hd : l.channel? side.other = some (d, own')) (hcmax : c.maxBodyLen = bounds side)
    (hdmax : d.maxBodyLen = bounds side.other) (hout : Flow c.outward d.session d.received todo)
    (hin : Flow d.outward c.session c.received more)

namespace Linked

variable {bounds : Side → Nat} {l : Link} {side : Side} {todo more : List Message}

theorem symm (h : Linked bounds l side todo more) : Linked bounds l side.other more todo := by
  obtain ⟨c, d, own, own', hc, hd, hcmax, hdmax, hout, hin⟩ := h
  refine ⟨d, c, own', own, hd, ?_, hdmax, ?_, hin, hout⟩
  · rw [Session.Side.other_other]
    exact hc
  · rw [Session.Side.other_other]
    exact hcmax

/-- An operation of a side puts what it offers behind, unless the side has said goodbye, and takes off
what it hands out. -/
theorem act (h : Linked bounds l side todo more) (a : Act) :
    ∃ left, Linked bounds ((Move.act side a).apply l) side
        (todo ++ if l.saidGoodbye side then [] else (a.offer? (bounds side)).toList) left ∧
      more = ((Move.act side a).receipt? side l).toList ++ left ∧
      ((Move.act side a).apply l).saidGoodbye side = (l.saidGoodbye side || a.isShutdown) ∧
      ((Move.act side a).apply l).saidGoodbye side.other = l.saidGoodbye side.other := by
  obtain ⟨c, d, own, own', hc, hd, hcmax, hdmax, hout, hin⟩ := h
  have hincoming : Flow { d.outward with
      outbox := LosslessStream.ahead c.stream ++ d.session.outbox } c.session c.received more := by
    have hmirror : LosslessStream.ahead c.stream = LosslessStream.sent d.stream := by
      rw [stream_of_channel? hc, stream_of_channel? hd]
      rfl
    rw [hmirror]
    exact hin
  obtain ⟨houtgoing, ⟨left, hleft, hrest⟩, hsaid, hmax⟩ := a.does hout hincoming
  rw [hcmax] at houtgoing hmax
  have hc' := channel?_setChannel l side (a.run c own).1 (a.run c own).2
  have hd' := channel?_setChannel_other hd (a.run c own).1 (a.run c own).2
  rw [receipt?_act hc, saidGoodbye_of_channel? hc, saidGoodbye_of_channel? hd, apply_act hc,
    saidGoodbye_of_channel? hc', saidGoodbye_of_channel? hd']
  exact ⟨left, ⟨_, _, _, _, hc', hd', hmax, hdmax, houtgoing, hrest⟩, hleft, hsaid, rfl⟩

/-- A change of a pipe that keeps its bytes leaves the messages on their way. -/
theorem change (h : Linked bounds l side todo more) (doer : Side) {what : PipeChange}
    (hkeeps : what.keepsBytes = true) :
    Linked bounds (l.changePipe doer [what]) side todo more ∧
      (l.changePipe doer [what]).saidGoodbye side = l.saidGoodbye side := by
  obtain ⟨c, d, own, own', hc, hd, hcmax, hdmax, hout, hin⟩ := h
  obtain ⟨e, hc', hsent⟩ := channel?_changePipe hc doer hkeeps
  obtain ⟨f, hd', hsent'⟩ := channel?_changePipe hd doer hkeeps
  rw [saidGoodbye_of_channel? hc, saidGoodbye_of_channel? hc']
  refine ⟨⟨_, _, _, _, hc', hd', hcmax, hdmax, ?_, ?_⟩, rfl⟩
  · rw [outward_of_queue hsent]
    exact hout
  · rw [outward_of_queue hsent']
    exact hin

/-- A move takes off what the other side is handed out, and puts behind what the side offers before
its goodbye. -/
theorem move (h : Linked bounds l side todo more) (move : Move) :
    ∃ todo' more', Linked bounds (move.apply l) side todo' more' ∧
      (move.receipt? side.other l).toList ++ todo' =
        todo ++ (if l.saidGoodbye side then [] else (move.offer? (bounds side) side).toList) ∧
      (move.apply l).saidGoodbye side = (l.saidGoodbye side || move.isShutdown side) := by
  cases move with
  | act doer a =>
    have hother : side ≠ side.other := by cases side <;> decide
    by_cases hdoer : doer = side
    · subst hdoer
      obtain ⟨left, hlinked, -, hsaid, -⟩ := h.act a
      have hreceipt : (Move.act doer a).receipt? doer.other l = none := by
        cases a <;> first | rfl | exact if_neg hother
      refine ⟨_, left, hlinked, ?_, ?_⟩
      · rw [hreceipt, Move.offer?, if_pos rfl]
        rfl
      · rw [hsaid, Move.isShutdown, decide_eq_true rfl, Bool.true_and]
    · obtain rfl : doer = side.other := by
        cases doer <;> cases side <;> first | rfl | exact absurd rfl hdoer
      obtain ⟨left, hlinked, hleft, -, hsaid⟩ := h.symm.act a
      have hlinked' := hlinked.symm
      rw [Session.Side.other_other] at hlinked' hsaid
      refine ⟨left, _, hlinked', ?_, ?_⟩
      · rw [← hleft, Move.offer?, if_neg hdoer, Option.toList_none, ite_self, List.append_nil]
      · rw [hsaid, Move.isShutdown, decide_eq_false hdoer, Bool.false_and, Bool.or_false]
  | change doer what hkeeps =>
    obtain ⟨hlinked, hsaid⟩ := h.change doer hkeeps
    refine ⟨todo, more, hlinked, ?_, ?_⟩
    · rw [Move.offer?, Option.toList_none, ite_self, List.append_nil]
      rfl
    · rw [Move.isShutdown, Bool.or_false]
      exact hsaid

/-- Over a run, what the other side receives, and then what is still on its way, is what was on its way
and then what the side accepts. -/
theorem run (h : Linked bounds l side todo more) (moves : List Move) :
    ∃ todo' more', Linked bounds (l.run moves) side todo' more' ∧
      receivedBy side.other l moves ++ todo' =
        todo ++ if l.saidGoodbye side then [] else acceptedBy (bounds side) side moves := by
  induction moves generalizing l todo more with
  | nil => exact ⟨todo, more, h, by rw [acceptedBy, ite_self, List.append_nil]; rfl⟩
  | cons move moves ih =>
    obtain ⟨todo', more', hlinked, htodo, hsaid⟩ := h.move move
    obtain ⟨todo'', more'', hrun, hreceived⟩ := ih hlinked
    refine ⟨todo'', more'', hrun, ?_⟩
    rw [receivedBy, List.append_assoc, hreceived, ← List.append_assoc, htodo, List.append_assoc,
      hsaid, acceptedBy]
    cases l.saidGoodbye side with
    | true => rfl
    | false =>
      cases hshut : move.isShutdown side with
      | true => rw [Move.offer?_of_isShutdown hshut]; rfl
      | false => rfl

/-- Between two ends that have just finished their handshake there is nothing on its way. -/
theorem fresh (version : Session.Version) (bounds : Side → Nat) (side : Side) :
    Linked bounds (Link.fresh version (some (bounds .client)) (some (bounds .server))) side
      [] [] := by
  have hflow : ∀ side : Side, ∀ bound : Nat, Flow
      ({ session := Session.established version side, stream := { outgoing := .empty, incoming := .empty },
         received := [], maxBodyLen := bound } : Channel Pipe.End).outward
      (Session.established version side.other) [] [] := by
    intro side bound
    have hhears : (Session.established version side.other).Hears [] [] (.next 0) :=
      .live [] rfl rfl rfl rfl (.nil 0)
    exact
      { version := rfl
        side := Session.Side.other_other side
        failure := rfl
        valid := fun _ hm => by cases hm
        goodbye := fun hclosed => by cases hclosed
        carries := ⟨[], [], hhears, rfl, fun _ => rfl⟩ }
  cases side with
  | client => exact ⟨_, _, _, _, rfl, rfl, rfl, rfl, hflow .client _, hflow .server _⟩
  | server => exact ⟨_, _, _, _, rfl, rfl, rfl, rfl, hflow .server _, hflow .client _⟩

/-- Nothing is on its way if the other side finds nothing while nothing waits and the pipe is empty, or
if it finds the direction closed and its stream not at an end. -/
theorem eq_nil_of_recv (h : Linked bounds l side todo more) :
    ((l.recv side.other).1 = some (.ok .empty) → (l.party side).session.outbox = [] →
        (l.outgoing side).queue = [] → todo = []) ∧
      ((l.recv side.other).1 = some (.ok .closed) →
        ((l.recv side.other).2.party side.other).session.sawEof = false → todo = []) := by
  obtain ⟨c, d, own, own', hc, hd, -, -, hout, -⟩ := h
  have hahead : LosslessStream.ahead d.stream = (l.outgoing side).queue := by
    rw [stream_of_channel? hd]
    show (l.outgoing side.other.other).queue = _
    rw [Session.Side.other_other]
  have hsent : LosslessStream.sent c.stream = (l.outgoing side).queue := by
    rw [stream_of_channel? hc]
    rfl
  have hincoming : Flow { c.outward with
      outbox := LosslessStream.ahead d.stream ++ c.session.outbox } d.session d.received todo := by
    rw [hahead, ← hsent]
    exact hout
  obtain ⟨-, -, -, -, -, hquiet, hclosed⟩ := hincoming.recv own'
  have hresult : (l.recv side.other).1 = some (d.recv own').1 := by simp only [recv, hd]
  have hsession : ((l.recv side.other).2.party side.other).session = (d.recv own').2.1.session := by
    simp only [recv, hd]
    exact (session_of_channel? (channel?_setChannel l side.other _ _)).symm
  rw [hresult, hsession]
  refine ⟨fun hempty houtbox hqueue => hquiet (Option.some.inj hempty) ?_,
    fun hend heof => hclosed (Option.some.inj hend) heof⟩
  rw [hahead, hqueue, session_of_channel? hc, houtbox]
  rfl

end Linked

/-- In every run between two ends that have just finished their handshake, whatever goes wrong on the
pipes as long as they keep their bytes: what an end receives is, in order, a prefix of what the other
end accepts before it ends its direction.  It is all of it once the receiver finds nothing while
nothing waits at that end and its pipe is empty, or once the receiver finds the direction closed
without an end of its stream. -/
theorem receivedBy_prefix_acceptedBy (version : Session.Version) (bounds : Side → Nat) (side : Side)
    (moves : List Move) :
    let start := Link.fresh version (some (bounds .client)) (some (bounds .server))
    let last := start.run moves
    receivedBy side.other start moves <+: acceptedBy (bounds side) side moves ∧
      ((last.recv side.other).1 = some (.ok .empty) → (last.party side).session.outbox = [] →
        (last.outgoing side).queue = [] →
        receivedBy side.other start moves = acceptedBy (bounds side) side moves) ∧
      ((last.recv side.other).1 = some (.ok .closed) →
        ((last.recv side.other).2.party side.other).session.sawEof = false →
        receivedBy side.other start moves = acceptedBy (bounds side) side moves) := by
  intro start last
  obtain ⟨todo, more, hlast, hreceived⟩ := (Linked.fresh version bounds side).run moves
  have hsaid : start.saidGoodbye side = false := by cases side <;> rfl
  rw [hsaid, if_neg Bool.false_ne_true, List.nil_append] at hreceived
  have hall : todo = [] → receivedBy side.other start moves = acceptedBy (bounds side) side moves := by
    intro hnil
    rw [hnil, List.append_nil] at hreceived
    exact hreceived
  obtain ⟨hquiet, hclosed⟩ := hlast.eq_nil_of_recv
  exact ⟨⟨todo, hreceived⟩, fun hempty houtbox hqueue => hall (hquiet hempty houtbox hqueue),
    fun hend heof => hall (hclosed hend heof)⟩

end Link

end PinnedLink
