import PinnedLink.Network.Loopback
import PinnedLink.Stream.Duplex
import PinnedLink.Transport.Basic

/-!
# Two transports that meet

Two transports on one machine are brought up against each other, and what one writes the other one
reads.  Each holds its own view of the two pipes between them; after an operation of one, the other
one's view follows.
-/

namespace PinnedLink

namespace Transport

/-- The view that a transport has of its connection, if it has a session. -/
def view? {σ : Type} (t : Transport σ) : Option σ := t.channel.map Channel.stream

/-- Gives a transport another view of its connection. -/
def withView {σ : Type} (t : Transport σ) (view : σ) : Transport σ :=
  { t with channel := t.channel.map fun c => { c with stream := view } }

/-- Lets the view follow what the other transport has done. -/
def follow (t other : Transport Pipe.End) : Transport Pipe.End :=
  match other.view?, t.view? with
  | some e, _ => t.withView e.flip
  | none, some e => t.withView e.cutOff
  | none, none => t

/-- Two transports after they have tried to reach each other. -/
structure Pair where
  acceptor : Transport Pipe.End
  initiator : Transport Pipe.End
  accepted : Except TransportError Unit
  initiated : Except TransportError Unit
  net : Loopback

/-- Who a transport is to the other side, if it gets as far as connecting. -/
def asPeer (t : Transport Pipe.End) (role : Role) (otherwise : Loopback.Peer) : Loopback.Peer :=
  match Plan.make role t.config t.identity with
  | .ok plan => .party plan.context
  | .error _ => otherwise

/-- Brings two transports up against each other.  An initiator that fails before it connects is one
that leaves at once; an acceptor that fails before it listens is not there. -/
def meet (acceptor initiator : Transport Pipe.End) (net : Loopback) : Pair :=
  let caller := initiator.asPeer .initiator .leaving
  let called := acceptor.asPeer .acceptor .nobody
  let (accepted, acceptor, net) := acceptor.init .acceptor { net with peer := caller }
  let (initiated, initiator, net) := initiator.init .initiator { net with peer := called }
  { acceptor, initiator, accepted, initiated, net := { net with peer := .nobody } }

end Transport

end PinnedLink
