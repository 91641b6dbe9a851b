import PinnedLink.Echo.Caller
import PinnedLink.Echo.Listener
import PinnedLink.Transport.Pair

/-!
# A caller and a listener

The two processes of an echo session and the connection between them.  They take turns on it, in any
order: each finds the connection as the other one has left it.
-/

namespace PinnedLink.Echo

/-- The connection between two processes as one of them sees it.  As a network, it carries that one
connection and no other. -/
structure Wire (σ : Type) where
  view : σ
deriving DecidableEq, Repr

namespace Wire

variable {σ : Type} [Duplex σ]

/-- There is nothing but the wire. -/
def nothingElse : IoError := .bare .unsupported

instance : Network (Wire σ) σ where
  listen wire _ _ := (.error nothingElse, wire)
  localAddress wire _ := (.error nothingElse, wire)
  connect wire _ _ := (.error nothingElse, wire)
  accept wire _ := (.error nothingElse, wire)
  shakeHands wire _ stream := (.error (.io nothingElse), stream, wire)
  retire _ stream := ⟨stream⟩
  hangUp wire _ := ⟨Duplex.cutOff wire.view⟩
  unlisten wire _ := wire

end Wire

/-- A caller with its view of the connection. -/
def Caller.inView {σ : Type} (c : Caller σ) (view : σ) : Caller σ :=
  { c with transport := c.transport.withView view }

/-- A listener with its view of the connection. -/
def Listener.inView {σ : Type} (l : Listener σ) (view : σ) : Listener σ :=
  { l with transport := l.transport.withView view }

/-- A caller and a listener at work. -/
structure Meeting (σ : Type) where
  caller : Caller σ
  listener : Listener σ
  /-- The connection as the caller sees it. -/
  view : σ

namespace Meeting

variable {σ : Type} [ByteStream σ] [Duplex σ]

/-- A meeting over transports that have just been brought up. -/
def start (caller listener : Transport σ) (texts : List String) : Meeting σ :=
  { caller := .start caller texts, listener := .start listener, view := Duplex.fresh }

/-- Brings a caller and a listener together, if both handshakes succeed. -/
def arrange? (caller listener : Transport Pipe.End) (texts : List String) :
    Option (Meeting Pipe.End) :=
  let pair := Transport.meet listener caller .quiet
  match pair.accepted, pair.initiated with
  | .ok (), .ok () => some (start pair.initiator pair.acceptor texts)
  | _, _ => none

/-- The caller takes a step. -/
def callerStep (m : Meeting σ) : Meeting σ :=
  let (caller, wire) := (m.caller.inView m.view).step (Wire.mk m.view)
  { m with caller, view := caller.transport.view?.getD wire.view }

/-- The listener takes a step. -/
def listenerStep (m : Meeting σ) : Meeting σ :=
  let (listener, wire) := (m.listener.inView (Duplex.flip m.view)).step (Wire.mk (Duplex.flip m.view))
  { m with listener, view := Duplex.flip (listener.transport.view?.getD wire.view) }

end Meeting

end PinnedLink.Echo
