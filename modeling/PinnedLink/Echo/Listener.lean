import PinnedLink.Transport.Basic

/-!
# Sending back what comes in

The listener receives one message at a time and sends it back as it is, until the other side closes.
It moves in small steps: a step either asks for a message or sends back the one in hand.
-/

namespace PinnedLink.Echo

open PinnedLink.Frame (Message)

/-- How far the listener is. -/
inductive Listener.Stage where
  /-- It has to ask for the next message. -/
  | asking
  /-- It holds a message that it has not sent back. -/
  | holding
  /-- The other side has closed. -/
  | finished
  | failed (e : TransportError)
deriving DecidableEq, Repr

/-- A listener at work. -/
structure Listener (σ : Type) where
  transport : Transport σ
  /-- The message received last. -/
  message : Message
  /-- Messages sent back. -/
  echoed : Nat
  stage : Listener.Stage

namespace Listener

variable {ν σ : Type} [Network ν σ] [ByteStream σ]

/-- A listener over an established transport. -/
def start (transport : Transport σ) : Listener σ :=
  { transport, message := .new 0, echoed := 0, stage := .asking }

/-- Ends the work, and with it the transport. -/
def stop (l : Listener σ) (stage : Stage) (net : ν) : Listener σ × ν :=
  let (transport, net) := l.transport.close net
  ({ l with transport, stage }, net)

/-- Asks for a message. -/
def ask (l : Listener σ) (net : ν) : Listener σ × ν :=
  let (outcome, transport, message) := l.transport.recv l.message
  let l := { l with transport, message }
  match outcome with
  | .ok .empty => (l, net)
  | .ok (.received _) => ({ l with stage := .holding }, net)
  | .ok .closed => l.stop .finished net
  | .error e => l.stop (.failed e) net

/-- Sends the message in hand back. -/
def reply (l : Listener σ) (net : ν) : Listener σ × ν :=
  let (outcome, transport) := l.transport.send l.message
  let l := { l with transport }
  match outcome with
  | .ok _ => ({ l with echoed := l.echoed + 1, stage := .asking }, net)
  | .error e => l.stop (.failed e) net

/-- One step.  A listener that has ended does not move. -/
def step (l : Listener σ) (net : ν) : Listener σ × ν :=
  match l.stage with
  | .asking => l.ask net
  | .holding => l.reply net
  | .finished | .failed _ => (l, net)

/-- What a listener says in the end. -/
def report (l : Listener σ) : String := s!"Peer closed after {l.echoed} message(s)"

end Listener

end PinnedLink.Echo
