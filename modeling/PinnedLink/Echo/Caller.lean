import PinnedLink.Text.Utf8
import PinnedLink.Transport.Basic

/-!
# Sending texts and showing their echoes

The caller sends one text at a time, waits for its echo and prints that as a line.  After the last
echo it closes.  It moves in small steps: a step either sends a text or asks for its echo.
-/

namespace PinnedLink.Echo

open PinnedLink.Frame (Message)

/-- The kind of the messages that carry texts. -/
def textKind : UInt8 := 1

/-- Why a caller gives up. -/
inductive Caller.Failure where
  /-- A text makes no message. -/
  | message (e : Frame.Error)
  | transport (e : TransportError)
  /-- The other side has closed instead of sending a text back. -/
  | abandoned (text : String)
deriving DecidableEq, Repr

/-- The text of a failure. -/
def Caller.Failure.text : Caller.Failure → String
  | .message e => e.message
  | .transport e => e.message
  | .abandoned text => "peer closed before echoing " ++ Text.quoted text

/-- How far the caller is. -/
inductive Caller.Stage where
  /-- It has to send the next text, or to close if there is none. -/
  | sending
  /-- It waits for the echo of a text. -/
  | awaiting (text : String)
  | finished
  | failed (why : Caller.Failure)
deriving DecidableEq, Repr

/-- A caller at work. -/
structure Caller (σ : Type) where
  transport : Transport σ
  /-- The message received last. -/
  reply : Message
  /-- Texts still to be sent. -/
  pending : List String
  /-- Lines printed, the first one first. -/
  printed : List String
  stage : Caller.Stage

namespace Caller

variable {ν σ : Type} [Network ν σ] [ByteStream σ]

/-- A caller over an established transport. -/
def start (transport : Transport σ) (texts : List String) : Caller σ :=
  { transport, reply := .new 0, pending := texts, printed := [], stage := .sending }

/-- Ends the work, and with it the transport. -/
def stop (c : Caller σ) (stage : Stage) (net : ν) : Caller σ × ν :=
  let (transport, net) := c.transport.close net
  ({ c with transport, stage }, net)

/-- Sends a text. -/
def sendText (c : Caller σ) (text : String) (net : ν) : Caller σ × ν :=
  match Message.withBody textKind (Text.utf8 text) with
  | .error e => c.stop (.failed (.message e)) net
  | .ok m =>
    let (outcome, transport) := c.transport.send m
    let c := { c with transport }
    match outcome with
    | .ok _ => ({ c with stage := .awaiting text }, net)
    | .error e => c.stop (.failed (.transport e)) net

/-- Asks for the echo of a text and prints it. -/
def ask (c : Caller σ) (text : String) (net : ν) : Caller σ × ν :=
  let (outcome, transport, reply) := c.transport.recv c.reply
  let c := { c with transport, reply }
  match outcome with
  | .ok .empty => (c, net)
  | .ok (.received _) =>
    ({ c with printed := c.printed ++ [Text.lossy reply.body], stage := .sending }, net)
  | .ok .closed => c.stop (.failed (.abandoned text)) net
  | .error e => c.stop (.failed (.transport e)) net

/-- One step.  A caller that has ended does not move. -/
def step (c : Caller σ) (net : ν) : Caller σ × ν :=
  match c.stage, c.pending with
  | .sending, [] => c.stop .finished net
  | .sending, text :: pending => sendText { c with pending } text net
  | .awaiting text, _ => c.ask text net
  | .finished, _ | .failed _, _ => (c, net)

/-- What has been printed: the lines, each with its end. -/
def output (c : Caller σ) : String := String.join (c.printed.map fun line => line ++ "\n")

end Caller

end PinnedLink.Echo
