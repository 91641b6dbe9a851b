import PinnedLink.Channel.Basic
import PinnedLink.Session.Plain
import PinnedLink.Stream.Pipe

/-!
# Two ends joined by pipes

A link is a connection held in memory: two pipes, one in each direction, and the two ends that use
them.  An end either speaks frames and owns a message, or uses its session directly.  Everything an
end does happens on its own view of the two pipes, which is put back afterwards.
-/

namespace PinnedLink

open PinnedLink.Frame (Message)
open Session (Side)

/-- What an end of a link is. -/
inductive Link.Role where
  /-- Frames over the session, up to a bound on the body, with the end's own message. -/
  | framed (received : Bytes) (maxBodyLen : Nat) (message : Message)
  /-- The session alone. -/
  | plain
deriving DecidableEq, Repr

/-- One end of a link. -/
structure Link.Party where
  session : Session
  role : Link.Role
deriving DecidableEq, Repr

/-- Two ends and the pipes between them. -/
structure Link where
  client : Link.Party
  server : Link.Party
  /-- From client to server. -/
  toServer : Pipe
  /-- From server to client. -/
  toClient : Pipe
deriving DecidableEq, Repr

namespace Link

/-- A fresh party. -/
def Party.fresh (version : Session.Version) (side : Side) (maxBodyLen : Option Nat) : Party :=
  { session := Session.established version side
    role := match maxBodyLen with
      | some maxBodyLen => .framed [] maxBodyLen (Message.new 0)
      | none => .plain }

/-- The link of two parties that have just finished their handshake.  An end without a bound uses
its session directly. -/
def fresh (version : Session.Version) (client server : Option Nat) : Link :=
  { client := Party.fresh version .client client
    server := Party.fresh version .server server
    toServer := Pipe.empty
    toClient := Pipe.empty }

/-- The party of a side. -/
def party (l : Link) : Side → Party
  | .client => l.client
  | .server => l.server

/-- The pipe that a side writes into. -/
def outgoing (l : Link) : Side → Pipe
  | .client => l.toServer
  | .server => l.toClient

/-- The two pipes as a side sees them. -/
def view (l : Link) (side : Side) : Pipe.End :=
  { outgoing := l.outgoing side, incoming := l.outgoing side.other }

/-- Replaces the party of a side. -/
def setParty (l : Link) (side : Side) (p : Party) : Link :=
  match side with
  | .client => { l with client := p }
  | .server => { l with server := p }

/-- Replaces the pipe that a side writes into. -/
def setOutgoing (l : Link) (side : Side) (p : Pipe) : Link :=
  match side with
  | .client => { l with toServer := p }
  | .server => { l with toClient := p }

/-- Puts a side's view of the pipes back. -/
def setView (l : Link) (side : Side) (e : Pipe.End) : Link :=
  (l.setOutgoing side e.outgoing).setOutgoing side.other e.incoming

/-- The channel of a framed end, over its view of the pipes, and its message. -/
def channel? (l : Link) (side : Side) : Option (Channel Pipe.End × Message) :=
  let p := l.party side
  match p.role with
  | .framed received maxBodyLen message =>
    some ({ session := p.session, stream := l.view side, received, maxBodyLen }, message)
  | .plain => none

/-- Puts a channel and a message back. -/
def setChannel (l : Link) (side : Side) (c : Channel Pipe.End) (message : Message) : Link :=
  (l.setParty side { session := c.session, role := .framed c.received c.maxBodyLen message }).setView
    side c.stream

/-- Sends a message from a framed end. -/
def send (l : Link) (side : Side) (m : Message) : Option (Except TransportError Nat) × Link :=
  match l.channel? side with
  | none => (none, l)
  | some (c, own) =>
    let (r, c) := c.send m
    (some r, l.setChannel side c own)

/-- Sends a message from a framed end without waiting. -/
def trySend (l : Link) (side : Side) (m : Message) :
    Option (Except TransportError Channel.SendStatus) × Link :=
  match l.channel? side with
  | none => (none, l)
  | some (c, own) =>
    let (r, c) := c.trySend m
    (some r, l.setChannel side c own)

/-- Flushes a framed end. -/
def flush (l : Link) (side : Side) :
    Option (Except TransportError Channel.FlushStatus) × Link :=
  match l.channel? side with
  | none => (none, l)
  | some (c, own) =>
    let (r, c) := c.flush
    (some r, l.setChannel side c own)

/-- Receives into the message of a framed end. -/
def recv (l : Link) (side : Side) :
    Option (Except TransportError Channel.RecvOutcome) × Link :=
  match l.channel? side with
  | none => (none, l)
  | some (c, own) =>
    let (r, c, own) := c.recv own
    (some r, l.setChannel side c own)

/-- Ends the direction of a framed end. -/
def shutdown (l : Link) (side : Side) : Link :=
  match l.channel? side with
  | none => l
  | some (c, own) => l.setChannel side c.shutdown own

/-- The message of a framed end. -/
def message? (l : Link) (side : Side) : Option Message :=
  (l.channel? side).map (·.2)

/-- Replaces the message of a framed end. -/
def setMessage (l : Link) (side : Side) (m : Message) : Link :=
  match l.channel? side with
  | none => l
  | some (c, _) => l.setChannel side c m

/-- Writes plaintext from a plain end. -/
def write (l : Link) (side : Side) (plain : Bytes) : Link :=
  let p := l.party side
  let (session, e) := p.session.writePlain (l.view side) plain
  (l.setParty side { p with session }).setView side e

/-- Ends the direction of a plain end. -/
def closeNotify (l : Link) (side : Side) : Link :=
  let p := l.party side
  let (session, e) := p.session.closeNotify.push (l.view side)
  (l.setParty side { p with session }).setView side e

/-- What a plain end has read. -/
structure Reading where
  bytes : Bytes
  ending : Session.Ending
  failure : Option Session.Error

/-- Reads everything there is at a plain end. -/
def read (l : Link) (side : Side) : Reading × Link :=
  let p := l.party side
  let (failure, session, e) := p.session.gather (l.view side)
  let (bytes, session) := session.takePlaintext
  ({ bytes, ending := session.ending, failure },
    (l.setParty side { p with session }).setView side e)

/-- The changes of mode recorded on the pipe that a side writes into, which forgets them. -/
def takeModes (l : Link) (side : Side) : List Bool × Link :=
  let p := l.outgoing side
  (p.modes, l.setOutgoing side { p with modes := [] })

/-- A change of what goes wrong on a pipe. -/
inductive PipeChange where
  | blocked (b : Bool)
  | closed (b : Bool)
  | drop
  | inject (bytes : Bytes)
  | maxRead (limit : Option Nat)
  | maxWrite (limit : Option Nat)
  | modeFaults (faults : List Fault)
  | readFaults (faults : List IoErrorKind)
  | sticky (b : Bool)
  | writeFaults (faults : List Fault)

/-- Makes one change to a pipe. -/
def PipeChange.apply (p : Pipe) : PipeChange → Pipe
  | .blocked b => { p with blocked := b }
  | .closed b => { p with closed := b }
  | .drop => { p with queue := [] }
  | .inject bytes => { p with queue := p.queue ++ bytes }
  | .maxRead limit => { p with maxRead := limit }
  | .maxWrite limit => { p with maxWrite := limit }
  | .modeFaults faults => { p with modeFaults := p.modeFaults ++ faults }
  | .readFaults faults => { p with readFaults := p.readFaults ++ faults }
  | .sticky b => { p with sticky := b }
  | .writeFaults faults => { p with writeFaults := p.writeFaults ++ faults }

/-- Makes changes, in order, to the pipe that a side writes into. -/
def changePipe (l : Link) (side : Side) (changes : List PipeChange) : Link :=
  l.setOutgoing side (changes.foldl PipeChange.apply (l.outgoing side))

end Link

end PinnedLink
