import PinnedLink.Cli.Explanation
import PinnedLink.Cli.Setup
import PinnedLink.Echo.Meeting
import PinnedLink.Handshake.Wire
import PinnedLink.Identity.SelfSigned
import Std.Async.TCP

/-!
# The program

Reads the command line, the environment and files, prints, and moves bytes between the network and
the pipes that the echo processes work on.  What the bytes are and what is printed is decided
elsewhere.

Greetings and records go over the network as they are: records are numbered and carry a checksum, but
nothing is hidden and no key is used, so the program is for networks that are trusted.
-/

namespace PinnedLink.Program

open Cli (Failure)
open Std.Async.TCP.Socket (Client Server)

/-! ## Files -/

/-- The number and the words of a failure of the system. -/
def systemCode? : IO.Error → Option (Nat × String)
  | .noFileOrDirectory _ code details | .noSuchThing _ code details
  | .permissionDenied _ code details | .inappropriateType _ code details
  | .resourceBusy code details | .resourceVanished code details
  | .unsupportedOperation code details | .otherError code details =>
    some (code.toNat, details)
  | _ => none

/-- A failure of the system as a failure of a stream.  Numbers may come with their sign reversed. -/
def ioError (e : IO.Error) : IoError :=
  match systemCode? e with
  | some (code, details) =>
    let number := if code < 1 <<< 31 then code else UInt32.size - code
    .note .other (details.capitalize ++ " (os error " ++ toString number ++ ")")
  | none => .note .other (toString e)

/-- Does something that may fail. -/
def attempt {α : Type} (failure : IoError → Failure) (act : IO α) : ExceptT Failure IO α := do
  match ← act.toBaseIO with
  | .ok a => return a
  | .error e => throw (failure (ioError e))

/-- Reads a file. -/
def readFile (path : String) : IO (String × Except IoError Bytes) := do
  match ← (IO.FS.readBinFile path).toBaseIO with
  | .ok bytes => return (path, .ok bytes.data.toList)
  | .error e => return (path, .error (ioError e))

/-- Reads files ahead of their use. -/
def readFiles (paths : List String) : IO Cli.Files := do
  let contents ← paths.mapM readFile
  return fun path => (contents.lookup path).getD (.error Cli.noFile)

/-- Writes a file. -/
def writeFile (path : String) (bytes : Bytes) : ExceptT Failure IO Unit :=
  attempt (fun e => ⟨"writing " ++ path, [e.message]⟩) (IO.FS.writeBinFile path ⟨bytes.toArray⟩)

/-- The variables of the environment that flags look at. -/
def environment : IO (List (String × String)) := do
  let names := Cli.Flag.connection.filterMap fun f => f.envName
  names.filterMapM fun name => do
    return (← IO.getEnv name).map fun value => (name, value)

/-! ## Connections -/

/-- A connection, and the bytes that have come and were not asked for yet. -/
structure Line where
  client : Client
  inbox : IO.Ref Bytes

/-- A line over a fresh connection. -/
def Line.over (client : Client) : IO Line := do
  return { client, inbox := ← IO.mkRef [] }

/-- Waits for bytes; none come after the end. -/
def Line.wait (l : Line) : IO Bool := do
  match ← (l.client.recv? 65536).block with
  | some bytes =>
    l.inbox.modify (· ++ bytes.data.toList)
    return true
  | none => return false

/-- Writes bytes. -/
def Line.write (l : Line) (bytes : Bytes) : IO Unit := do
  unless bytes.isEmpty do
    (l.client.send ⟨bytes.toArray⟩).block

/-- Takes a number of bytes, as soon as they are there. -/
partial def Line.take (l : Line) (n : Nat) : ExceptT HandshakeCause IO Bytes := do
  let bytes ← l.inbox.get
  if n ≤ bytes.length then
    l.inbox.set (bytes.drop n)
    return bytes.take n
  else if ← l.wait then l.take n
  else throw (.io (.bare .unexpectedEof))

/-- An address as the network takes it. -/
def netAddress (a : SocketAddress) : Std.Net.SocketAddress :=
  .v4 ⟨.ofParts a.ip.a.toUInt8 a.ip.b.toUInt8 a.ip.c.toUInt8 a.ip.d.toUInt8, a.port⟩

/-- An address as the network gives it. -/
def ofNetAddress : Std.Net.SocketAddress → SocketAddress
  | .v4 a =>
    match Host.parseV4? a.addr.toString.toList with
    | some ip => ⟨ip, a.port⟩
    | none => ⟨Loopback.home, a.port⟩
  | .v6 a => ⟨Loopback.home, a.port⟩

/-- The address of a host. -/
def resolve (host : String) (port : UInt16) : Except IoError SocketAddress :=
  match Loopback.resolve? host with
  | some ip => .ok ⟨ip, port⟩
  | none => .error Loopback.unknownHost

/-- Exchanges greetings and answers. -/
def shakeHands (l : Line) (own : Opening) : ExceptT HandshakeCause IO PeerInfo := do
  l.write (Handshake.writeItem (Handshake.greet own).encode)
  match ← l.take 4 with
  | [a, b, c, d] =>
    let greeting ← l.take (BigEndian.readUInt32 a b c d).toNat
    match Handshake.Greeting.decode? greeting with
    | none => throw (.session (.invalidMessage .invalidContentType))
    | some peer =>
      l.write [Handshake.encodeAnswer (Handshake.answer own peer)]
      match (← l.take 1).head?.bind Handshake.decodeAnswer? with
      | none => throw (.session (.invalidMessage .invalidContentType))
      | some reply =>
        match Handshake.conclude own peer reply with
        | .established info => return info
        | .failed e => throw (.session e)
  | _ => throw (.io (.bare .unexpectedEof))

/-- Brings up the session of a transport over a connection. -/
def bringUp (t : Transport Pipe.End) (plan : Plan) (l : Line) :
    ExceptT Failure IO (Transport Pipe.End) := do
  match ← (shakeHands l plan.opening).run with
  | .error cause => throw (.ofTransport (.handshakeFailed cause))
  | .ok peer =>
    let connection : Connection :=
      { near := ofNetAddress (← l.client.getSockName), far := ofNetAddress (← l.client.getPeerName) }
    let session := Session.established peer.version plan.opening.side
    let channel := Channel.new session Loopback.freshStream t.config.maxBodyLen.toNat
    let socket : Socket := { listener := none, connection := some connection }
    return t.withSession socket { context := plan.context, channel, peer }

/-! ## Processes -/

/-- A process over a transport, as far as moving its bytes needs to know it. -/
structure Process (α : Type) where
  step : α → Echo.Wire Pipe.End → α × Echo.Wire Pipe.End
  transport : α → Transport Pipe.End
  withTransport : α → Transport Pipe.End → α
  ended : α → Bool
  /-- The process can only go on when something comes in. -/
  waits : α → Bool
  printed : α → List String

/-- Runs a process to its end. -/
partial def Process.run {α : Type} (p : Process α) (l : Line) (a : α) (view : Pipe.End) : IO α := do
  if p.ended a then return a
  let arrived ← l.inbox.swap []
  let view := { view with incoming := { view.incoming with queue := view.incoming.queue ++ arrived } }
  let before := p.withTransport a ((p.transport a).withView view)
  let (after, wire) := p.step before ⟨view⟩
  let view := ((p.transport after).view?).getD wire.view
  for line in (p.printed after).drop (p.printed before).length do
    IO.println line
  discard (l.write view.outgoing.queue).toBaseIO
  let view := { view with outgoing := { view.outgoing with queue := [] } }
  if p.waits before && p.waits after && !view.incoming.closed then
    let more := (← l.wait.toBaseIO).toOption.getD false
    let view := { view with incoming := { view.incoming with closed := !more } }
    p.run l after view
  else p.run l after view

/-- The listener as a process. -/
def listener : Process (Echo.Listener Pipe.End) :=
  { step := Echo.Listener.step
    transport := Echo.Listener.transport
    withTransport := fun l transport => { l with transport }
    ended := fun l => match l.stage with
      | .finished | .failed _ => true
      | _ => false
    waits := fun l => match l.stage with
      | .asking => true
      | _ => false
    printed := fun _ => [] }

/-- The caller as a process. -/
def caller : Process (Echo.Caller Pipe.End) :=
  { step := Echo.Caller.step
    transport := Echo.Caller.transport
    withTransport := fun c transport => { c with transport }
    ended := fun c => match c.stage with
      | .finished | .failed _ => true
      | _ => false
    waits := fun c => match c.stage with
      | .awaiting _ => true
      | _ => false
    printed := Echo.Caller.printed }

/-! ## Commands -/

/-- A plan, or the failure of the transport. -/
def plan (t : Transport Pipe.End) (role : Role) : ExceptT Failure IO Plan :=
  match Plan.make role t.config t.identity with
  | .ok plan => return plan
  | .error e => throw (.ofTransport e)

/-- An operation of the network. -/
def reach {α : Type} (failure : IoError → TransportError) (act : IO α) : ExceptT Failure IO α :=
  attempt (fun e => .ofTransport (failure e)) act

/-- Waits for one peer and sends back what it sends. -/
def listen (t : Transport Pipe.End) : ExceptT Failure IO Unit := do
  let refuse := TransportError.bindFailed (Socket.place t.config.host t.config.port)
  match resolve t.config.host t.config.port with
  | .error e => throw (.ofTransport (refuse e))
  | .ok address =>
    let server ← reach refuse do
      let server ← Server.mk
      server.bind (netAddress address)
      server.listen 10
      return server
    let bound := ofNetAddress (← server.getSockName)
    IO.println ("Listening on " ++ bound.text)
    let plan ← plan t .acceptor
    let l ← Line.over (← reach .acceptFailed server.accept.block)
    let t ← bringUp t plan l
    let subject := (t.peer.bind PeerInfo.subject).getD "<unknown subject>"
    IO.println ("Peer connected: " ++ subject)
    let done ← listener.run l (.start t) Loopback.freshStream
    match done.stage with
    | .failed e => throw (.ofTransport e)
    | _ => IO.println done.report

/-- The failure of a caller. -/
def callerFailure : Echo.Caller.Failure → Failure
  | .transport e => .ofTransport e
  | why => ⟨why.text, []⟩

/-- Sends texts and prints their echoes. -/
def connect (t : Transport Pipe.End) (texts : List String) : ExceptT Failure IO Unit := do
  let plan ← plan t .initiator
  let refuse := TransportError.connectFailed (Socket.place t.config.host t.config.port)
  match resolve t.config.host t.config.port with
  | .error e => throw (.ofTransport (refuse e))
  | .ok address =>
    let client ← reach refuse do
      let client ← Client.mk
      (client.connect (netAddress address)).block
      return client
    let l ← Line.over client
    let t ← bringUp t plan l
    let done ← caller.run l (.start t texts) Loopback.freshStream
    (l.client.shutdown).block
    match done.stage with
    | .failed why => throw (callerFailure why)
    | _ => return

/-- Makes an identity of random bytes, trying again when they will not do. -/
partial def freshIdentity (hosts : List String) : IO SelfSigned.Fresh := do
  let secret ← IO.getRandomBytes 32
  let once ← IO.getRandomBytes 32
  match SelfSigned.make? secret.data.toList once.data.toList hosts with
  | some fresh => return fresh
  | none => freshIdentity hosts

/-- Makes an identity and writes it to two files. -/
def genCert (out : String) (hosts : List String) : ExceptT Failure IO Unit := do
  let fresh ← freshIdentity hosts
  let certPath := out ++ ".crt"
  let keyPath := out ++ ".key"
  writeFile certPath fresh.pem.cert
  writeFile keyPath fresh.pem.key
  IO.println ("Certificate: " ++ certPath)
  IO.println ("Private key: " ++ keyPath)
  IO.println ("SHA-256:     " ++ fingerprint fresh.certificate)

/-- The transport that a command line describes. -/
def transport (c : Cli.ConnectionWords) : ExceptT Failure IO (Transport Pipe.End) := do
  let files ← readFiles c.paths
  match c.transport files with
  | .ok t => return t
  | .error f => throw f

/-- Does what a command asks for. -/
def perform : Cli.Command → ExceptT Failure IO Unit
  | .genCert out hosts => genCert out hosts
  | .listen c => do listen (← transport c)
  | .connect c texts => do connect (← transport c) texts
  | .version => IO.println Cli.versionLine

/-- Answers a command line; the result is the exit code. -/
def answer : Cli.Request → IO UInt32
  | .explain none => do
    IO.print Cli.explainProgram
    return 0
  | .explain (some shape) => do
    IO.print shape.explain
    return 0
  | .explainNothing => do
    IO.eprint Cli.explainProgram
    return 2
  | .complain c => do
    IO.eprint c.report
    return 2
  | .run c => do
    match ← (perform c).run with
    | .ok () => return 0
    | .error f =>
      IO.eprint f.report
      return 1

end PinnedLink.Program

/-- The program. -/
def main (args : List String) : IO UInt32 := do
  PinnedLink.Program.answer (PinnedLink.Cli.Request.read (← PinnedLink.Program.environment) args)
