import PinnedLink.Network.Basic
import PinnedLink.Stream.Pipe

/-!
# The network inside one machine

A loopback network knows the addresses that are listened at and hands out ports that were not used
before.  Behind every connection there is the same peer: nobody, somebody who leaves at once, or a
party with a context of its own, and then both ends come to what `Handshake.agree` says.  Streams
are in-memory pipes.

In the newer protocol version a client is through with its handshake before the server has judged
its certificate.  If the server then refuses it, the alert is the first thing that the client
receives.
-/

namespace PinnedLink

/-- Who is at the other end of a connection. -/
inductive Loopback.Peer where
  | nobody
  | leaving
  | party (context : CryptoContext)
deriving DecidableEq, Repr

/-- A network inside one machine. -/
structure Loopback where
  /-- The addresses that are listened at. -/
  listening : List SocketAddress
  /-- The port that is handed out next. -/
  nextPort : UInt16
  peer : Loopback.Peer
deriving DecidableEq, Repr

namespace Loopback

/-- The first of the ports that are handed out. -/
def firstPort : UInt16 := 32768

/-- A network where nobody listens. -/
def quiet : Loopback := { listening := [], nextPort := firstPort, peer := .nobody }

/-- This machine as it sees itself. -/
def home : Ipv4 := ⟨127, 0, 0, 1⟩

/-- The address of a host, if it can be found out without asking anybody. -/
def resolve? (host : String) : Option Ipv4 :=
  if host = "localhost" then some home
  else match Host.parse? host with
    | some (.v4 address) => some address
    | _ => none

/-- No address is known for a host. -/
def unknownHost : IoError :=
  .note .other "failed to lookup address information: Name or service not known"

/-- The address belongs to another machine. -/
def foreignAddress : IoError := .note .addrNotAvailable "Cannot assign requested address (os error 99)"

/-- Somebody listens there already. -/
def addressInUse : IoError := .note .addrInUse "Address already in use (os error 98)"

/-- Nobody listens there. -/
def refused : IoError := .note .connectionRefused "Connection refused (os error 111)"

/-- A port to listen at, where zero asks for any. -/
def choosePort (net : Loopback) (port : UInt16) : UInt16 × Loopback :=
  if port = 0 then (net.nextPort, { net with nextPort := net.nextPort + 1 }) else (port, net)

/-- Starts to listen. -/
def listen (net : Loopback) (host : String) (port : UInt16) :
    Except IoError SocketAddress × Loopback :=
  match resolve? host with
  | none => (.error unknownHost, net)
  | some ip =>
    if ip.a ≠ 127 then (.error foreignAddress, net)
    else
      let (port, net) := net.choosePort port
      let address : SocketAddress := ⟨ip, port⟩
      if net.listening.contains address then (.error addressInUse, net)
      else (.ok address, { net with listening := address :: net.listening })

/-- The stream of a fresh connection. -/
def freshStream : Pipe.End := { outgoing := Pipe.empty, incoming := Pipe.empty }

/-- Connects, if there is somebody. -/
def connect (net : Loopback) (host : String) (port : UInt16) :
    Except IoError (Connection × Pipe.End) × Loopback :=
  match resolve? host, net.peer with
  | none, _ => (.error unknownHost, net)
  | some _, .nobody => (.error refused, net)
  | some ip, _ =>
    let (near, net) := net.choosePort 0
    (.ok (⟨⟨home, near⟩, ⟨ip, port⟩⟩, freshStream), net)

/-- Accepts whoever is there.  Nobody will do for nobody. -/
def accept (net : Loopback) (address : SocketAddress) :
    Except IoError (Connection × Pipe.End) × Loopback :=
  match net.peer with
  | .nobody => (.error (.bare .timedOut), net)
  | _ =>
    let (far, net) := net.choosePort 0
    (.ok (⟨address, ⟨home, far⟩⟩, freshStream), net)

/-- What a handshake comes to, seen from an opening, with a peer's context on the other side. -/
def outcome (opening : Opening) (peer : CryptoContext) : Except TransportError Handshake.Outcome :=
  match opening with
  | .client _ client => peer.serverConfig.map fun server => Handshake.agree client server
  | .server server => peer.clientConfig.map fun client => Handshake.agree client server

/-- The peer that a client believes to have before it learns that it is refused itself, if the
versions allow it to be that early. -/
def early? (opening : Opening) (peer : CryptoContext) : Option PeerInfo :=
  match opening, peer.identity with
  | .client _ client, some server =>
    match client.versions.common? peer.versions, client.verifier.check server.leaf with
    | some .tls13, .ok () =>
      some { version := .tls13, cipher := .choose .tls13 server.key.kind, leaf := server.leaf }
    | _, _ => none
  | _, _ => none

/-- The alert as the other side of a fresh session sends it. -/
def alertBytes (side : Session.Side) (alert : Session.Alert) : Bytes :=
  ((Session.established .tls13 side.other).sealAlert alert).outbox

/-- Ends one side's handshake with what became of it. -/
def finish (opening : Opening) (peer : CryptoContext) (stream : Pipe.End) :
    Handshake.Verdict → Except HandshakeCause (Session × PeerInfo) × Pipe.End
  | .established info => (.ok (.established info.version (opening.side), info), stream)
  | .failed e =>
    match e, early? opening peer with
    | .alertReceived alert, some info =>
      let queue := alertBytes (opening.side) alert
      (.ok (.established .tls13 (opening.side), info),
        { stream with incoming := { stream.incoming with queue, closed := true } })
    | _, _ => (.error (.session e), stream)

/-- Carries a handshake to its end. -/
def shakeHands (net : Loopback) (opening : Opening) (stream : Pipe.End) :
    Except HandshakeCause (Session × PeerInfo) × Pipe.End × Loopback :=
  match net.peer with
  | .party peer =>
    match outcome opening peer with
    | .error _ => (.error (.io (.bare .unexpectedEof)), stream, net)
    | .ok both =>
      let verdict := match opening.side with
        | .client => both.client
        | .server => both.server
      let (result, stream) := finish opening peer stream verdict
      (result, stream, net)
  | _ => (.error (.io (.bare .unexpectedEof)), stream, net)

instance : Network Loopback Pipe.End where
  listen := listen
  localAddress net address := (.ok address, net)
  connect := connect
  accept := accept
  shakeHands := shakeHands
  retire net _ := net
  hangUp net _ := net
  unlisten net address := { net with listening := net.listening.erase address }

end Loopback

end PinnedLink
