import PinnedLink.Network.Basic

/-!
# Sockets

A socket listens, or is connected, or both while it waits for its one peer: as soon as a peer is
accepted, it no longer listens.  Closing gives up whatever it has.
-/

namespace PinnedLink

/-- What a transport has of the network. -/
structure Socket where
  /-- The address it listens at. -/
  listener : Option SocketAddress
  connection : Option Connection
deriving DecidableEq, Repr

namespace Socket

/-- A socket that has nothing. -/
def unused : Socket := { listener := none, connection := none }

/-- The socket has something to close. -/
def isOpen (s : Socket) : Bool := s.connection.isSome || s.listener.isSome

/-- The socket listens. -/
def isListening (s : Socket) : Bool := s.listener.isSome

/-- The address on this side: of the connection, or else of the listener. -/
def localAddress (s : Socket) : Option SocketAddress :=
  (s.connection.map Connection.near) <|> s.listener

/-- The address on the other side. -/
def peerAddress (s : Socket) : Option SocketAddress := s.connection.map Connection.far

/-- A host and a port as they are named in failures. -/
def place (host : String) (port : UInt16) : String := host ++ ":" ++ toString port.toNat

variable {ν σ : Type} [Network ν σ]

/-- Connects.  A listener stays as it is. -/
def connect (s : Socket) (net : ν) (host : String) (port : UInt16) :
    Except TransportError σ × Socket × ν :=
  match Network.connect net host port with
  | (.ok (connection, stream), net) => (.ok stream, { s with connection := some connection }, net)
  | (.error e, net) => (.error (.connectFailed (place host port) e), s, net)

/-- Starts to listen or, if it listens already, asks at which address it does. -/
def bind (s : Socket) (net : ν) (host : String) (port : UInt16) :
    Except TransportError SocketAddress × Socket × ν :=
  match s.listener with
  | some address =>
    match Network.localAddress net address with
    | (.ok bound, net) => (.ok bound, s, net)
    | (.error e, net) => (.error (.bindFailed (place host port) e), s, net)
  | none =>
    match Network.listen net host port with
    | (.ok address, net) => (.ok address, { s with listener := some address }, net)
    | (.error e, net) => (.error (.bindFailed (place host port) e), s, net)

/-- The failure to accept of a socket that does not listen. -/
def notListening : TransportError := .acceptFailed (.note .notConnected "accept before bind")

/-- Waits for one peer and stops listening. -/
def accept (s : Socket) (net : ν) : Except TransportError σ × Socket × ν :=
  match s.listener with
  | none => (.error notListening, s, net)
  | some address =>
    match Network.accept net address with
    | (.ok (connection, stream), net) =>
      (.ok stream, { listener := none, connection := some connection }, Network.unlisten net address)
    | (.error e, net) => (.error (.acceptFailed e), s, net)

/-- Gives up the connection, but not the listener. -/
def closeStream (s : Socket) (net : ν) : Socket × ν :=
  match s.connection with
  | some connection => ({ s with connection := none }, Network.hangUp net connection)
  | none => (s, net)

/-- Gives up connection and listener. -/
def close (s : Socket) (net : ν) : Socket × ν :=
  let (s, net) := s.closeStream net
  match s.listener with
  | some address => ({ s with listener := none }, Network.unlisten net address)
  | none => (s, net)

end Socket

end PinnedLink
