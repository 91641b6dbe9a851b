import PinnedLink.Network.Socket
import PinnedLink.Proofs.Stream.Logged

/-!
# Networks that keep a record

A `Recorded` network is any network with a record of what was asked of it and of what it answered,
oldest first.  Its streams keep their logs.  It behaves as the network under it, so what holds of all
recorded networks says what a user of any network may have asked of it, and what it was given.

Each operation of a socket has a lemma here that says what it puts on record.
-/

namespace PinnedLink

/-- A call of a network, with what the network has answered. -/
inductive NetworkCall where
  | listen (host : String) (port : UInt16) (answer : Except IoError SocketAddress)
  | localAddress (address : SocketAddress) (answer : Except IoError SocketAddress)
  | connect (host : String) (port : UInt16) (answer : Except IoError Connection)
  | accept (address : SocketAddress) (answer : Except IoError Connection)
  | shakeHands (answer : Except HandshakeCause Unit)
  /-- A stream is taken back, behind the calls that were made of it. -/
  | retire (used : List StreamCall)
  | hangUp (connection : Connection)
  | unlisten (address : SocketAddress)

namespace NetworkCall

/-- The call asks for a connection, or for a place to wait for one. -/
def reachesOut : NetworkCall → Bool
  | listen _ _ _ | connect _ _ _ | accept _ _ => true
  | _ => false

/-- The connection that the network has given. -/
def connection? : NetworkCall → Option Connection
  | connect _ _ (.ok connection) | accept _ (.ok connection) => some connection
  | _ => none

/-- The address at which the network listens from now on. -/
def address? : NetworkCall → Option SocketAddress
  | listen _ _ (.ok address) => some address
  | _ => none

/-- The network has refused the call. -/
def refused : NetworkCall → Bool
  | listen _ _ (.error _) | localAddress _ (.error _) | connect _ _ (.error _) | accept _ (.error _)
  | shakeHands (.error _) => true
  | _ => false

end NetworkCall

/-- A network with the calls that were made of it, oldest first. -/
structure Recorded (ν : Type) where
  network : ν
  calls : List NetworkCall

namespace Recorded

variable {ν σ : Type} [Network ν σ]

/-- A connection with a stream on which no call was made. -/
def withLog (made : Connection × σ) : Connection × Logged σ := (made.1, ⟨made.2, []⟩)

/-- Waiting for connections, put on record. -/
def listen (net : Recorded ν) (host : String) (port : UInt16) :
    Except IoError SocketAddress × Recorded ν :=
  let (answer, network) := Network.listen net.network host port
  (answer, { network, calls := net.calls ++ [.listen host port answer] })

/-- The address of a listener, put on record. -/
def localAddress (net : Recorded ν) (address : SocketAddress) :
    Except IoError SocketAddress × Recorded ν :=
  let (answer, network) := Network.localAddress net.network address
  (answer, { network, calls := net.calls ++ [.localAddress address answer] })

/-- A connection, put on record. -/
def connect (net : Recorded ν) (host : String) (port : UInt16) :
    Except IoError (Connection × Logged σ) × Recorded ν :=
  let (answer, network) := Network.connect net.network host port
  (answer.map withLog,
    { network, calls := net.calls ++ [.connect host port (answer.map Prod.fst)] })

/-- Waiting for a peer, put on record. -/
def accept (net : Recorded ν) (address : SocketAddress) :
    Except IoError (Connection × Logged σ) × Recorded ν :=
  let (answer, network) := Network.accept net.network address
  (answer.map withLog,
    { network, calls := net.calls ++ [.accept address (answer.map Prod.fst)] })

/-- A handshake, put on record. -/
def shakeHands (net : Recorded ν) (opening : Opening) (stream : Logged σ) :
    Except HandshakeCause (Session × PeerInfo) × Logged σ × Recorded ν :=
  let (answer, after, network) := Network.shakeHands net.network opening stream.stream
  (answer, { stream with stream := after },
    { network, calls := net.calls ++ [.shakeHands (answer.map fun _ => ())] })

instance : Network (Recorded ν) (Logged σ) where
  listen := listen
  localAddress := localAddress
  connect := connect
  accept := accept
  shakeHands := shakeHands
  retire net stream :=
    { network := Network.retire net.network stream.stream
      calls := net.calls ++ [.retire stream.calls] }
  hangUp net connection :=
    { network := Network.hangUp net.network connection
      calls := net.calls ++ [.hangUp connection] }
  unlisten net address :=
    { network := Network.unlisten net.network address
      calls := net.calls ++ [.unlisten address] }

variable {net net' : Recorded ν}

omit [Network ν σ] in
theorem map_withLog (answer : Except IoError (Connection × σ)) :
    (answer.map withLog).map Prod.fst = answer.map Prod.fst ∧
      ∀ made, answer.map withLog = .ok made → made.2.calls = [] := by
  cases answer with
  | error e => exact ⟨rfl, nofun⟩
  | ok made =>
    refine ⟨rfl, ?_⟩
    rintro _ ⟨⟩
    rfl

theorem calls_retire (net : Recorded ν) (stream : Logged σ) :
    (Network.retire net stream : Recorded ν).calls = net.calls ++ [.retire stream.calls] := rfl

theorem calls_hangUp (net : Recorded ν) (connection : Connection) :
    (Network.hangUp net connection : Recorded ν).calls = net.calls ++ [.hangUp connection] := rfl

theorem calls_unlisten (net : Recorded ν) (address : SocketAddress) :
    (Network.unlisten net address : Recorded ν).calls = net.calls ++ [.unlisten address] := rfl

theorem calls_listen {host : String} {port : UInt16} {answer : Except IoError SocketAddress}
    (h : Network.listen net host port = (answer, net')) :
    net'.calls = net.calls ++ [.listen host port answer] := by
  cases h
  rfl

theorem calls_localAddress {address : SocketAddress} {answer : Except IoError SocketAddress}
    (h : Network.localAddress net address = (answer, net')) :
    net'.calls = net.calls ++ [.localAddress address answer] := by
  cases h
  rfl

/-- What connecting puts on record: the refusal, or the connection, whose stream is unused. -/
theorem calls_connect {host : String} {port : UInt16}
    {answer : Except IoError (Connection × Logged σ)}
    (h : Network.connect net host port = (answer, net')) :
    net'.calls = net.calls ++ [.connect host port (answer.map Prod.fst)] ∧
      ∀ made, answer = .ok made → made.2.calls = [] := by
  cases h
  obtain ⟨hsame, hunused⟩ := map_withLog (Network.connect net.network host port).1
  exact ⟨congrArg (fun answer => net.calls ++ [.connect host port answer]) hsame.symm, hunused⟩

theorem calls_accept {address : SocketAddress} {answer : Except IoError (Connection × Logged σ)}
    (h : Network.accept net address = (answer, net')) :
    net'.calls = net.calls ++ [.accept address (answer.map Prod.fst)] ∧
      ∀ made, answer = .ok made → made.2.calls = [] := by
  cases h
  obtain ⟨hsame, hunused⟩ := map_withLog (Network.accept net.network address).1
  exact ⟨congrArg (fun answer => net.calls ++ [.accept address answer]) hsame.symm, hunused⟩

theorem calls_shakeHands {opening : Opening} {stream stream' : Logged σ}
    {answer : Except HandshakeCause (Session × PeerInfo)}
    (h : Network.shakeHands net opening stream = (answer, stream', net')) :
    net'.calls = net.calls ++ [.shakeHands (answer.map fun _ => ())] ∧
      stream'.calls = stream.calls := by
  cases h
  exact ⟨rfl, rfl⟩

end Recorded

/-! ## Sockets -/

namespace Socket

variable {ν σ : Type} [Network ν σ]

/-- The calls by which a socket is closed. -/
def closing (s : Socket) : List NetworkCall :=
  (s.connection.map NetworkCall.hangUp).toList ++ (s.listener.map NetworkCall.unlisten).toList

theorem hangUp_mem_closing {s : Socket} {connection : Connection}
    (h : s.connection = some connection) : .hangUp connection ∈ s.closing := by
  simp [closing, h]

theorem unlisten_mem_closing {s : Socket} {address : SocketAddress}
    (h : s.listener = some address) : .unlisten address ∈ s.closing := by
  simp [closing, h]

/-- Closing asks for nothing. -/
theorem closing_asks_nothing {s : Socket} {call : NetworkCall} (h : call ∈ s.closing) :
    call.reachesOut = false ∧ call.connection? = none ∧ call.address? = none := by
  simp only [closing, List.mem_append, Option.mem_toList, Option.map_eq_some_iff] at h
  obtain ⟨connection, -, rfl⟩ | ⟨address, -, rfl⟩ := h
  · exact ⟨rfl, rfl, rfl⟩
  · exact ⟨rfl, rfl, rfl⟩

theorem calls_close (s : Socket) (net : Recorded ν) :
    (s.close net).2.calls = net.calls ++ s.closing := by
  obtain ⟨listener, connection⟩ := s
  cases connection <;> cases listener <;>
    simp [close, closeStream, closing, Recorded.calls_hangUp, Recorded.calls_unlisten]

end Socket

end PinnedLink
