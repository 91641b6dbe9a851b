import PinnedLink.Handshake.Basic
import PinnedLink.Session.Basic

/-!
# Networks

The network is where connections come from.  A transport asks it to listen, to connect and to
accept, lets it carry a handshake to its end, and gives back what it does not need any more: first
the stream, with the bytes that are still on their way, then the connection and the listener.  What
the network and whoever is behind it answer is up to them: each answer may depend on all that was
asked before.
-/

namespace PinnedLink

/-- An address and a port. -/
structure SocketAddress where
  ip : Ipv4
  port : UInt16
deriving DecidableEq, Repr

/-- The text of an address and a port. -/
def SocketAddress.text (a : SocketAddress) : String := a.ip.text ++ ":" ++ toString a.port.toNat

/-- The two ends of a connection. -/
structure Connection where
  near : SocketAddress
  far : SocketAddress
deriving DecidableEq, Repr

/-- A network in a state of type `ν` whose connections are streams in states of type `σ`. -/
class Network (ν : Type) (σ : outParam Type) where
  /-- Starts to listen at a host and a port; on success, the address that is listened at. -/
  listen : ν → String → UInt16 → Except IoError SocketAddress × ν
  /-- The address of a listener, asked again. -/
  localAddress : ν → SocketAddress → Except IoError SocketAddress × ν
  /-- Connects to a host and a port. -/
  connect : ν → String → UInt16 → Except IoError (Connection × σ) × ν
  /-- Waits for somebody to connect to an address that is listened at. -/
  accept : ν → SocketAddress → Except IoError (Connection × σ) × ν
  /-- Carries a handshake over a stream to its end. -/
  shakeHands : ν → Opening → σ → Except HandshakeCause (Session × PeerInfo) × σ × ν
  /-- Takes back a stream that no session uses any more. -/
  retire : ν → σ → ν
  /-- Ends a connection in both directions. -/
  hangUp : ν → Connection → ν
  /-- Stops listening at an address. -/
  unlisten : ν → SocketAddress → ν

end PinnedLink
