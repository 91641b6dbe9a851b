import PinnedLink.Channel.Basic
import PinnedLink.Config.Basic
import PinnedLink.Network.Socket
import PinnedLink.Text.Utf8

/-!
# Bringing up a session

What can fail without the network comes first: the identity, the certificates to trust and the name
of the server make a `Plan`.  Only a plan is carried out: a stream is opened, the hands are shaken,
and the stream is told not to wait.  A failure at any point closes the socket.
-/

namespace PinnedLink

/-- What a party needs before it turns to the network. -/
structure Plan where
  context : CryptoContext
  opening : Opening

namespace Plan

/-- Loads identity and trust. -/
def loadContext (config : Config) (identity : IdentityPem) :
    Except TransportError CryptoContext :=
  match CryptoContext.assemble config.versions identity
      (config.trustedPeerPem.map Text.utf8) with
  | .ok context => .ok context
  | .error e => .error (.identity e)

/-- What a role brings to its handshake. -/
def openingFor (role : Role) (config : Config) (context : CryptoContext) :
    Except TransportError Opening :=
  match role with
  | .initiator =>
    match Host.parse? config.host with
    | none => .error (.contextCreationFailed (.invalidServerName config.host))
    | some name => context.clientConfig.map (.client name)
  | .acceptor => context.serverConfig.map .server

/-- Prepares a party. -/
def make (role : Role) (config : Config) (identity : IdentityPem) :
    Except TransportError Plan := do
  let context ← loadContext config identity
  let opening ← openingFor role config context
  return { context, opening }

end Plan

/-- A session that is up, with what it stands on. -/
structure Established (σ : Type) where
  context : CryptoContext
  channel : Channel σ
  peer : PeerInfo

namespace Established

variable {ν σ : Type} [Network ν σ] [ByteStream σ]

/-- Opens the stream to the other side. -/
def openStream (role : Role) (config : Config) (socket : Socket) (net : ν) :
    Except TransportError σ × Socket × ν :=
  match role with
  | .initiator => socket.connect net config.host config.port
  | .acceptor =>
    match socket.bind net config.host config.port with
    | (.error e, socket, net) => (.error e, socket, net)
    | (.ok _, socket, net) => socket.accept net

/-- Shakes hands over a stream and tells it not to wait. -/
def secure (plan : Plan) (config : Config) (stream : σ) (net : ν) :
    Except TransportError (Established σ) × ν :=
  match Network.shakeHands net plan.opening stream with
  | (.error cause, stream, net) =>
    (.error (.handshakeFailed cause), Network.retire net stream)
  | (.ok (session, peer), stream, net) =>
    match ByteStream.setBlocking stream false with
    | (.error e, stream) =>
      (.error (.handshakeFailed (.stillBlocking e)), Network.retire net stream)
    | (.ok (), stream) =>
      let channel := Channel.new session stream config.maxBodyLen.toNat
      (.ok { context := plan.context, channel, peer }, net)

/-- Goes through all stages and stops at the first failure. -/
def attempt (role : Role) (config : Config) (identity : IdentityPem) (socket : Socket) (net : ν) :
    Except TransportError (Established σ) × Socket × ν :=
  match Plan.make role config identity with
  | .error e => (.error e, socket, net)
  | .ok plan =>
    match openStream role config socket net with
    | (.error e, socket, net) => (.error e, socket, net)
    | (.ok stream, socket, net) =>
      let (result, net) := secure plan config stream net
      (result, socket, net)

/-- Brings up a session, or closes the socket. -/
def establish (role : Role) (config : Config) (identity : IdentityPem) (socket : Socket)
    (net : ν) : Except TransportError (Established σ) × Socket × ν :=
  match attempt role config identity socket net with
  | (.ok established, socket, net) => (.ok established, socket, net)
  | (.error e, socket, net) =>
    let (socket, net) := socket.close net
    (.error e, socket, net)

end Established

end PinnedLink
