import PinnedLink.Transport.Establish

/-!
# Secure transports

A transport has one role and one peer at a time.  It is configured, brought up by `init`, used until
something fails or it is closed, and may then be brought up again.  A failure of the session ends
its use: what is sent or received afterwards fails without touching the session, until the next
successful `init`.
-/

namespace PinnedLink

open PinnedLink.Frame (Message)

/-- How far a transport has got. -/
inductive TransportState where
  /-- Never brought up. -/
  | uninitialized
  | established
  /-- Could not be brought up, or failed in use. -/
  | failed
  | closed
deriving DecidableEq, Repr

/-- The name of a state in messages. -/
def TransportState.describe : TransportState → String
  | .uninitialized => "Uninitialized"
  | .established => "Established"
  | .failed => "Failed"
  | .closed => "Closed"

/-- A secure transport over streams in states of type `σ`. -/
structure Transport (σ : Type) where
  config : Config
  identity : IdentityPem
  /-- The role of the last attempt to bring it up. -/
  role : Option Role
  state : TransportState
  socket : Socket
  context : Option CryptoContext
  channel : Option (Channel σ)
  peer : Option PeerInfo

namespace Transport

variable {ν σ : Type} [ByteStream σ]

/-- A transport that was never brought up. -/
def new (identity : IdentityPem) (config : Config) : Transport σ :=
  { config, identity, role := none, state := .uninitialized, socket := .unused, context := none,
    channel := none, peer := none }

/-- Changes a setting.  An established transport takes no notice. -/
def set (t : Transport σ) (setting : Setting) (value : String) :
    Except ConfigError Unit × Transport σ :=
  if t.state = .established then (.ok (), t)
  else match t.config.set setting value with
    | .ok config => (.ok (), { t with config })
    | .error e => (.error e, t)

/-! ## Bringing up and closing -/

/-- Ends the session in good order, as far as the stream takes it, and gives up the connection.  The
listener stays. -/
def release [Network ν σ] (t : Transport σ) (net : ν) : Transport σ × ν :=
  let net := match t.channel with
    | some c => Network.retire net c.shutdown.stream
    | none => net
  let (socket, net) := t.socket.closeStream net
  ({ t with channel := none, context := none, socket }, net)

/-- Listens ahead of `init`. -/
def bind [Network ν σ] (t : Transport σ) (net : ν) :
    Except TransportError SocketAddress × Transport σ × ν :=
  if t.state = .established then (.error .alreadyInitialized, t, net)
  else
    let (result, socket, net) := t.socket.bind net t.config.host t.config.port
    (result, { t with socket }, net)

/-- The transport with a session that is up. -/
def withSession (t : Transport σ) (socket : Socket) (e : Established σ) : Transport σ :=
  { t with
    socket
    context := some e.context
    channel := some e.channel
    peer := some e.peer
    state := .established }

/-- Brings up a session in a role. -/
def init [Network ν σ] (t : Transport σ) (role : Role) (net : ν) :
    Except TransportError Unit × Transport σ × ν :=
  if t.state = .established then (.error .alreadyInitialized, t, net)
  else
    let (t, net) := t.release net
    let t := { t with role := some role, peer := none }
    match Established.establish role t.config t.identity t.socket net with
    | (.ok e, socket, net) => (.ok (), t.withSession socket e, net)
    | (.error e, socket, net) => (.error e, { t with socket, state := .failed }, net)

/-- Gives up session, connection and listener. -/
def close [Network ν σ] (t : Transport σ) (net : ν) : Transport σ × ν :=
  let hadSession := t.channel.isSome
  let (t, net) := t.release net
  let (socket, net) := t.socket.close net
  ({ t with socket, state := if hadSession then .closed else t.state }, net)

/-! ## Use -/

/-- The channel, while the transport is established. -/
def live? (t : Transport σ) : Option (Channel σ) :=
  if t.state = .established then t.channel else none

/-- Puts the channel back after an operation; a failure of the operation fails the transport. -/
def settle {α : Type} (t : Transport σ) (result : Except TransportError α) (c : Channel σ) :
    Transport σ :=
  match result with
  | .ok _ => { t with channel := some c }
  | .error _ => { t with channel := some c, state := .failed }

/-- Sends a message and waits until the stream has taken it. -/
def send (t : Transport σ) (m : Message) : Except TransportError Nat × Transport σ :=
  match t.live? with
  | none => (.error .notEstablished, t)
  | some c =>
    let (result, c) := c.send m
    (result, t.settle result c)

/-- Sends a message as far as the stream takes it without waiting. -/
def trySend (t : Transport σ) (m : Message) :
    Except TransportError Channel.SendStatus × Transport σ :=
  match t.live? with
  | none => (.error .notEstablished, t)
  | some c =>
    let (result, c) := c.trySend m
    (result, t.settle result c)

/-- Hands what is pending to the stream. -/
def flush (t : Transport σ) : Except TransportError Channel.FlushStatus × Transport σ :=
  match t.live? with
  | none => (.error .notEstablished, t)
  | some c =>
    let (result, c) := c.flush
    (result, t.settle result c)

/-- Receives one message into the caller's message, without waiting. -/
def recv (t : Transport σ) (m : Message) :
    Except TransportError Channel.RecvOutcome × Transport σ × Message :=
  match t.live? with
  | none => (.error .notEstablished, t, m)
  | some c =>
    let (result, c, m) := c.recv m
    (result, t.settle result c, m)

end Transport

end PinnedLink
