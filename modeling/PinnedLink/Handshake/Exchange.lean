import PinnedLink.Handshake.Greeting

/-!
# Handshakes message by message

A client says which versions it allows.  The server chooses the highest that it allows too, presents
its certificates and asks for those of the client.  The client judges them and presents its own.  In
the newer version it is then through with its handshake, although the server has yet to judge it; in
the older one it waits for the server's last word.  An end that stops says so by an alert.

Messages arrive in the order in which they were sent, at any time.  An end that gets a message it does
not wait for has no next state here: between two ends of this library there is no such message.
-/

namespace PinnedLink

/-- What a server wants the certificates of a client to be. -/
structure CertificateRequest where
  /-- Names of issuers. -/
  hints : List Bytes
  schemes : List Signature.Scheme
deriving DecidableEq, Repr

/-- The request of a judge. -/
def Verifier.request (v : Verifier) : CertificateRequest := { hints := v.hints, schemes := v.schemes }

/-- The identity that a server presents, whatever the client allows and asks for. -/
def ServerConfig.resolve (server : ServerConfig) (_versions : VersionPolicy) (_name : Option Host) :
    Identity :=
  server.identity

/-- The identity that a client presents, whatever the server wants it to be. -/
def ClientConfig.resolve (client : ClientConfig) (_request : CertificateRequest) : Identity :=
  client.identity

namespace Handshake

open Session (Alert Version)

/-- What ends send each other.  The key of an identity stands for the signature made with it. -/
inductive Message where
  /-- The client's first message. -/
  | hello (versions : VersionPolicy) (name : Option Host)
  /-- What the server chooses and presents. -/
  | choice (version : Version) (cipher : CipherSuite) (identity : Identity)
      (request : CertificateRequest)
  /-- What the client presents. -/
  | credentials (identity : Identity)
  /-- The server's last word in the older version. -/
  | finished
  | alert (alert : Alert)
deriving DecidableEq, Repr

/-- How far a client is. -/
inductive ClientStage where
  /-- It waits for the server's choice. -/
  | waiting
  /-- It has presented itself and waits for the server's last word. -/
  | presented (peer : PeerInfo)
  | ended (verdict : Verdict)
deriving DecidableEq, Repr

/-- How far a server is. -/
inductive ServerStage where
  /-- It waits for the client's first message. -/
  | waiting
  /-- It has presented itself and waits for the client to do so. -/
  | presented (version : Version) (cipher : CipherSuite)
  | ended (verdict : Verdict)
deriving DecidableEq, Repr

/-! ## One end and one message -/

/-- The first message of a client that asks for a server by a name. -/
def hello (name : Host) (client : ClientConfig) : Message :=
  .hello client.versions (if client.sendsName then some name else none)

/-- A client that has judged the server.  In the newer version that is all it does. -/
def ClientStage.content (peer : PeerInfo) : ClientStage :=
  match peer.version with
  | .tls12 => .presented peer
  | .tls13 => .ended (.established peer)

/-- What a server that has judged the client has left to say. -/
def lastWord : Version → List Message
  | .tls12 => [.finished]
  | .tls13 => []

/-- A client gets a message at some time, with the status that the server may have stapled. -/
def ClientStage.receive (name : Host) (client : ClientConfig) (now : Nat) (status : Bytes) :
    ClientStage → Message → Option (ClientStage × List Message)
  | .waiting, .choice version cipher peer request =>
    let verdict := client.verifier.checkServer ⟨peer.leaf, peer.issuers, now⟩ name status
    match judgeBy verdict version peer with
    | .error e => some (.ended (.failed e), [.alert (alertFor e)])
    | .ok () =>
      some (.content { version, cipher, leaf := peer.leaf }, [.credentials (client.resolve request)])
  | .presented peer, .finished => some (.ended (.established peer), [])
  | .waiting, .alert a | .presented _, .alert a | .ended (.established _), .alert a =>
    some (.ended (.failed (.alertReceived a)), [])
  | _, _ => none

/-- A server gets a message at some time. -/
def ServerStage.receive (server : ServerConfig) (now : Nat) :
    ServerStage → Message → Option (ServerStage × List Message)
  | .waiting, .hello versions name =>
    match versions.common? server.versions with
    | none => some (.ended (.failed noVersion), [.alert (alertFor noVersion)])
    | some version =>
      let identity := server.resolve versions name
      let cipher := .choose version identity.key.kind
      some (.presented version cipher, [.choice version cipher identity server.verifier.request])
  | .presented version cipher, .credentials peer =>
    let verdict := server.verifier.checkClient ⟨peer.leaf, peer.issuers, now⟩
    match judgeBy verdict version peer with
    | .error e => some (.ended (.failed e), [.alert (alertFor e)])
    | .ok () => some (.ended (.established { version, cipher, leaf := peer.leaf }), lastWord version)
  | .presented _ _, .alert a => some (.ended (.failed (.alertReceived a)), [])
  | _, _ => none

/-! ## Both ends -/

/-- Two ends and the messages under way between them, the oldest first. -/
structure Exchange where
  client : ClientStage
  server : ServerStage
  toServer : List Message
  toClient : List Message
deriving DecidableEq, Repr

/-- A message arrives, at some time. -/
inductive Delivery where
  | toServer (now : Nat)
  | toClient (now : Nat) (status : Bytes)

namespace Exchange

/-- The client has sent its first message. -/
def start (name : Host) (client : ClientConfig) : Exchange :=
  { client := .waiting, server := .waiting, toServer := [hello name client], toClient := [] }

/-- Everything that was sent has arrived. -/
def Quiet (x : Exchange) : Prop := x.toServer = [] ∧ x.toClient = []

instance (x : Exchange) : Decidable x.Quiet := inferInstanceAs (Decidable (_ ∧ _))

/-- Both ends are through. -/
def Settled (x : Exchange) (o : Outcome) : Prop :=
  x.client = .ended o.client ∧ x.server = .ended o.server

instance (x : Exchange) (o : Outcome) : Decidable (x.Settled o) := inferInstanceAs (Decidable (_ ∧ _))

variable (name : Host) (client : ClientConfig) (server : ServerConfig)

/-- The exchange after a delivery, if there is something to deliver. -/
def deliver (x : Exchange) : Delivery → Option Exchange
  | .toServer now =>
    match x.toServer with
    | [] => none
    | m :: rest =>
      (x.server.receive server now m).map fun (stage, sent) =>
        { x with server := stage, toServer := rest, toClient := x.toClient ++ sent }
  | .toClient now status =>
    match x.toClient with
    | [] => none
    | m :: rest =>
      (x.client.receive name client now status m).map fun (stage, sent) =>
        { x with client := stage, toClient := rest, toServer := x.toServer ++ sent }

/-- The exchange after several deliveries. -/
def run (deliveries : List Delivery) : Option Exchange :=
  deliveries.foldlM (deliver name client server) (start name client)

end Exchange

end Handshake

end PinnedLink
