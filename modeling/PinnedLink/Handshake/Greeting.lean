import PinnedLink.Handshake.Basic

/-!
# A handshake in two messages

Each end sends a greeting with its versions and certificates, then an answer to the other end's
greeting: that all is well, or the alert with which it stops.  From the two messages of the other
end each end knows what becomes of itself.  The two ends together come to what `Handshake.agree` says
(`agree_eq_conclude`).
-/

namespace PinnedLink.Handshake

open Session (Alert Version)

/-- What an end says of itself. -/
structure Greeting where
  versions : VersionPolicy
  identity : Identity
deriving DecidableEq, Repr

/-- The greeting of an end. -/
def greet : Opening → Greeting
  | .client _ c => ⟨c.versions, c.identity⟩
  | .server s => ⟨s.versions, s.identity⟩

/-- The judge of an end. -/
def verifierOf : Opening → Verifier
  | .client _ c => c.verifier
  | .server s => s.verifier

/-- The verdict of an end on the other one's certificates. -/
def judgement (own : Opening) (peer : Greeting) (version : Version) : Except Session.Error Unit :=
  judge version (verifierOf own) peer.identity

/-- The versions have nothing in common. -/
def noVersion : Session.Error := .peerIncompatible .tls12NotOfferedOrEnabled

/-- The version of two ends. -/
def version? (own : Opening) (peer : Greeting) : Option Version :=
  (greet own).versions.common? peer.versions

/-- The answer of an end: the alert with which it stops, if it stops. -/
def answer (own : Opening) (peer : Greeting) : Option Alert :=
  match version? own peer with
  | none => some (alertFor noVersion)
  | some version =>
    match judgement own peer version with
    | .ok () => none
    | .error e => some (alertFor e)

/-- The session that an end has with another one. -/
def peerInfo (own : Opening) (peer : Greeting) (version : Version) : PeerInfo :=
  let server := match own with
    | .client _ _ => peer.identity
    | .server s => s.identity
  { version, cipher := .choose version server.key.kind, leaf := peer.identity.leaf }

/-- What becomes of an end, by the messages of the other one.  Without a common version it is the
server that stops; otherwise the client judges first. -/
def conclude (own : Opening) (peer : Greeting) (reply : Option Alert) : Verdict :=
  match version? own peer, own.side with
  | none, .client => .failed (.alertReceived (alertFor noVersion))
  | none, .server => .failed noVersion
  | some version, .client =>
    match judgement own peer version, reply with
    | .error e, _ => .failed e
    | .ok (), some alert => .failed (.alertReceived alert)
    | .ok (), none => .established (peerInfo own peer version)
  | some version, .server =>
    match reply, judgement own peer version with
    | some alert, _ => .failed (.alertReceived alert)
    | none, .error e => .failed e
    | none, .ok () => .established (peerInfo own peer version)

/-- Two ends that exchange greetings and answers come to what is agreed. -/
theorem agree_eq_conclude (name : Host) (client : ClientConfig) (server : ServerConfig) :
    let c := Opening.client name client
    let s := Opening.server server
    agree client server =
      { client := conclude c (greet s) (answer s (greet c))
        server := conclude s (greet c) (answer c (greet s)) } := by
  intro c s
  have hc : version? c (greet s) = client.versions.common? server.versions := rfl
  have hs : version? s (greet c) = client.versions.common? server.versions := VersionPolicy.common?_comm _ _
  rcases hv : client.versions.common? server.versions with _ | version
  · simp only [agree, conclude, hc, hs, hv, c, s, Opening.side, serverStops, noVersion]
  · have hjc : judgement c (greet s) version = judge version client.verifier server.identity := rfl
    have hjs : judgement s (greet c) version = judge version server.verifier client.identity := rfl
    simp only [agree, conclude, answer, hc, hs, hv, hjc, hjs, c, s, Opening.side]
    rcases judge version client.verifier server.identity with e | u
    · rfl
    · rcases judge version server.verifier client.identity with e | u' <;> rfl

end PinnedLink.Handshake
