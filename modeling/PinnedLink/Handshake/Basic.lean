import PinnedLink.Handshake.Peer

/-!
# Handshakes

A client and a server agree on the highest version that both allow.  Then the server presents its
certificates and the client judges them, and after that the other way round.  Each end judges the
holder's certificate alone, and then the signature that was made with the holder's key.  The first end
that has a reason to stop fails with it and tells the other end, which fails with that alert.

A signature is taken for what it is to show: it passes under a certificate if the key belongs to that
certificate, and otherwise it is bad.

`Handshake.agree` says what becomes of both ends once they have exchanged everything.
-/

namespace PinnedLink

namespace Session.Version

/-- The versions, the preferred one first. -/
def preferred : List Version := [.tls13, .tls12]

end Session.Version

namespace VersionPolicy

/-- The highest version that two policies allow. -/
def common? (a b : VersionPolicy) : Option Session.Version :=
  Session.Version.preferred.find? fun v => a.allows v && b.allows v

theorem common?_comm (a b : VersionPolicy) : a.common? b = b.common? a := by
  cases a <;> cases b <;> rfl

end VersionPolicy

namespace Handshake

open Session (Version)

/-- What becomes of one end. -/
inductive Verdict where
  | established (peer : PeerInfo)
  | failed (e : Session.Error)
deriving DecidableEq, Repr

/-- The end is established. -/
def Verdict.isEstablished : Verdict → Bool
  | .established _ => true
  | .failed _ => false

/-- What becomes of both ends. -/
structure Outcome where
  client : Verdict
  server : Verdict
deriving DecidableEq, Repr

/-- Longest message of a handshake. -/
def messageLimit : Nat := 0xffff

/-- The length of the fields around the certificates in a message.  In the newer version there is an
empty context among them. -/
def listOverhead : Version → Nat
  | .tls12 => 3
  | .tls13 => 4

/-- The length of the fields around one certificate.  In the newer version there are empty extensions
among them. -/
def entryOverhead : Version → Nat
  | .tls12 => 3
  | .tls13 => 5

/-- The length of the message that presents certificates. -/
def presentationLen (version : Version) (chain : List Bytes) : Nat :=
  listOverhead version + chain.foldr (fun der len => entryOverhead version + der.length + len) 0

/-- Judges the signature that the holder of a key makes. -/
def judgeSignature (peer : Identity) : Except Session.Error Unit :=
  if peer.key.matchesLeaf peer.leaf then .ok () else .error (.invalidCertificate .badSignature)

/-- Judges what the other end presents, with a verdict on the holder's certificate. -/
def judgeBy (verdict : Except Session.Error Unit) (version : Version) (peer : Identity) :
    Except Session.Error Unit :=
  if messageLimit < presentationLen version peer.chain then
    .error (.invalidMessage .handshakePayloadTooLarge)
  else
    match verdict with
    | .error e => .error e
    | .ok () => judgeSignature peer

/-- Judges what the other end presents. -/
def judge (version : Version) (verifier : Verifier) (peer : Identity) :
    Except Session.Error Unit :=
  judgeBy (verifier.check peer.leaf) version peer

/-- The alert by which an end tells the other one that it stops. -/
def alertFor : Session.Error → Session.Alert
  | .invalidMessage _ => .decodeError
  | .peerIncompatible _ => .protocolVersion
  | .invalidCertificate .applicationVerificationFailure => .accessDenied
  | .invalidCertificate .badSignature => .decryptError
  | _ => .handshakeFailure

/-- The client stops. -/
def clientStops (e : Session.Error) : Outcome :=
  { client := .failed e, server := .failed (.alertReceived (alertFor e)) }

/-- The server stops. -/
def serverStops (e : Session.Error) : Outcome :=
  { client := .failed (.alertReceived (alertFor e)), server := .failed e }

/-- Both ends finish. -/
def bothFinish (version : Version) (client server : Identity) : Outcome :=
  let cipher := CipherSuite.choose version server.key.kind
  { client := .established { version, cipher, leaf := server.leaf }
    server := .established { version, cipher, leaf := client.leaf } }

/-- What becomes of a client and a server. -/
def agree (client : ClientConfig) (server : ServerConfig) : Outcome :=
  match client.versions.common? server.versions with
  | none => serverStops (.peerIncompatible .tls12NotOfferedOrEnabled)
  | some version =>
    match judge version client.verifier server.identity with
    | .error e => clientStops e
    | .ok () =>
      match judge version server.verifier client.identity with
      | .error e => serverStops e
      | .ok () => bothFinish version client.identity server.identity

end Handshake

end PinnedLink
