import PinnedLink.Config.Basic
import PinnedLink.Identity.Basic
import PinnedLink.Verifier

/-!
# Crypto contexts

A context holds what one transport brings to its handshakes: the versions it agrees to, the identity
it presents, and the certificates it trusts.  Loading either replaces or extends what is there, or
leaves the context as it is and says why.  Without trusted certificates a context trusts the holder
of its own.
-/

namespace PinnedLink

/-- A loaded identity: a chain, the holder's certificate first, and the key that goes with it. -/
structure Identity where
  leaf : Bytes
  issuers : List Bytes
  key : SigningKey
deriving DecidableEq, Repr

/-- All certificates of an identity. -/
def Identity.chain (i : Identity) : List Bytes := i.leaf :: i.issuers

/-- Reads a chain and its key, and compares them. -/
def Decoders.readIdentity (d : Decoders) (cert key : Bytes) : Except LoadError Identity :=
  match d.readChain cert with
  | .error e => .error (.badCertificate e)
  | .ok [] => .error (.badCertificate .noCertificate)
  | .ok (leaf :: issuers) =>
    match d.privateKey key with
    | .error e => .error (.badKey (.pem e))
    | .ok s =>
      match d.signingKey? s with
      | none => .error (.badKey .unsupported)
      | some k => if d.matchesLeaf k leaf then .ok ⟨leaf, issuers, k⟩ else .error .keyMismatch

/-- What a transport brings to its handshakes. -/
structure CryptoContext where
  versions : VersionPolicy
  identity : Option Identity
  /-- Certificates that were added to be trusted. -/
  added : List Bytes
deriving DecidableEq, Repr

/-- How a server opens sessions. -/
structure ServerConfig where
  versions : VersionPolicy
  identity : Identity
  verifier : Verifier
  /-- Tickets sent to a client. -/
  tickets : Nat

/-- How a client opens sessions. -/
structure ClientConfig where
  versions : VersionPolicy
  identity : Identity
  verifier : Verifier
  /-- The name of the server is sent. -/
  sendsName : Bool

namespace CryptoContext

/-- A context without identity and trust. -/
def fresh (versions : VersionPolicy) : CryptoContext :=
  { versions, identity := none, added := [] }

/-- Installs an identity in place of the one there. -/
def installIdentity (c : CryptoContext) (i : Identity) : CryptoContext := { c with identity := some i }

/-- Loads an identity.  The context is only touched once every check has passed. -/
def loadIdentityWith (d : Decoders) (c : CryptoContext) (cert key : Bytes) :
    Except LoadError Unit × CryptoContext :=
  match d.readIdentity cert key with
  | .error e => (.error e, c)
  | .ok i => (.ok (), c.installIdentity i)

/-- Trusts all certificates of a buffer. -/
def trustPeerPemWith (d : Decoders) (c : CryptoContext) (pem : Bytes) :
    Except LoadError Unit × CryptoContext :=
  match d.readChain pem with
  | .error e => (.error (.badCertificate e), c)
  | .ok certs => (.ok (), { c with added := c.added ++ certs })

/-- The context that a call leaves, if the call succeeds. -/
def ofCall : Except LoadError Unit × CryptoContext → Except LoadError CryptoContext
  | (.ok (), c) => .ok c
  | (.error e, _) => .error e

@[inherit_doc loadIdentityWith]
def loadIdentity (c : CryptoContext) (cert key : Bytes) : Except LoadError CryptoContext :=
  ofCall (c.loadIdentityWith .standard cert key)

@[inherit_doc trustPeerPemWith]
def trustPeerPem (c : CryptoContext) (pem : Bytes) : Except LoadError CryptoContext :=
  ofCall (c.trustPeerPemWith .standard pem)

/-- A context with an identity and, if there is such a buffer, with certificates to trust. -/
def assemble (versions : VersionPolicy) (identity : IdentityPem) (trust : Option Bytes) :
    Except LoadError CryptoContext := do
  let c ← (fresh versions).loadIdentity identity.cert identity.key
  match trust with
  | none => .ok c
  | some pem => c.trustPeerPem pem

/-- The certificates that a peer may present. -/
def trusted (c : CryptoContext) : List Bytes :=
  if c.added.isEmpty then (c.identity.map Identity.leaf).toList else c.added

/-- The judge of peers. -/
def verifier (c : CryptoContext) : Verifier := { trusted := c.trusted }

/-- The identity, which sessions need. -/
def requireIdentity (c : CryptoContext) : Except TransportError Identity :=
  match c.identity with
  | some i => .ok i
  | none => .error (.contextCreationFailed .noIdentity)

/-- How a server with this context opens sessions. -/
def serverConfig (c : CryptoContext) : Except TransportError ServerConfig :=
  c.requireIdentity.map fun i =>
    { versions := c.versions, identity := i, verifier := c.verifier, tickets := 0 }

/-- How a client with this context opens sessions. -/
def clientConfig (c : CryptoContext) : Except TransportError ClientConfig :=
  c.requireIdentity.map fun i =>
    { versions := c.versions, identity := i, verifier := c.verifier, sendsName := true }

end CryptoContext

end PinnedLink
