import PinnedLink.Context

/-!
# What goes into a handshake and what comes out

An end opens a handshake as a client that asks for a server, or as a server.  In the end both know the
protocol version and the cipher suite, and each knows the certificate that the other one presented.
-/

namespace PinnedLink

/-- What one end brings to its handshake. -/
inductive Opening where
  /-- A client asks for a server by its name. -/
  | client (name : Host) (config : ClientConfig)
  | server (config : ServerConfig)

/-- The side of the session that an opening makes. -/
def Opening.side : Opening → Session.Side
  | .client _ _ => .client
  | .server _ => .server

/-- The cipher suite of a session. -/
inductive CipherSuite where
  | aes256
  | ecdsaAes256
  | rsaAes256
deriving DecidableEq, Repr

namespace CipherSuite

/-- The name of a cipher suite. -/
def name : CipherSuite → String
  | .aes256 => "TLS13_AES_256_GCM_SHA384"
  | .ecdsaAes256 => "TLS_ECDHE_ECDSA_WITH_AES_256_GCM_SHA384"
  | .rsaAes256 => "TLS_ECDHE_RSA_WITH_AES_256_GCM_SHA384"

/-- The suite of a version, which in the older one goes by the kind of the server's key. -/
def choose (version : Session.Version) (serverKey : Signature.KeyKind) : CipherSuite :=
  match version, serverKey with
  | .tls13, _ => .aes256
  | .tls12, .rsa => .rsaAes256
  | .tls12, _ => .ecdsaAes256

end CipherSuite

/-- What one end of a session knows about it. -/
structure PeerInfo where
  version : Session.Version
  cipher : CipherSuite
  /-- The other end's certificate. -/
  leaf : Bytes
deriving DecidableEq, Repr

namespace PeerInfo

/-- The name in the other end's certificate, if that can be read. -/
def subject (p : PeerInfo) : Option String :=
  (X509.Certificate.ofDer p.leaf).toOption.map fun c => c.subject.text

/-- The name of who issued the other end's certificate, if that can be read. -/
def issuer (p : PeerInfo) : Option String :=
  (X509.Certificate.ofDer p.leaf).toOption.map fun c => c.issuer.text

/-- The fingerprint of the other end's certificate. -/
def fingerprint (p : PeerInfo) : String := PinnedLink.fingerprint p.leaf

end PeerInfo

end PinnedLink
