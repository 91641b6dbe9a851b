import PinnedLink.Frame.Header
import PinnedLink.Host
import PinnedLink.Pem.Error
import PinnedLink.Stream.IoError
import PinnedLink.Text.Quoted
import PinnedLink.X509.Error

/-!
# Failures of loading and of transport

Why an identity cannot be installed, and why a secure transport cannot be brought up or used.  Each
failure keeps its cause; the texts are all written here.
-/

namespace PinnedLink

/-- Why a certificate buffer is refused. -/
inductive CertificateCause where
  | pem (e : Pem.Error)
  | noCertificate
  | unreadable (e : X509.ParseError)
  | note (text : String)
deriving DecidableEq, Repr

/-- The text of a refused certificate buffer. -/
def CertificateCause.message : CertificateCause → String
  | .pem e => e.message
  | .noCertificate => "no certificate in PEM buffer"
  | .unreadable e => e.message
  | .note text => text

/-- Why a key buffer is refused. -/
inductive KeyCause where
  | pem (e : Pem.Error)
  | unsupported
  | note (text : String)
deriving DecidableEq, Repr

/-- The text of a refused key buffer. -/
def KeyCause.message : KeyCause → String
  | .pem e => e.message
  | .unsupported => "unexpected error: failed to parse private key as RSA, ECDSA, or EdDSA"
  | .note text => text

/-- Identity material that could not be installed. -/
inductive LoadError where
  | badCertificate (cause : CertificateCause)
  | badKey (cause : KeyCause)
  | keyMismatch
deriving DecidableEq, Repr

/-- The text of a load failure. -/
def LoadError.message : LoadError → String
  | .badCertificate cause => "bad certificate: " ++ cause.message
  | .badKey cause => "bad private key: " ++ cause.message
  | .keyMismatch => "private key does not match certificate"

/-- Why no crypto context or session configuration could be made. -/
inductive ContextCause where
  | noIdentity
  /-- The host is none that a server can be asked for. -/
  | invalidServerName (host : String)
  | note (text : String)
deriving DecidableEq, Repr

/-- The text of a context failure. -/
def ContextCause.message : ContextCause → String
  | .noIdentity => "no identity loaded into context"
  | .invalidServerName host => "invalid server name " ++ Text.quoted host ++ ": " ++ Host.refusal
  | .note text => text

/-- Why a handshake over a stream failed. -/
inductive HandshakeCause where
  | session (e : Session.Error)
  | io (e : IoError)
  /-- The stream would not stop waiting. -/
  | stillBlocking (e : IoError)
  | note (text : String)
deriving DecidableEq, Repr

/-- The text of a handshake failure. -/
def HandshakeCause.message : HandshakeCause → String
  | .session e => e.message
  | .io e => e.message
  | .stillBlocking e => "switch to non-blocking: " ++ e.message
  | .note text => text

/-- Why a secure transport could not be established or used.  Every one of them is fatal to the
connection. -/
inductive TransportError where
  | contextCreationFailed (cause : ContextCause)
  | identity (e : LoadError)
  | connectFailed (addr : String) (e : IoError)
  | bindFailed (addr : String) (e : IoError)
  | acceptFailed (e : IoError)
  | handshakeFailed (cause : HandshakeCause)
  | sendFailed (e : IoError)
  | recvFailed (e : IoError)
  | oversizedMessage (len max : Nat)
  | malformedHeader (e : Frame.Error)
  | notEstablished
  | alreadyInitialized
deriving DecidableEq, Repr

namespace TransportError

/-- The text of a transport failure. -/
def message : TransportError → String
  | contextCreationFailed cause => "failed to create crypto context: " ++ cause.message
  | identity e => "identity load failed: " ++ e.message
  | connectFailed addr e => "connect to " ++ addr ++ " failed: " ++ e.message
  | bindFailed addr e => "bind to " ++ addr ++ " failed: " ++ e.message
  | acceptFailed e => "accept failed: " ++ e.message
  | handshakeFailed cause => "handshake failed: " ++ cause.message
  | sendFailed e => "send failed: " ++ e.message
  | recvFailed e => "receive failed: " ++ e.message
  | oversizedMessage len max => s!"message body of {len} bytes exceeds limit of {max}"
  | malformedHeader e => "malformed frame header: " ++ e.message
  | notEstablished => "transport not established"
  | alreadyInitialized => "transport already initialized"

/-- The text of the failure behind a transport failure, if there is one. -/
def sourceMessage : TransportError → Option String
  | identity e => some e.message
  | connectFailed _ e | bindFailed _ e | acceptFailed e | sendFailed e | recvFailed e =>
    some e.message
  | malformedHeader e => some e.message
  | _ => none

end TransportError

end PinnedLink
