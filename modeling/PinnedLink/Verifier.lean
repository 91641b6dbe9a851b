import PinnedLink.Host
import PinnedLink.Signature.Scheme

/-!
# Accepting peers by their certificates

A peer is accepted if the certificate it presents is one of the trusted ones, byte for byte.  Names,
dates and issuers do not matter, and neither does the side the peer is on.
-/

namespace PinnedLink

/-- The judge of peers: the certificates it trusts. -/
structure Verifier where
  trusted : List Bytes
deriving DecidableEq, Repr

namespace Verifier

/-- A certificate is trusted. -/
def trusts (v : Verifier) (der : Bytes) : Bool := v.trusted.contains der

/-- Judges the certificate that a peer presents. -/
def check (v : Verifier) (der : Bytes) : Except Session.Error Unit :=
  if v.trusts der then .ok () else .error (.invalidCertificate .applicationVerificationFailure)

/-- A certificate is accepted if and only if it is one of the trusted ones. -/
theorem check_eq_ok_iff (v : Verifier) (der : Bytes) : v.check der = .ok () ↔ der ∈ v.trusted := by
  unfold check trusts
  by_cases h : der ∈ v.trusted
  · simp [h]
  · simp [h]

/-- What a peer presents. -/
structure Presentation where
  /-- The peer's own certificate. -/
  leaf : Bytes
  /-- The certificates behind it. -/
  issuers : List Bytes
  /-- When it is judged, in seconds. -/
  now : Nat
deriving DecidableEq, Repr

/-- Judges a server that was asked for by a name and that may have stapled its status. -/
def checkServer (v : Verifier) (p : Presentation) (_name : Host) (_status : Bytes) :
    Except Session.Error Unit :=
  v.check p.leaf

/-- Judges a client. -/
def checkClient (v : Verifier) (p : Presentation) : Except Session.Error Unit := v.check p.leaf

/-- Judges a handshake signature. -/
def checkSignature (_v : Verifier) (version : Session.Version) (scheme : UInt16)
    (der message signature : Bytes) : Except Session.Error Unit :=
  Signature.verify version scheme der message signature

/-- A server asks its peers for a certificate. -/
def offersClientAuth (_v : Verifier) : Bool := true

/-- A server insists on a certificate. -/
def clientAuthMandatory (_v : Verifier) : Bool := true

/-- Names of issuers that a server hints at. -/
def hints (_v : Verifier) : List Bytes := []

/-- The schemes that are accepted in signatures. -/
def schemes (_v : Verifier) : List Signature.Scheme := Signature.Scheme.all

end Verifier

end PinnedLink
