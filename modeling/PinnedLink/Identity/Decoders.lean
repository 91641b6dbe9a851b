import PinnedLink.Identity.Key
import PinnedLink.X509.Certificate
import PinnedLink.X509.Leaf

/-!
# Decoding identity material

Everything that identity material has to go through before it is believed: the PEM buffers are taken
apart, certificates are looked into, and keys are loaded and compared.  What is done with the results
does not depend on how the decoders come to them, so `Decoders` holds them, and `Decoders.standard`
are those that are used.
-/

namespace PinnedLink

/-- A key belongs to the certificate that a chain begins with. -/
def SigningKey.matchesLeaf (k : SigningKey) (der : Bytes) : Bool :=
  match X509.Leaf.ofDer der with
  | .ok leaf => leaf.publicKeyInfo == k.publicKeyInfo
  | .error _ => false

/-- The decoders of identity material. -/
structure Decoders where
  /-- The certificates in a PEM buffer. -/
  certificates : Bytes → Except Pem.Error (List Bytes)
  /-- The content of a certificate. -/
  certificate : Bytes → Except X509.ParseError X509.Certificate
  /-- The private key in a PEM buffer. -/
  privateKey : Bytes → Except Pem.Error Pem.Section
  /-- The key that can sign, if there is one. -/
  signingKey? : Pem.Section → Option SigningKey
  /-- A key belongs to a certificate. -/
  matchesLeaf : SigningKey → Bytes → Bool

/-- The decoders that are used. -/
def Decoders.standard : Decoders :=
  { certificates := Pem.certificates
    certificate := X509.Certificate.ofDer
    privateKey := Pem.privateKey
    signingKey? := SigningKey.ofSection?
    matchesLeaf := SigningKey.matchesLeaf }

end PinnedLink
