import PinnedLink.Session.Error
import PinnedLink.Session.Version
import PinnedLink.Signature.Algorithm
import PinnedLink.X509.Leaf

/-!
# Signature schemes

The schemes that a party accepts in a handshake, in its order of preference.  In the older protocol
version a scheme over curves goes with either curve; the newer one fixes the curve, and has no
padded RSA.  `verify` is the judgement on a handshake signature.
-/

namespace PinnedLink.Signature

/-- A scheme that is accepted. -/
inductive Scheme where
  | ecdsaP384Sha384
  | ecdsaP256Sha256
  | ed25519
  | rsaSalted (hash : Crypto.Hash)
  | rsaPadded (hash : Crypto.Hash)
deriving DecidableEq, Repr

namespace Scheme

/-- The schemes that are accepted, the preferred first. -/
def all : List Scheme := [
  .ecdsaP384Sha384, .ecdsaP256Sha256, .ed25519,
  .rsaSalted .sha512, .rsaSalted .sha384, .rsaSalted .sha256,
  .rsaPadded .sha512, .rsaPadded .sha384, .rsaPadded .sha256]

/-- The name of a scheme. -/
def name : Scheme → String
  | .ecdsaP384Sha384 => "ECDSA_NISTP384_SHA384"
  | .ecdsaP256Sha256 => "ECDSA_NISTP256_SHA256"
  | .ed25519 => "ED25519"
  | .rsaSalted .sha256 => "RSA_PSS_SHA256"
  | .rsaSalted .sha384 => "RSA_PSS_SHA384"
  | .rsaSalted .sha512 => "RSA_PSS_SHA512"
  | .rsaPadded .sha256 => "RSA_PKCS1_SHA256"
  | .rsaPadded .sha384 => "RSA_PKCS1_SHA384"
  | .rsaPadded .sha512 => "RSA_PKCS1_SHA512"

/-- The code of a scheme. -/
def code : Scheme → UInt16
  | .ecdsaP384Sha384 => 0x0503
  | .ecdsaP256Sha256 => 0x0403
  | .ed25519 => 0x0807
  | .rsaSalted .sha256 => 0x0804
  | .rsaSalted .sha384 => 0x0805
  | .rsaSalted .sha512 => 0x0806
  | .rsaPadded .sha256 => 0x0401
  | .rsaPadded .sha384 => 0x0501
  | .rsaPadded .sha512 => 0x0601

/-- The scheme of a code. -/
def ofCode? (code : UInt16) : Option Scheme := all.find? fun s => s.code == code

/-- The algorithms that a scheme may mean, the first where only one may be meant. -/
def algorithms : Scheme → List Algorithm
  | .ecdsaP384Sha384 => [.ecdsa .p384 .sha384, .ecdsa .p256 .sha384]
  | .ecdsaP256Sha256 => [.ecdsa .p256 .sha256, .ecdsa .p384 .sha256]
  | .ed25519 => [.ed25519]
  | .rsaSalted hash => [.rsaSalted hash]
  | .rsaPadded hash => [.rsaPadded hash]

/-- The algorithms of a scheme in a protocol version. -/
def algorithmsIn : Scheme → Session.Version → List Algorithm
  | .rsaPadded _, .tls13 => []
  | s, .tls13 => s.algorithms.take 1
  | s, .tls12 => s.algorithms

end Scheme

/-- What is wrong with a certificate, as a failure of a session. -/
def leafFault : X509.LeafError → Session.CertificateFault
  | .badEncoding => .badEncoding
  | .unsupportedCertVersion => .unsupportedCertVersion
  | .signatureAlgorithmMismatch => .signatureAlgorithmMismatch
  | .unsupportedCriticalExtension => .unsupportedCriticalExtension
  | .extensionValueInvalid => .extensionValueInvalid

/-- Judges a signature under the first of some algorithms that goes with the kind of key. -/
def verifyAny (keyId key message signature : Bytes) :
    List Algorithm → Option Session.CertificateFault → Option Session.CertificateFault
  | [], fault => fault
  | a :: rest, _ =>
    if a.keyKind.id = keyId then
      if a.verify key message signature then none else some .badSignature
    else
      verifyAny keyId key message signature rest
        (some (.unsupportedSignatureAlgorithm a.id keyId))

/-- Judges a handshake signature of the holder of a certificate. -/
def verify (version : Session.Version) (scheme : UInt16) (der message signature : Bytes) :
    Except Session.Error Unit :=
  match (Scheme.ofCode? scheme).map fun s => s.algorithmsIn version with
  | none | some [] => .error (.peerMisbehaved .signedHandshakeWithUnadvertisedSigScheme)
  | some algorithms =>
    match X509.Leaf.ofDer der with
    | .error e => .error (.invalidCertificate (leafFault e))
    | .ok leaf =>
      match leaf.publicKey? with
      | none => .error (.invalidCertificate .badEncoding)
      | some (keyId, key) =>
        match verifyAny keyId key message signature algorithms none with
        | none => .ok ()
        | some fault => .error (.invalidCertificate fault)

end PinnedLink.Signature
