import PinnedLink.Digest.Sha256
import PinnedLink.Host
import PinnedLink.Identity.Basic
import PinnedLink.Pem.Writer
import PinnedLink.Signature.Algorithm
import PinnedLink.Text.Utf8

/-!
# Certificates that vouch for themselves

A fresh identity is a key over the curve P-256 and a certificate for it that is signed with that key.
The certificate names hosts and is valid for as long as dates allow.  Two secrets are needed: the key
and a number for the signature.  Few numbers do not make one, and then there is no identity.
-/

namespace PinnedLink.SelfSigned

/-- A value under a tag. -/
def sequence (parts : List Bytes) : Bytes := Der.encode Der.sequenceTag parts.flatten

/-- The tags that only a whole certificate needs. -/
def utf8Tag : UInt8 := 0x0c
def setTag : UInt8 := 0x31
def utcTimeTag : UInt8 := 0x17
def generalizedTimeTag : UInt8 := 0x18

/-- The name of holder and issuer. -/
def name : Bytes :=
  let entry := sequence [
    Der.encode Der.oidTag [0x55, 0x04, 0x03],
    Der.encode utf8Tag (Text.utf8 "rcgen self signed cert")]
  sequence [Der.encode setTag entry]

/-- From the first to the last date. -/
def validity : Bytes :=
  sequence [
    Der.encode utcTimeTag (Text.utf8 "750101000000Z"),
    Der.encode generalizedTimeTag (Text.utf8 "40960101000000Z")]

/-- A host as a certificate names it: an address by its bytes, anything else as text. -/
def hostName (host : String) : Bytes :=
  match Host.parseAddress? host.toList with
  | some (.v4 i) => Der.encode (Der.contextPrimitiveTag 7) ([i.a, i.b, i.c, i.d].map UInt8.ofNat)
  | some (.v6 groups) =>
    Der.encode (Der.contextPrimitiveTag 7) (groups.flatMap fun g => BigEndian.writeUInt16 g)
  | _ => Der.encode (Der.contextPrimitiveTag 2) (Text.utf8 host)

/-- The extension that names hosts; there is none without hosts. -/
def hostExtension (hosts : List String) : Bytes :=
  if hosts.isEmpty then []
  else
    let value := sequence (hosts.map hostName)
    let extension := sequence [
      Der.encode Der.oidTag [0x55, 0x1d, 0x11],
      Der.encode Der.octetStringTag value]
    Der.encode (Der.contextTag 3) (sequence [extension])

/-- The serial number, which is taken from the public key. -/
def serial (publicKey : Bytes) : Bytes :=
  Der.encodeNatural (BigEndian.readNat ((Digest.Sha256.digest publicKey).take 20) % (1 <<< 159))

/-- The algorithm of the signature. -/
def algorithm : Signature.Algorithm := .ecdsa .p256 .sha256

/-- What is signed. -/
def signedPart (publicKey : Bytes) (hosts : List String) : Bytes :=
  sequence [
    Der.encode (Der.contextTag 0) (Der.encodeNatural 2),
    serial publicKey,
    Der.encode Der.sequenceTag algorithm.id,
    name,
    validity,
    name,
    sequence [Der.encode Der.sequenceTag (Signature.KeyKind.id .p256), Der.encodeBits publicKey],
    hostExtension hosts]

/-- A certificate. -/
def certificate? (secret once : Nat) (publicKey : Bytes) (hosts : List String) : Option Bytes :=
  let signed := signedPart publicKey hosts
  (Crypto.Ecdsa.sign? Crypto.p256 secret once (Digest.Sha256.digest signed)).map fun signature =>
    sequence [signed, Der.encode Der.sequenceTag algorithm.id,
      Der.encodeBits (Crypto.Ecdsa.writeSignature signature)]

/-- A wrapped private key. -/
def wrappedKey (secret publicKey : Bytes) : Bytes :=
  let key := sequence [
    Der.encodeNatural 1,
    Der.encode Der.octetStringTag secret,
    Der.encode (Der.contextTag 1) (Der.encodeBits publicKey)]
  sequence [
    Der.encodeNatural 0,
    Der.encode Der.sequenceTag (Signature.KeyKind.id .p256),
    Der.encode Der.octetStringTag key]

/-- A fresh identity. -/
structure Fresh where
  certificate : Bytes
  key : Bytes
deriving DecidableEq, Repr

/-- Makes an identity of two secrets. -/
def make? (secret once : Bytes) (hosts : List String) : Option Fresh := do
  let publicKey ← Crypto.Ecdsa.publicKey? Crypto.p256 secret
  let number := BigEndian.readNat once % Crypto.p256.order
  let certificate ← certificate? (BigEndian.readNat secret) number publicKey hosts
  return { certificate, key := wrappedKey secret publicKey }

/-- The identity as PEM buffers. -/
def Fresh.pem (f : Fresh) : IdentityPem :=
  { cert := Text.utf8 (Pem.write .certificate f.certificate)
    key := Text.utf8 (Pem.write .privateKey f.key) }

end PinnedLink.SelfSigned
