import PinnedLink.Digest.Sha256
import PinnedLink.Error
import PinnedLink.Identity.Decoders

/-!
# Identity material

A party identifies itself by a chain of certificates and the private key of the first of them, both
as PEM buffers.  The key is never shown.  `readChain` reads all certificates of a buffer and looks
into the first.
-/

namespace PinnedLink

/-- The PEM buffers of a chain and of its private key. -/
structure IdentityPem where
  cert : Bytes
  key : Bytes
deriving DecidableEq

namespace IdentityPem

/-- The identity on one line, without its key. -/
def describe (i : IdentityPem) : String :=
  "IdentityPem \x7b cert_len: " ++ toString i.cert.length ++ ", key: \"<redacted>\" \x7d"

/-- The identity with one field a line, without its key. -/
def describeIndented (i : IdentityPem) : String :=
  "IdentityPem \x7b\n    cert_len: " ++ toString i.cert.length ++
    ",\n    key: \"<redacted>\",\n\x7d"

end IdentityPem

/-- The certificates of a PEM buffer, the holder's own first. -/
def Decoders.readChain (d : Decoders) (pem : Bytes) : Except CertificateCause (List Bytes) :=
  match d.certificates pem with
  | .error e => .error (.pem e)
  | .ok [] => .error .noCertificate
  | .ok (leaf :: rest) =>
    match d.certificate leaf with
    | .ok _ => .ok (leaf :: rest)
    | .error e => .error (.unreadable e)

@[inherit_doc Decoders.readChain]
def readChain (pem : Bytes) : Except CertificateCause (List Bytes) :=
  Decoders.standard.readChain pem

/-- The name of a certificate: the hexadecimal digest of its bytes. -/
def fingerprint (der : Bytes) : String := Hex.encode (Digest.Sha256.digest der)

end PinnedLink
