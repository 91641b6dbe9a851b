import PinnedLink.Crypto.Ecdsa
import PinnedLink.Crypto.Ed25519
import PinnedLink.Crypto.Rsa

/-!
# Signature algorithms

An algorithm fixes the kind of public key and the digest.  Kinds of keys and algorithms have
identifiers, the content of the sequences that name them in certificates.
-/

namespace PinnedLink.Signature

/-- A kind of public key. -/
inductive KeyKind where
  | p256
  | p384
  | ed25519
  | rsa
deriving DecidableEq, Repr

namespace KeyKind

/-- The identifier of keys over curves. -/
def curveKeyId : Bytes := Der.encode Der.oidTag [0x2a, 0x86, 0x48, 0xce, 0x3d, 0x02, 0x01]

/-- The identifier of the curve of a kind of key, if it is over one of several. -/
def curveId? : KeyKind → Option Bytes
  | .p256 => some (Der.encode Der.oidTag [0x2a, 0x86, 0x48, 0xce, 0x3d, 0x03, 0x01, 0x07])
  | .p384 => some (Der.encode Der.oidTag [0x2b, 0x81, 0x04, 0x00, 0x22])
  | .ed25519 | .rsa => none

/-- The identifier of a kind of key. -/
def id : KeyKind → Bytes
  | .p256 => curveKeyId ++ (curveId? .p256).getD []
  | .p384 => curveKeyId ++ (curveId? .p384).getD []
  | .ed25519 => Der.encode Der.oidTag [0x2b, 0x65, 0x70]
  | .rsa =>
    Der.encode Der.oidTag [0x2a, 0x86, 0x48, 0x86, 0xf7, 0x0d, 0x01, 0x01, 0x01] ++ [0x05, 0x00]

end KeyKind

/-- A signature algorithm. -/
inductive Algorithm where
  | ecdsa (curve : KeyKind) (hash : Crypto.Hash)
  | ed25519
  | rsaPadded (hash : Crypto.Hash)
  | rsaSalted (hash : Crypto.Hash)
deriving DecidableEq, Repr

namespace Algorithm

/-- The kind of key that an algorithm goes with. -/
def keyKind : Algorithm → KeyKind
  | .ecdsa curve _ => curve
  | .ed25519 => .ed25519
  | .rsaPadded _ | .rsaSalted _ => .rsa

/-- The identifier of the salted form with a digest, which is spelled out. -/
def saltedId (hash : Crypto.Hash) : Bytes :=
  let digest := Der.encode Der.sequenceTag
    (Der.encode Der.oidTag [0x60, 0x86, 0x48, 0x01, 0x65, 0x03, 0x04, 0x02, hash.idByte] ++
      [0x05, 0x00])
  let stretch := Der.encode Der.sequenceTag
    (Der.encode Der.oidTag [0x2a, 0x86, 0x48, 0x86, 0xf7, 0x0d, 0x01, 0x01, 0x08] ++ digest)
  Der.encode Der.oidTag [0x2a, 0x86, 0x48, 0x86, 0xf7, 0x0d, 0x01, 0x01, 0x0a] ++
    Der.encode Der.sequenceTag
      (Der.encode (Der.contextTag 0) digest ++ Der.encode (Der.contextTag 1) stretch ++
        Der.encode (Der.contextTag 2) (Der.encodeNatural hash.size))

/-- The identifier of an algorithm. -/
def id : Algorithm → Bytes
  | .ecdsa _ hash =>
    Der.encode Der.oidTag [0x2a, 0x86, 0x48, 0xce, 0x3d, 0x04, 0x03, hash.idByte + 1]
  | .ed25519 => KeyKind.id .ed25519
  | .rsaPadded hash =>
    Der.encode Der.oidTag [0x2a, 0x86, 0x48, 0x86, 0xf7, 0x0d, 0x01, 0x01, hash.idByte + 10] ++
      [0x05, 0x00]
  | .rsaSalted hash => saltedId hash

/-- A signature of a message belongs to a public key. -/
def verify (a : Algorithm) (key message signature : Bytes) : Bool :=
  match a with
  | .ecdsa .p256 hash => Crypto.Ecdsa.verify Crypto.p256 key (hash.digest message) signature
  | .ecdsa .p384 hash => Crypto.Ecdsa.verify Crypto.p384 key (hash.digest message) signature
  | .ecdsa _ _ => false
  | .ed25519 => Crypto.Ed25519.verify key message signature
  | .rsaPadded hash => Crypto.Rsa.verifyPadded hash key message signature
  | .rsaSalted hash => Crypto.Rsa.verifySalted hash key message signature

end Algorithm

end PinnedLink.Signature
