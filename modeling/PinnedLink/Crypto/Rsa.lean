import PinnedLink.Crypto.Modular
import PinnedLink.Der.Value
import PinnedLink.Digest.Sha256
import PinnedLink.Digest.Sha512

/-!
# RSA

Public keys, the two forms of signatures over them, and the checks that a private key passes before
it is used.
-/

namespace PinnedLink.Crypto

/-- The digests that signatures are made of. -/
inductive Hash where
  | sha256
  | sha384
  | sha512
deriving DecidableEq, Repr

namespace Hash

/-- The digest of a message. -/
def digest : Hash → Bytes → Bytes
  | .sha256 => Digest.Sha256.digest
  | .sha384 => Digest.Sha512.digestShort
  | .sha512 => Digest.Sha512.digest

/-- Bytes of a digest. -/
def size : Hash → Nat
  | .sha256 => 32
  | .sha384 => 48
  | .sha512 => 64

/-- The last byte of the identifier of a digest. -/
def idByte : Hash → UInt8
  | .sha256 => 1
  | .sha384 => 2
  | .sha512 => 3

end Hash

namespace Rsa

/-- Bits of a number. -/
def bitLength (n : Nat) : Nat := if n = 0 then 0 else Nat.log2 n + 1

/-- Bytes of a number. -/
def byteLength (n : Nat) : Nat := (bitLength n + 7) / 8

/-- A modulus and an exponent. -/
structure PublicKey where
  modulus : Nat
  exponent : Nat
deriving DecidableEq, Repr

namespace PublicKey

/-- Reads a public key. -/
def read (bytes : Bytes) : Option PublicKey := do
  let content ← Der.expectOnly Der.sequenceTag bytes
  let (modulus, rest) ← Der.readPositive content
  let (exponent, rest) ← Der.readPositive rest
  if rest.isEmpty then some { modulus, exponent } else none

/-- The encoding of a public key. -/
def encode (k : PublicKey) : Bytes :=
  Der.encode Der.sequenceTag (Der.encodeNatural k.modulus ++ Der.encodeNatural k.exponent)

/-- A modulus of whole bytes between two sizes and an odd exponent from a bound up to 33 bits. -/
def isUsable (k : PublicKey) (minBits maxBits minExponent : Nat) : Bool :=
  k.modulus % 2 == 1 && minBits ≤ 8 * byteLength k.modulus && bitLength k.modulus ≤ maxBits &&
    k.exponent % 2 == 1 && minExponent ≤ k.exponent && k.exponent < 1 <<< 33

/-- The encoded message that a signature holds. -/
def open? (k : PublicKey) (signature : Bytes) : Option Bytes :=
  let s := BigEndian.readNat signature
  if k.isUsable 2048 8192 3 ∧ signature.length = byteLength k.modulus ∧ 0 < s ∧ s < k.modulus then
    some (BigEndian.writeNat (byteLength k.modulus) (powMod k.modulus s k.exponent))
  else none

end PublicKey

/-- The digest of a message with the identifier of its algorithm. -/
def digestInfo (hash : Hash) (message : Bytes) : Bytes :=
  let algorithm := Der.encode Der.oidTag [0x60, 0x86, 0x48, 0x01, 0x65, 0x03, 0x04, 0x02, hash.idByte]
  Der.encode Der.sequenceTag
    (Der.encode Der.sequenceTag (algorithm ++ [0x05, 0x00]) ++
      Der.encode Der.octetStringTag (hash.digest message))

/-- A signature that is padded with ones. -/
def verifyPadded (hash : Hash) (key message signature : Bytes) : Bool :=
  match (PublicKey.read key).bind fun k => k.open? signature with
  | some encoded =>
    let info := digestInfo hash message
    let fill := encoded.length - info.length - 3
    encoded == [0x00, 0x01] ++ List.replicate fill 0xff ++ 0x00 :: info
  | none => false

/-- Bytes that a seed stretches to. -/
def stretch (hash : Hash) (seed : Bytes) (length : Nat) : Bytes :=
  let blocks := (length + hash.size - 1) / hash.size
  ((List.range blocks).flatMap fun i => hash.digest (seed ++ BigEndian.writeNat 4 i)).take length

/-- An encoded message holds the salted digest of a message; `bits` is one less than the modulus
has. -/
def isSalted (hash : Hash) (bits : Nat) (message encoded : Bytes) : Bool :=
  let size := hash.size
  let length := (bits + 7) / 8
  let spare := encoded.take (encoded.length - length)
  let encoded := encoded.drop (encoded.length - length)
  let maskedLength := length - size - 1
  let masked := encoded.take maskedLength
  let digest := (encoded.drop maskedLength).take size
  let topMask : UInt8 := UInt8.ofNat (1 <<< (8 - (8 * length - bits)) - 1)
  let block := (masked.zip (stretch hash digest maskedLength)).map fun (a, b) => a ^^^ b
  let block := match block with
    | [] => []
    | b :: rest => (b &&& topMask) :: rest
  let salt := block.drop (maskedLength - size)
  2 * size + 2 ≤ length && spare.all (· == 0) && encoded.getLast? == some 0xbc &&
    (masked.headD 0) &&& ~~~topMask == 0 &&
    block.take (maskedLength - size) == List.replicate (maskedLength - size - 1) 0 ++ [0x01] &&
    digest == hash.digest (List.replicate 8 0 ++ hash.digest message ++ salt)

/-- A signature over a salted digest. -/
def verifySalted (hash : Hash) (key message signature : Bytes) : Bool :=
  match PublicKey.read key with
  | some k =>
    match k.open? signature with
    | some encoded => isSalted hash (bitLength k.modulus - 1) message encoded
    | none => false
  | none => false

/-! ## Private keys -/

/-- The numbers of a private key. -/
structure PrivateKey where
  publicKey : PublicKey
  secret : Nat
  prime1 : Nat
  prime2 : Nat
  exponent1 : Nat
  exponent2 : Nat
  coefficient : Nat

namespace PrivateKey

/-- Reads the numbers of a private key. -/
def read (bytes : Bytes) : Option PrivateKey := do
  let content ← Der.expectOnly Der.sequenceTag bytes
  let (version, rest) ← Der.readNatural content
  let (modulus, rest) ← Der.readNatural rest
  let (exponent, rest) ← Der.readNatural rest
  let (secret, rest) ← Der.readNatural rest
  let (prime1, rest) ← Der.readNatural rest
  let (prime2, rest) ← Der.readNatural rest
  let (exponent1, rest) ← Der.readNatural rest
  let (exponent2, rest) ← Der.readNatural rest
  let (coefficient, rest) ← Der.readNatural rest
  if version = 0 ∧ rest.isEmpty then
    some ⟨⟨modulus, exponent⟩, secret, prime1, prime2, exponent1, exponent2, coefficient⟩
  else none

/-- A factor of half the bits of the modulus, a whole number of 64-byte blocks, and an odd exponent
below it. -/
def isFactor (halfBits prime exponent : Nat) : Bool :=
  prime % 2 == 1 && bitLength prime == halfBits && halfBits % 512 == 0 && exponent % 2 == 1 &&
    exponent < prime

/-- The numbers fit together. -/
def isConsistent (k : PrivateKey) : Bool :=
  let n := k.publicKey.modulus
  let halfBits := (bitLength n + 1) / 2
  k.publicKey.isUsable 2048 4096 65537 && isFactor halfBits k.prime1 k.exponent1 &&
    isFactor halfBits k.prime2 k.exponent2 && k.prime1 * k.prime2 % n == 0 &&
    k.secret % 2 == 1 && halfBits < bitLength k.secret && k.secret < n &&
    k.coefficient < k.prime1 && k.coefficient * k.prime2 % k.prime1 == 1

end PrivateKey

end Rsa

end PinnedLink.Crypto
