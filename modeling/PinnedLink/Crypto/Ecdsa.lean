import PinnedLink.Crypto.Curve
import PinnedLink.Der.Value

/-!
# Signatures over curves

A private key is a multiple of the base point, its public key is the point.  A signature is a pair
of numbers that only the holder of the multiple can find for a digest.
-/

namespace PinnedLink.Crypto.Ecdsa

/-- The public key of a private key, both as bytes. -/
def publicKey? (c : Curve) (secret : Bytes) : Option Bytes :=
  let d := BigEndian.readNat secret
  if secret.length = c.width ∧ 0 < d ∧ d < c.order then c.writePoint? (c.mul d c.base) else none

/-- The number that a digest stands for: its leading bits, as many as the order has. -/
def digestNumber (c : Curve) (digest : Bytes) : Nat :=
  BigEndian.readNat (digest.take c.width) % c.order

/-- The two numbers of an encoded signature, each from one up to below the order. -/
def readSignature (c : Curve) (signature : Bytes) : Option (Nat × Nat) := do
  let content ← Der.expectOnly Der.sequenceTag signature
  let (r, rest) ← Der.readPositive content
  let (s, rest) ← Der.readPositive rest
  if rest.isEmpty ∧ r < c.order ∧ s < c.order then some (r, s) else none

/-- The two numbers of a signature of a digest, made with a private key and a number that is used once
and that nobody can guess.  Some numbers do not make one. -/
def sign? (c : Curve) (secret once : Nat) (digest : Bytes) : Option (Nat × Nat) := do
  let (x, _) ← c.coordinates? (c.mul once c.base)
  let r := x % c.order
  let s := invMod c.order once * (digestNumber c digest + r * secret) % c.order
  if r = 0 ∨ s = 0 then none else some (r, s)

/-- The encoding of a signature. -/
def writeSignature (signature : Nat × Nat) : Bytes :=
  Der.encode Der.sequenceTag (Der.encodeNatural signature.1 ++ Der.encodeNatural signature.2)

/-- A signature of a digest belongs to a public key. -/
def verify (c : Curve) (key digest signature : Bytes) : Bool :=
  match c.readPoint key, readSignature c signature with
  | some q, some (r, s) =>
    let w := invMod c.order s
    let u := digestNumber c digest * w % c.order
    let v := r * w % c.order
    match c.coordinates? (c.add (c.mul u c.base) (c.mul v q)) with
    | some (x, _) => x % c.order == r
    | none => false
  | _, _ => false

end PinnedLink.Crypto.Ecdsa
