import PinnedLink.Bytes.BigEndian
import PinnedLink.Crypto.Modular
import PinnedLink.Digest.Sha512

/-!
# Ed25519

Keys and signatures over the curve `-x ^ 2 + y ^ 2 = 1 + d * x ^ 2 * y ^ 2` modulo `2 ^ 255 - 19`.
Numbers are written least significant byte first.  Points are kept as `(x / z, y / z)` with
`t = x * y / z`; one formula adds any two of them.
-/

namespace PinnedLink.Crypto.Ed25519

/-- The prime of the field. -/
def p : Nat := 1 <<< 255 - 19

/-- The order of the base point. -/
def order : Nat := 1 <<< 252 + 27742317777372353535851937790883648493

/-- The constant of the equation. -/
def d : Nat := 37095705934669439343138083508754565189542113879843219016388785533085940283555

/-- A square root of minus one. -/
def rootOfMinusOne : Nat :=
  19681161376707505956807079304988542015446066515923890162744021073123829784752

/-- A point. -/
structure Point where
  x : Nat
  y : Nat
  z : Nat
  t : Nat

/-- The neutral point. -/
def neutral : Point := ⟨0, 1, 1, 0⟩

/-- The base point. -/
def base : Point :=
  let x := 15112221349535400772501151409588531511454012693041857206046113283949847762202
  let y := 46316835694926478169428394003475163141307993866256225615783033603165251855960
  ⟨x, y, 1, x * y % p⟩

/-- The sum of two points. -/
def add (q r : Point) : Point :=
  let a := subMod p q.y q.x * subMod p r.y r.x % p
  let b := (q.y + q.x) * (r.y + r.x) % p
  let c := 2 * d * q.t % p * r.t % p
  let e := 2 * q.z * r.z % p
  let f := subMod p b a
  let g := subMod p e c
  let h := (e + c) % p
  let i := (b + a) % p
  ⟨f * g % p, h * i % p, g * h % p, f * i % p⟩

/-- A multiple of a point. -/
def mul (k : Nat) (q : Point) : Point :=
  if h : k = 0 then neutral
  else
    let half := mul (k / 2) q
    let twice := add half half
    if k % 2 = 1 then add twice q else twice
termination_by k
decreasing_by omega

/-- The number that bytes write, least significant first. -/
def readNat (bytes : Bytes) : Nat := BigEndian.readNat bytes.reverse

/-- The 32 bytes of a number, least significant first. -/
def writeNat (n : Nat) : Bytes := (BigEndian.writeNat 32 n).reverse

/-- The bytes of a point: its second coordinate with the parity of the first on top. -/
def writePoint (q : Point) : Bytes :=
  let inv := invMod p q.z
  writeNat (q.y * inv % p + (q.x * inv % p % 2) <<< 255)

/-- The point with opposite first coordinate. -/
def negate (q : Point) : Point := ⟨subMod p 0 q.x, q.y, q.z, subMod p 0 q.t⟩

/-- The point of 32 bytes. -/
def readPoint (bytes : Bytes) : Option Point :=
  if bytes.length ≠ 32 then none
  else
    let n := readNat bytes
    let y := n % (1 <<< 255) % p
    let y2 := y * y % p
    let u := subMod p y2 1
    let v := (d * y2 + 1) % p
    let v3 := v * v % p * v % p
    let root := u * v3 % p * powMod p (u * (v3 * v3 % p * v % p) % p) ((p - 5) / 8) % p
    let check := v * (root * root % p) % p
    let x? :=
      if check = u then some root
      else if check = subMod p 0 u then some (root * rootOfMinusOne % p)
      else none
    x?.map fun x =>
      let x := if x % 2 = n >>> 255 then x else subMod p 0 x
      ⟨x, y, 1, x * y % p⟩

/-- The multiple that a seed stands for. -/
def secretNumber (seed : Bytes) : Nat :=
  let n := readNat ((Digest.Sha512.digest seed).take 32)
  n % (1 <<< 254) / 8 * 8 + 1 <<< 254

/-- The public key of a seed of 32 bytes. -/
def publicKey? (seed : Bytes) : Option Bytes :=
  if seed.length = 32 then some (writePoint (mul (secretNumber seed) base)) else none

/-- A signature of a message belongs to a public key. -/
def verify (key message signature : Bytes) : Bool :=
  let r := signature.take 32
  let s := readNat (signature.drop 32)
  signature.length == 64 && s < order &&
    match readPoint key with
    | none => false
    | some a =>
      let k := readNat (Digest.Sha512.digest (r ++ key ++ message)) % order
      writePoint (add (mul k (negate a)) (mul s base)) == r

end PinnedLink.Crypto.Ed25519
