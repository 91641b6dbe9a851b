import PinnedLink.Bytes.BigEndian
import PinnedLink.Crypto.Modular

/-!
# Curves over prime fields

The points of `y ^ 2 = x ^ 3 - 3 * x + b` modulo a prime, and the two such curves that keys and
signatures use.  Points are kept with a common denominator, so that only the last step of a
computation divides.
-/

namespace PinnedLink.Crypto

/-- A curve with a base point whose multiples are the points of a prime order. -/
structure Curve where
  /-- The prime of the field. -/
  p : Nat
  b : Nat
  /-- The order of the base point. -/
  order : Nat
  baseX : Nat
  baseY : Nat
  /-- Bytes of a coordinate, and of a multiple. -/
  width : Nat

/-- The curve P-256. -/
def p256 : Curve :=
  { p := 0xffffffff00000001000000000000000000000000ffffffffffffffffffffffff
    b := 0x5ac635d8aa3a93e7b3ebbd55769886bc651d06b0cc53b0f63bce3c3e27d2604b
    order := 0xffffffff00000000ffffffffffffffffbce6faada7179e84f3b9cac2fc632551
    baseX := 0x6b17d1f2e12c4247f8bce6e563a440f277037d812deb33a0f4a13945d898c296
    baseY := 0x4fe342e2fe1a7f9b8ee7eb4a7c0f9e162bce33576b315ececbb6406837bf51f5
    width := 32 }

/-- The curve P-384. -/
def p384 : Curve :=
  { p := 0xfffffffffffffffffffffffffffffffffffffffffffffffffffffffffffffffeffffffff0000000000000000ffffffff
    b := 0xb3312fa7e23ee7e4988e056be3f82d19181d9c6efe8141120314088f5013875ac656398d8a2ed19d2a85c8edd3ec2aef
    order := 0xffffffffffffffffffffffffffffffffffffffffffffffffc7634d81f4372ddf581a0db248b0a77aecec196accc52973
    baseX := 0xaa87ca22be8b05378eb1c71ef320ad746e1d3b628ba79b9859f741e082542a385502f25dbf55296c3a545e3872760ab7
    baseY := 0x3617de4a96262c6f5d9e98bf9292dc29f8f41dbd289a147ce9da3113b5f0b8c00a60b1ce1d7e819d7a431d7c90ea0e5f
    width := 48 }

/-- The point `(x / z ^ 2, y / z ^ 3)`, or the neutral point where `z` is zero. -/
structure Point where
  x : Nat
  y : Nat
  z : Nat
deriving DecidableEq, Repr

namespace Curve

/-- The neutral point. -/
def neutral : Point := ⟨1, 1, 0⟩

/-- The base point. -/
def base (c : Curve) : Point := ⟨c.baseX, c.baseY, 1⟩

/-- The coordinates of a point, unless it is neutral. -/
def coordinates? (c : Curve) (q : Point) : Option (Nat × Nat) :=
  if q.z = 0 then none
  else
    let inv := invMod c.p q.z
    let inv2 := inv * inv % c.p
    some (q.x * inv2 % c.p, q.y * (inv2 * inv % c.p) % c.p)

/-- A pair of coordinates below the prime that satisfies the equation. -/
def contains (c : Curve) (x y : Nat) : Bool :=
  x < c.p && y < c.p && y * y % c.p == (x * x * x + (c.p - 3) * x + c.b) % c.p

/-- Twice a point. -/
def double (c : Curve) (q : Point) : Point :=
  let p := c.p
  let delta := q.z * q.z % p
  let gamma := q.y * q.y % p
  let beta := q.x * gamma % p
  let alpha := 3 * (subMod p q.x delta * (q.x + delta)) % p
  let x := subMod p (alpha * alpha % p) (8 * beta % p)
  let z := subMod p ((q.y + q.z) * (q.y + q.z) % p) ((gamma + delta) % p)
  let y := subMod p (alpha * subMod p (4 * beta % p) x % p) (8 * (gamma * gamma) % p)
  ⟨x, y, z⟩

/-- The sum of two points. -/
def add (c : Curve) (q r : Point) : Point :=
  if q.z = 0 then r
  else if r.z = 0 then q
  else
    let p := c.p
    let qz2 := q.z * q.z % p
    let rz2 := r.z * r.z % p
    let u1 := q.x * rz2 % p
    let u2 := r.x * qz2 % p
    let s1 := q.y * (r.z * rz2 % p) % p
    let s2 := r.y * (q.z * qz2 % p) % p
    if u1 = u2 then
      if s1 = s2 then c.double q else neutral
    else
      let h := subMod p u2 u1
      let d := subMod p s2 s1
      let h2 := h * h % p
      let h3 := h * h2 % p
      let v := u1 * h2 % p
      let x := subMod p (subMod p (d * d % p) h3) (2 * v % p)
      let y := subMod p (d * subMod p v x % p) (s1 * h3 % p)
      ⟨x, y, q.z * r.z % p * h % p⟩

/-- A multiple of a point. -/
def mul (c : Curve) (k : Nat) (q : Point) : Point :=
  if h : k = 0 then neutral
  else
    let half := c.double (c.mul (k / 2) q)
    if k % 2 = 1 then c.add half q else half
termination_by k
decreasing_by omega

/-- A point written as `4` and its two coordinates. -/
def readPoint (c : Curve) (bytes : Bytes) : Option Point :=
  match bytes with
  | 0x04 :: rest =>
    if rest.length = 2 * c.width then
      let x := BigEndian.readNat (rest.take c.width)
      let y := BigEndian.readNat (rest.drop c.width)
      if c.contains x y then some ⟨x, y, 1⟩ else none
    else none
  | _ => none

/-- The bytes of a point, unless it is neutral. -/
def writePoint? (c : Curve) (q : Point) : Option Bytes :=
  (c.coordinates? q).map fun (x, y) =>
    0x04 :: (BigEndian.writeNat c.width x ++ BigEndian.writeNat c.width y)

end Curve

end PinnedLink.Crypto
