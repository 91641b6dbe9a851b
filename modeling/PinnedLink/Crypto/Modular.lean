/-!
# Arithmetic modulo a number

Powers and inverses modulo a number, on natural numbers.  Inverses are taken by Fermat's theorem and
so only hold for a prime modulus.
-/

namespace PinnedLink.Crypto

/-- Continues a power: `acc * base ^ e` modulo `m`. -/
def powModFrom (m acc base e : Nat) : Nat :=
  if h : e = 0 then acc
  else powModFrom m (if e % 2 = 1 then acc * base % m else acc) (base * base % m) (e / 2)
termination_by e
decreasing_by omega

/-- `base ^ e` modulo `m`. -/
def powMod (m base e : Nat) : Nat := powModFrom m (1 % m) (base % m) e

/-- The inverse modulo a prime. -/
def invMod (p a : Nat) : Nat := powMod p a (p - 2)

/-- The difference modulo a number of two numbers below it. -/
def subMod (p a b : Nat) : Nat := (a + p - b) % p

end PinnedLink.Crypto
