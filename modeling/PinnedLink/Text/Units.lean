/-!
# Texts in sixteen-bit units

A character is one unit, or a pair of units from two reserved ranges if its code point needs more
than sixteen bits.  A unit of those ranges that stands alone is no character.
-/

namespace PinnedLink.Text

/-- The unit opens a pair. -/
def isHighUnit (n : Nat) : Bool := 0xd800 ≤ n && n < 0xdc00

/-- The unit closes a pair. -/
def isLowUnit (n : Nat) : Bool := 0xdc00 ≤ n && n < 0xe000

/-- The code point of a pair. -/
def pairPoint (high low : Nat) : Nat := 0x10000 + (high - 0xd800) * 0x400 + (low - 0xdc00)

/-- The text of units, unless one of a pair stands alone. -/
def ofUnits? : List Nat → Option (List Char)
  | [] => some []
  | [n] => if isHighUnit n || isLowUnit n then none else some [Char.ofNat n]
  | n :: m :: rest =>
    if isHighUnit n then
      if isLowUnit m then (ofUnits? rest).map (Char.ofNat (pairPoint n m) :: ·) else none
    else if isLowUnit n then none
    else (ofUnits? (m :: rest)).map (Char.ofNat n :: ·)

/-- Bytes as units, the high byte first.  A last byte without a partner is a unit of its own. -/
def unitsOfBytes : List UInt8 → List Nat
  | [] => []
  | [b] => [b.toNat]
  | b :: c :: rest => (b.toNat * 256 + c.toNat) :: unitsOfBytes rest

example : ofUnits? (unitsOfBytes [0xd8, 0x3d, 0xde, 0x00]) = some ['😀'] := by decide
example : ofUnits? (unitsOfBytes [0xd8, 0x00, 0x00, 0x41]) = none := by decide

end PinnedLink.Text
