/-!
# Decimal numerals

An unsigned numeral is an optional plus sign and one or more ASCII digits, leading zeros included.
`readNumeral?` gives its value if that does not exceed a limit.
-/

namespace PinnedLink.Text

/-- A character is an ASCII digit. -/
def isDigit (c : Char) : Bool := '0' ≤ c && c ≤ '9'

/-- The value of a digit. -/
def digitValue (c : Char) : Nat := c.toNat - 48

/-- The value of a run of digits, most significant first. -/
def digitsValue (cs : List Char) : Nat :=
  cs.foldl (fun acc c => acc * 10 + digitValue c) 0

/-- A numeral without its plus sign. -/
def dropPlus : List Char → List Char
  | '+' :: rest => rest
  | cs => cs

/-- The value of a numeral up to a limit. -/
def readNumeral? (limit : Nat) (cs : List Char) : Option Nat :=
  let digits := dropPlus cs
  if digits ≠ [] ∧ digits.all isDigit ∧ digitsValue digits ≤ limit then some (digitsValue digits)
  else none

end PinnedLink.Text
