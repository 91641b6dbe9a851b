import PinnedLink.Bytes.BigEndian

/-!
# Hexadecimal text

Two digits a byte, most significant first.  `encode` writes lower-case digits, as
fingerprints have them; `encodeUpper` writes the upper-case digits of opaque name values.
`decode?` reads either case.
-/

namespace PinnedLink.Hex

/-- The digit of a value below sixteen, in lower case. -/
def digit (n : Nat) : Char :=
  if n < 10 then Char.ofNat (48 + n) else Char.ofNat (87 + n)

/-- The digit of a value below sixteen, in upper case. -/
def digitUpper (n : Nat) : Char :=
  if n < 10 then Char.ofNat (48 + n) else Char.ofNat (55 + n)

/-- The value of a digit, either case. -/
def value? (c : Char) : Option Nat :=
  if '0' ≤ c ∧ c ≤ '9' then some (c.toNat - 48)
  else if 'a' ≤ c ∧ c ≤ 'f' then some (c.toNat - 87)
  else if 'A' ≤ c ∧ c ≤ 'F' then some (c.toNat - 55)
  else none

/-- Lower-case hexadecimal text of a byte string. -/
def encode (bytes : Bytes) : String :=
  String.ofList (bytes.flatMap fun b => [digit (b.toNat / 16), digit (b.toNat % 16)])

/-- Upper-case hexadecimal text of a byte string. -/
def encodeUpper (bytes : Bytes) : String :=
  String.ofList (bytes.flatMap fun b => [digitUpper (b.toNat / 16), digitUpper (b.toNat % 16)])

/-- Reads pairs of digits, two at a time. -/
def decodeChars? : List Char → Option Bytes
  | [] => some []
  | [_] => none
  | a :: b :: rest => do
    let hi ← value? a
    let lo ← value? b
    let tail ← decodeChars? rest
    return UInt8.ofNat (hi * 16 + lo) :: tail

/-- The byte string that hexadecimal text writes, if it is an even number of digits. -/
def decode? (text : String) : Option Bytes :=
  decodeChars? text.toList

/-- The digits of a number in base sixteen, without leading zeros. -/
def ofNat (n : Nat) : List Char :=
  Nat.toDigits 16 n

end PinnedLink.Hex
