import PinnedLink.Bytes.Hex

/-!
# Byte strings as readable literals

A byte string is shown between `b"` and `"`: printable ASCII as it is, the usual control
characters by their letter, quote and backslash escaped, and every other byte as `\x` with
two digits.
-/

namespace PinnedLink.Bytes

/-- How one byte is shown inside a literal. -/
def literalChars (b : UInt8) : List Char :=
  if b = 0x0a then ['\\', 'n']
  else if b = 0x0d then ['\\', 'r']
  else if b = 0x09 then ['\\', 't']
  else if b = 0x5c then ['\\', '\\']
  else if b = 0x22 then ['\\', '"']
  else if b = 0x00 then ['\\', '0']
  else if 0x20 ≤ b ∧ b < 0x7f then [Char.ofNat b.toNat]
  else ['\\', 'x', Hex.digit (b.toNat / 16), Hex.digit (b.toNat % 16)]

/-- The literal of a byte string. -/
def literal (bytes : Bytes) : String :=
  String.ofList ('b' :: '"' :: bytes.flatMap literalChars ++ ['"'])

/-- The decimal list of a byte string, such as `[83, 87]`. -/
def decimalList (bytes : Bytes) : String :=
  "[" ++ ", ".intercalate (bytes.map fun b => toString b.toNat) ++ "]"

end PinnedLink.Bytes
