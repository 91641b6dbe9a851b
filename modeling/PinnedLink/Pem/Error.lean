import PinnedLink.Bytes.Literal

/-!
# Failures of PEM text

What can be wrong with the sections of a PEM buffer and with the base64 text inside them.
-/

namespace PinnedLink.Pem

/-- What is wrong with base64 text. -/
inductive Base64Error where
  /-- A byte that is no digit, no padding and no space. -/
  | invalidCharacter (byte : UInt8)
  /-- Padding with digits behind it. -/
  | prematurePadding
  /-- An end that is no whole number of bytes. -/
  | invalidTrailingPadding
deriving DecidableEq, Repr

/-- The name of a base64 failure. -/
def Base64Error.name : Base64Error → String
  | .invalidCharacter byte => s!"InvalidCharacter({byte})"
  | .prematurePadding => "PrematurePadding"
  | .invalidTrailingPadding => "InvalidTrailingPadding"

/-- What is wrong with a PEM buffer. -/
inductive Error where
  /-- A section has no end line. -/
  | missingSectionEnd (label : Bytes)
  /-- A line begins a section and does not end as such a line does. -/
  | illegalSectionStart (line : Bytes)
  /-- The text of a section is not base64. -/
  | base64 (fault : Base64Error)
  /-- No section of the kind asked for. -/
  | noItems
deriving DecidableEq, Repr

/-- The text of a PEM failure. -/
def Error.message : Error → String
  | .missingSectionEnd label => "missing section end marker: " ++ Bytes.decimalList label
  | .illegalSectionStart line => "illegal section start: " ++ Bytes.decimalList line
  | .base64 fault => "base64 decode error: " ++ fault.name
  | .noItems => "no items found"

end PinnedLink.Pem
