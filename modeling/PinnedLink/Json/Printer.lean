import PinnedLink.Json.Lexeme

/-!
# Writing JSON

A document is written from its members in one of two layouts: on one line without blanks, or with
one member a line, indented by two blanks.  In a text, quote, backslash and the characters below the
blank are escaped, by a letter where they have one and else by their number.
-/

namespace PinnedLink.Json

/-- How one character is written in a text. -/
def escapeChar (c : Char) : List Char :=
  if c = '"' then ['\\', '"']
  else if c = '\\' then ['\\', '\\']
  else if c = '\x08' then ['\\', 'b']
  else if c = '\x0c' then ['\\', 'f']
  else if c = '\n' then ['\\', 'n']
  else if c = '\r' then ['\\', 'r']
  else if c = '\t' then ['\\', 't']
  else if c < ' ' then ['\\', 'u', '0', '0', Hex.digit (c.toNat / 16), Hex.digit (c.toNat % 16)]
  else [c]

/-- A text in quotes. -/
def renderText (text : String) : List Char :=
  '"' :: (text.toList.flatMap escapeChar ++ ['"'])

/-- A natural number. -/
def renderNatural (n : Nat) : List Char := Nat.toDigits 10 n

/-- The word for nothing. -/
def renderNull : List Char := ['n', 'u', 'l', 'l']

/-- A layout of objects. -/
inductive Layout where
  /-- On one line, without blanks. -/
  | compact
  /-- One member a line, indented by two blanks. -/
  | indented
deriving DecidableEq, Repr

/-- What stands in front of a member. -/
def Layout.lead : Layout → List Char
  | .compact => []
  | .indented => ['\n', ' ', ' ']

/-- What stands between a key and its value. -/
def Layout.colon : Layout → List Char
  | .compact => [':']
  | .indented => [':', ' ']

/-- What stands in front of the closing brace. -/
def Layout.trail : Layout → List Char
  | .compact => []
  | .indented => ['\n']

/-- A member of an object. -/
def Layout.renderMember (layout : Layout) (key : String) (value : List Char) : List Char :=
  layout.lead ++ renderText key ++ layout.colon ++ value

/-- An object with at least one member. -/
def Layout.renderObject (layout : Layout) (members : List (String × List Char)) : List Char :=
  '\x7b' :: (List.intercalate [','] (members.map fun m => layout.renderMember m.1 m.2) ++
    layout.trail ++ ['\x7d'])

end PinnedLink.Json
