import PinnedLink.Text.Hidden

/-!
# Quoted texts

A text between quotes, as messages show it: quote and backslash get a backslash, tab, line feed,
carriage return and NUL their letter, and a character that would not be seen as itself is written by
its code point, as in `\u{301}`.
-/

namespace PinnedLink.Text

/-- How one character is written between quotes. -/
def quotedChar (c : Char) : List Char :=
  if c = '\x00' then ['\\', '0']
  else if c = '\t' then ['\\', 't']
  else if c = '\r' then ['\\', 'r']
  else if c = '\n' then ['\\', 'n']
  else if c = '\\' then ['\\', '\\']
  else if c = '"' then ['\\', '"']
  else if isHidden c then
    '\\' :: 'u' :: '\x7b' :: (Nat.toDigits 16 c.toNat ++ ['\x7d'])
  else [c]

/-- A text between quotes. -/
def quoted (text : String) : String :=
  String.ofList ('"' :: (text.toList.flatMap quotedChar ++ ['"']))

end PinnedLink.Text
