/-!
# White space at the ends of a text

White space is the Unicode property of that name, 25 characters.  `trim` takes it off both ends of a
text and leaves it inside.
-/

namespace PinnedLink.Text

/-- The characters with the white space property. -/
def blanks : List Char := [
  '\u0009', '\u000a', '\u000b', '\u000c', '\u000d', '\u0020', '\u0085', '\u00a0', '\u1680',
  '\u2000', '\u2001', '\u2002', '\u2003', '\u2004', '\u2005', '\u2006', '\u2007', '\u2008',
  '\u2009', '\u200a', '\u2028', '\u2029', '\u202f', '\u205f', '\u3000']

/-- A character is white space. -/
def isBlank (c : Char) : Bool := blanks.contains c

/-- A text without the white space at its end. -/
def trimRight (cs : List Char) : List Char := (cs.reverse.dropWhile isBlank).reverse

/-- A text without the white space at its ends. -/
def trim (cs : List Char) : List Char := trimRight (cs.dropWhile isBlank)

end PinnedLink.Text
