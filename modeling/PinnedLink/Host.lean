import PinnedLink.Bytes.Hex
import PinnedLink.Text.Numeral

/-!
# Hosts

A host is a name made of labels, or an address of four or of sixteen bytes.  `Host.parse?` reads any
of the three; what it reads is also what a client can ask a server's certificate for.

A name whose last label is a number is no name, so that no text is both a name and an address.
-/

namespace PinnedLink

/-- An address of four bytes. -/
structure Ipv4 where
  a : Nat
  b : Nat
  c : Nat
  d : Nat
deriving DecidableEq, Repr

/-- The text of an address. -/
def Ipv4.text (i : Ipv4) : String := s!"{i.a}.{i.b}.{i.c}.{i.d}"

/-- A host. -/
inductive Host where
  /-- A name, by its labels. -/
  | name (labels : List (List Char))
  /-- An address of four bytes. -/
  | v4 (address : Ipv4)
  /-- An address of eight pairs of bytes. -/
  | v6 (groups : List Nat)
deriving DecidableEq, Repr

namespace Host

/-- The pieces of a text between the places where a character stands. -/
def pieces (separator : Char) : List Char → List (List Char)
  | [] => [[]]
  | c :: rest =>
    if c = separator then [] :: pieces separator rest
    else match pieces separator rest with
      | [] => [[c]]
      | piece :: more => (c :: piece) :: more

/-! ## Names -/

/-- Longest label. -/
def labelLimit : Nat := 63

/-- Longest name. -/
def nameLimit : Nat := 253

/-- A character that a label may hold: an ASCII letter or digit, an underscore or a hyphen. -/
def isLabelChar (c : Char) : Bool := c.isAlphanum || c == '_' || c == '-'

/-- A label has one or more characters and no hyphen at its ends. -/
def isLabel (label : List Char) : Bool :=
  !label.isEmpty && decide (label.length ≤ labelLimit) && label.all isLabelChar &&
    label.head? != some '-' && label.getLast? != some '-'

/-- The labels of a name, which may end in a dot. -/
def labelsOf (text : List Char) : List (List Char) :=
  let labels := pieces '.' text
  if labels.getLast? = some [] then labels.dropLast else labels

/-- Reads a name. -/
def parseName? (text : List Char) : Option Host :=
  let labels := labelsOf text
  if text.length ≤ nameLimit ∧ labels.all isLabel ∧
      labels.getLast?.any (fun last => !last.all Text.isDigit) then
    some (.name labels)
  else none

/-! ## Addresses -/

/-- Reads a byte in decimal, without leading zeros. -/
def parseOctet? (text : List Char) : Option Nat :=
  if text ≠ [] ∧ text.all Text.isDigit ∧ text.length ≤ 3 ∧
      (text.length = 1 ∨ text.head? ≠ some '0') ∧ Text.digitsValue text < 256 then
    some (Text.digitsValue text)
  else none

/-- Reads four bytes with dots between them. -/
def parseV4? (text : List Char) : Option Ipv4 :=
  match pieces '.' text with
  | [a, b, c, d] => do
    return ⟨← parseOctet? a, ← parseOctet? b, ← parseOctet? c, ← parseOctet? d⟩
  | _ => none

/-- Reads a pair of bytes in hexadecimal, leading zeros included. -/
def parseGroup? (text : List Char) : Option (List Nat) :=
  if text = [] ∨ 4 < text.length then none
  else (text.mapM Hex.value?).map fun digits => [digits.foldl (fun acc d => acc * 16 + d) 0]

/-- Reads the last two pairs of an address as four bytes in decimal. -/
def parseDotted? (text : List Char) : Option (List Nat) :=
  (parseV4? text).map fun i => [i.a * 256 + i.b, i.c * 256 + i.d]

/-- Reads pairs with colons between them; none if the text is empty.  The last two may be in decimal
where the address ends. -/
def parseGroups? (atEnd : Bool) (text : List Char) : Option (List Nat) :=
  if text = [] then some []
  else
    let parts := pieces ':' text
    let last? := fun t => parseGroup? t <|> if atEnd then parseDotted? t else none
    do
      let front ← parts.dropLast.mapM parseGroup?
      let last ← last? (parts.getLast?.getD [])
      return front.flatten ++ last

/-- The text before and after the first double colon. -/
def splitGap? : List Char → Option (List Char × List Char)
  | [] => none
  | ':' :: ':' :: rest => some ([], rest)
  | c :: rest => (splitGap? rest).map fun (before, after) => (c :: before, after)

/-- Reads eight pairs, or fewer around a gap that stands for zeros. -/
def parseV6? (text : List Char) : Option (List Nat) :=
  match splitGap? text with
  | none => (parseGroups? true text).bind fun groups =>
    if groups.length = 8 then some groups else none
  | some (before, after) => do
    let head ← parseGroups? false before
    let tail ← parseGroups? true after
    let known := head.length + tail.length
    if known < 8 then some (head ++ List.replicate (8 - known) 0 ++ tail) else none

/-- Reads an address. -/
def parseAddress? (text : List Char) : Option Host :=
  (parseV4? text).map .v4 <|> (parseV6? text).map .v6

/-- Reads a host. -/
def parse? (text : String) : Option Host :=
  parseName? text.toList <|> parseAddress? text.toList

/-- What is said of a text that is no host. -/
def refusal : String := "invalid dns name"

example : parse? "a.b." = some (.name [['a'], ['b']]) := by decide +kernel
example : parse? "127.0.0.1" = some (.v4 ⟨127, 0, 0, 1⟩) := by decide +kernel
example : parse? "::1.2.3.4" = some (.v6 [0, 0, 0, 0, 0, 0, 258, 772]) := by decide +kernel
example : parse? "1." = none := by decide +kernel

end Host

end PinnedLink
