import PinnedLink.Json.Skip
import PinnedLink.Text.Units

/-!
# The grammar of JSON texts

What a JSON text is, without regard to how it is gone through.  `Letters` says which text stands
between two quotes, in whatever way its characters are escaped; `Form` only says what may stand there,
half a surrogate pair included.  `Value` is the grammar of values of any kind and depth, with blanks
wherever they may stand.

Nothing in a number says where it ends, so the lemmas about readers take what is left of the text to
be such that no number could go on there (`Ends`).
-/

namespace PinnedLink.Json

open Text (isDigit isHighUnit isLowUnit pairPoint)

/-! ## Strings -/

/-- Characters that separate the parts of a JSON text. -/
def Blanks (cs : List Char) : Prop := ∀ c ∈ cs, isBlank c = true

/-- Four hexadecimal digits, in either case, and the number that they write. -/
inductive HexUnit : List Char → Nat → Prop where
  | digits {a b c d : Char} {w x y z : Nat} (ha : Hex.value? a = some w) (hb : Hex.value? b = some x)
      (hc : Hex.value? c = some y) (hd : Hex.value? d = some z) :
      HexUnit [a, b, c, d] (((w * 16 + x) * 16 + y) * 16 + z)

/-- What may stand between the quotes of a string, and the text that it spells. -/
inductive Letters : List Char → List Char → Prop where
  | nil : Letters [] []
  | plain {c : Char} {cs text : List Char} (hquote : c ≠ '"') (hescape : c ≠ '\\')
      (hcontrol : ¬ c < ' ') (h : Letters cs text) : Letters (c :: cs) (c :: text)
  | letter {c e : Char} {cs text : List Char} (he : simpleEscape? c = some e)
      (h : Letters cs text) : Letters ('\\' :: c :: cs) (e :: text)
  | unit {hex cs text : List Char} {n : Nat} (hn : HexUnit hex n) (hhigh : isHighUnit n = false)
      (hlow : isLowUnit n = false) (h : Letters cs text) :
      Letters ('\\' :: 'u' :: (hex ++ cs)) (Char.ofNat n :: text)
  | pair {hex more cs text : List Char} {n m : Nat} (hn : HexUnit hex n) (hm : HexUnit more m)
      (hhigh : isHighUnit n = true) (hlow : isLowUnit m = true) (h : Letters cs text) :
      Letters ('\\' :: 'u' :: (hex ++ ('\\' :: 'u' :: (more ++ cs))))
        (Char.ofNat (pairPoint n m) :: text)

/-- What may stand between the quotes of a string that nobody reads. -/
inductive Form : List Char → Prop where
  | nil : Form []
  | plain {c : Char} {cs : List Char} (hquote : c ≠ '"') (hescape : c ≠ '\\')
      (hcontrol : ¬ c < ' ') (h : Form cs) : Form (c :: cs)
  | letter {c e : Char} {cs : List Char} (he : simpleEscape? c = some e) (h : Form cs) :
      Form ('\\' :: c :: cs)
  | unit {hex cs : List Char} {n : Nat} (hn : HexUnit hex n) (h : Form cs) :
      Form ('\\' :: 'u' :: (hex ++ cs))

/-! ## Numbers -/

/-- Digits, at least one. -/
def Places (cs : List Char) : Prop := cs ≠ [] ∧ ∀ c ∈ cs, isDigit c = true

/-- The digits in front of a point: a zero alone, or digits that begin with another one. -/
inductive Whole : List Char → Prop where
  | zero : Whole ['0']
  | digits {c : Char} {cs : List Char} (hne : c ≠ '0') (h : Places (c :: cs)) : Whole (c :: cs)

/-- A point and the digits behind it, or nothing. -/
inductive Fraction : List Char → Prop where
  | none : Fraction []
  | point {cs : List Char} (h : Places cs) : Fraction ('.' :: cs)

/-- A power of ten, or nothing. -/
inductive Exponent : List Char → Prop where
  | none : Exponent []
  | power {e : Char} {sign cs : List Char} (he : e = 'e' ∨ e = 'E')
      (hsign : sign = [] ∨ sign = ['+'] ∨ sign = ['-']) (h : Places cs) :
      Exponent (e :: (sign ++ cs))

/-- A number without a sign. -/
inductive Magnitude : List Char → Prop where
  | parts {whole fraction exponent : List Char} (hwhole : Whole whole) (hfraction : Fraction fraction)
      (hexponent : Exponent exponent) : Magnitude (whole ++ (fraction ++ exponent))

/-- No number goes on here. -/
def Ends (rest : List Char) : Prop :=
  ∀ c ∈ rest.head?, isDigit c = false ∧ c ≠ '.' ∧ c ≠ 'e' ∧ c ≠ 'E'

/-! ## Values -/

/-- A value without brackets. -/
inductive Scalar : List Char → Prop where
  | null : Scalar ['n', 'u', 'l', 'l']
  | yes : Scalar ['t', 'r', 'u', 'e']
  | no : Scalar ['f', 'a', 'l', 's', 'e']
  | string {cs : List Char} (h : Form cs) : Scalar ('"' :: (cs ++ ['"']))
  | magnitude {cs : List Char} (h : Magnitude cs) : Scalar cs
  | negative {cs : List Char} (h : Magnitude cs) : Scalar ('-' :: cs)

/-- The character that opens a bracket. -/
def Bracket.opening : Bracket → Char
  | .list => '['
  | .object => '\x7b'

/-- What stands in front of an element: nothing in a list, a key and a colon in an object. -/
inductive Label : Bracket → List Char → Prop where
  | none : Label .list []
  | key {cs before after : List Char} (h : Form cs) (hbefore : Blanks before)
      (hafter : Blanks after) :
      Label .object ('"' :: (cs ++ ('"' :: (before ++ (':' :: after)))))

/-- A part of a JSON text: a value, or the elements between a bracket and the one that closes it. -/
inductive Part where
  | value
  | elements (b : Bracket)

/-- The texts of a part. -/
inductive Written : Part → List Char → Prop where
  | scalar {cs : List Char} (h : Scalar cs) : Written .value cs
  | empty {b : Bracket} {blanks : List Char} (h : Blanks blanks) :
      Written .value (b.opening :: (blanks ++ [b.closing]))
  | bracket {b : Bracket} {cs : List Char} (h : Written (.elements b) cs) :
      Written .value (b.opening :: (cs ++ [b.closing]))
  | last {b : Bracket} {before label value after : List Char} (hbefore : Blanks before)
      (hlabel : Label b label) (hvalue : Written .value value) (hafter : Blanks after) :
      Written (.elements b) (before ++ (label ++ (value ++ after)))
  | more {b : Bracket} {before label value after cs : List Char} (hbefore : Blanks before)
      (hlabel : Label b label) (hvalue : Written .value value) (hafter : Blanks after)
      (h : Written (.elements b) cs) :
      Written (.elements b) (before ++ (label ++ (value ++ (after ++ (',' :: cs)))))

/-- The text of a value. -/
abbrev Value (cs : List Char) : Prop := Written .value cs

end PinnedLink.Json
