import PinnedLink.Decimal.Shortest
import PinnedLink.Text.Quoted
import PinnedLink.Text.Utf8

/-!
# Failures of reading JSON

A failure is a fault with the place where it shows.  While reading, the place is kept as the number
of bytes of the text that lie behind it; `Failure.locate` turns that into a line, counted from one,
and a column, the number of bytes since the line began.
-/

namespace PinnedLink.Json

/-- What was found in the place of something else. -/
inductive Found where
  | null
  | boolean (b : Bool)
  | integer (n : Int)
  | real (x : Float)
  | text (s : String)
  | sequence
  | map

/-- Floats in messages are written in full from `1e-5` up to below `1e16`, and else with a signed
exponent of at least two digits. -/
def realStyle : Decimal.Style :=
  { minFull := -5, maxFull := 15, exponentDigits := 2, plusSign := true }

/-- The description of what was found. -/
def Found.describe : Found → String
  | .null => "null"
  | .boolean b => if b then "boolean `true`" else "boolean `false`"
  | .integer n => "integer `" ++ toString n ++ "`"
  | .real x => "floating point `" ++ realStyle.writeFloat x ++ "`"
  | .text s => "string " ++ Text.quoted s
  | .sequence => "sequence"
  | .map => "map"

/-- What is wrong with a JSON text, or with the value in it. -/
inductive Fault where
  | eofInList
  | eofInObject
  | eofInString
  | eofInValue
  | expectedColon
  | expectedListCommaOrEnd
  | expectedObjectCommaOrEnd
  | expectedIdent
  | expectedValue
  | invalidEscape
  | invalidNumber
  | numberOutOfRange
  | controlCharacter
  | keyMustBeString
  | loneSurrogate
  | trailingComma
  | trailingCharacters
  | unexpectedEndOfHexEscape
  /-- A value of another type than the one expected. -/
  | invalidType (found : Found) (expected : String)
  /-- A number outside the range expected. -/
  | invalidValue (n : Int) (expected : String)
  /-- A name that none of the known variants has. -/
  | unknownVariant (name : String) (known : List String)
  /-- A known field that comes twice. -/
  | duplicateField (name : String)

/-- The choices of a message: one, two, or a list. -/
def choices (names : List String) : String :=
  match names.map fun n => "`" ++ n ++ "`" with
  | [a] => a
  | [a, b] => a ++ " or " ++ b
  | quoted => "one of " ++ ", ".intercalate quoted

/-- The text of a fault. -/
def Fault.message : Fault → String
  | .eofInList => "EOF while parsing a list"
  | .eofInObject => "EOF while parsing an object"
  | .eofInString => "EOF while parsing a string"
  | .eofInValue => "EOF while parsing a value"
  | .expectedColon => "expected `:`"
  | .expectedListCommaOrEnd => "expected `,` or `]`"
  | .expectedObjectCommaOrEnd => "expected `,` or `\x7d`"
  | .expectedIdent => "expected ident"
  | .expectedValue => "expected value"
  | .invalidEscape => "invalid escape"
  | .invalidNumber => "invalid number"
  | .numberOutOfRange => "number out of range"
  | .controlCharacter =>
    "control character (\\u0000-\\u001F) found while parsing a string"
  | .keyMustBeString => "key must be a string"
  | .loneSurrogate => "lone leading surrogate in hex escape"
  | .trailingComma => "trailing comma"
  | .trailingCharacters => "trailing characters"
  | .unexpectedEndOfHexEscape => "unexpected end of hex escape"
  | .invalidType found expected => "invalid type: " ++ found.describe ++ ", expected " ++ expected
  | .invalidValue n expected =>
    "invalid value: integer `" ++ toString n ++ "`, expected " ++ expected
  | .unknownVariant name known => "unknown variant `" ++ name ++ "`, expected " ++ choices known
  | .duplicateField name => "duplicate field `" ++ name ++ "`"

/-- The three classes of faults. -/
inductive Category where
  /-- The text is not JSON. -/
  | malformed
  /-- The text is JSON of the wrong shape. -/
  | data
  /-- The text ends too early. -/
  | eof
deriving DecidableEq, Repr

/-- The class of a fault. -/
def Fault.category : Fault → Category
  | .eofInList | .eofInObject | .eofInString | .eofInValue => .eof
  | .invalidType _ _ | .invalidValue _ _ | .unknownVariant _ _ | .duplicateField _ => .data
  | _ => .malformed

/-- Length of a text in bytes. -/
def byteLen (cs : List Char) : Nat := cs.foldl (fun n c => n + c.utf8Size) 0

/-- A fault and the number of bytes behind its place. -/
structure Failure where
  fault : Fault
  behind : Nat

/-- A fault in front of what is left. -/
def Failure.here (fault : Fault) (rest : List Char) : Failure := ⟨fault, byteLen rest⟩

/-- A fault behind the first byte of what is left, if there is one. -/
def Failure.past (fault : Fault) (rest : List Char) : Failure := ⟨fault, byteLen rest - 1⟩

/-- A fault with its line and column. -/
structure Error where
  fault : Fault
  line : Nat
  column : Nat

/-- Line and column behind a number of bytes. -/
def position (bytes : List UInt8) : Nat × Nat :=
  bytes.foldl
    (fun (at_ : Nat × Nat) (b : UInt8) => if b = 0x0a then (at_.1 + 1, 0) else (at_.1, at_.2 + 1))
    (1, 0)

/-- The line and column of a failure in a text. -/
def Failure.locate (f : Failure) (text : String) : Error :=
  let bytes := Text.utf8 text
  let (line, column) := position (bytes.take (bytes.length - f.behind))
  { fault := f.fault, line, column }

/-- The text of a JSON error. -/
def Error.message (e : Error) : String :=
  e.fault.message ++ s!" at line {e.line} column {e.column}"

end PinnedLink.Json
