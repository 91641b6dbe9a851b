import PinnedLink.Bytes.BigEndian

/-!
# Texts as bytes

A text is one byte string, but not every byte string is a text.  `lossy` shows any bytes: what is not
well formed is replaced, one mark for each longest piece that could have been the beginning of a
character.  Bytes that are a text are shown as that text (`lossy_utf8`).
-/

namespace PinnedLink.Text

/-- The bytes of a text. -/
def utf8 (text : String) : Bytes := text.toUTF8.data.toList

/-- The text of bytes. -/
def ofUtf8? (bytes : Bytes) : Option String := String.fromUTF8? ⟨bytes.toArray⟩

theorem ofUtf8?_utf8 (text : String) : ofUtf8? (utf8 text) = some text := by
  have h : text.toUTF8.IsValidUTF8 := text.isValidUTF8
  exact dif_pos h

/-- The mark that stands for bytes that are no text. -/
def replacement : Char := '\ufffd'

/-- A byte that continues a character. -/
def isContinuation (b : UInt8) : Bool := 0x80 ≤ b && b < 0xc0

/-- The bytes that may follow the first byte of a character. -/
def isSecond (first b : UInt8) : Bool :=
  if first = 0xe0 then 0xa0 ≤ b && b < 0xc0
  else if first = 0xed then 0x80 ≤ b && b < 0xa0
  else if first = 0xf0 then 0x90 ≤ b && b < 0xc0
  else if first = 0xf4 then 0x80 ≤ b && b < 0x90
  else isContinuation b

/-- The bytes of a character whose first byte is given; none if it opens no character. -/
def lengthFrom (first : UInt8) : Nat :=
  if first < 0x80 then 1
  else if first < 0xc2 then 0
  else if first < 0xe0 then 2
  else if first < 0xf0 then 3
  else if first < 0xf5 then 4
  else 0

/-- How many of the bytes behind a first byte go on with its character. -/
def follow (first : UInt8) (rest : Bytes) : Nat :=
  match rest with
  | [] => 0
  | b :: more =>
    if isSecond first b then
      1 + ((more.take (lengthFrom first - 2)).takeWhile isContinuation).length
    else 0

/-- The first piece of bytes: its character, or the mark, and the number of bytes behind the first that
belong to it. -/
def firstPiece (first : UInt8) (rest : Bytes) : Char × Nat :=
  match lengthFrom first with
  | 0 => (replacement, 0)
  | 1 => (Char.ofNat first.toNat, 0)
  | whole =>
    let n := follow first rest
    if n + 1 < whole then (replacement, n)
    else
      let start := first.toNat % (1 <<< (7 - whole))
      (Char.ofNat ((rest.take n).foldl (fun acc b => acc * 64 + b.toNat % 64) start), n)

/-- The pieces of bytes, one character each. -/
def pieces : Bytes → List Char
  | [] => []
  | first :: rest =>
    let (c, n) := firstPiece first rest
    c :: pieces (rest.drop n)
termination_by bytes => bytes.length
decreasing_by
  rw [List.length_drop, List.length_cons]
  omega

/-- Bytes as text. -/
def lossy (bytes : Bytes) : String := (ofUtf8? bytes).getD (String.ofList (pieces bytes))

/-- Bytes that are a text are shown as that text. -/
theorem lossy_utf8 (text : String) : lossy (utf8 text) = text := by
  rw [lossy, ofUtf8?_utf8]
  rfl

example : pieces [0x61, 0xff, 0xe2, 0x82, 0x62] = ['a', replacement, replacement, 'b'] := by
  decide +kernel
example : pieces [0xf0, 0x9f, 0x98, 0x80, 0xed, 0xa0, 0x80] =
    ['😀', replacement, replacement, replacement] := by
  decide +kernel

end PinnedLink.Text
