import PinnedLink.Pem.Error

/-!
# Base64 text

Four digits stand for three bytes.  White space between digits is passed over, and padding may be
left out at the end.  Digits are taken in blocks of eight; padding ends a block, so that a padded
block in the middle of a text is accepted where it fills its eight places.
-/

namespace PinnedLink.Pem.Base64

/-- A place of base64 text. -/
inductive Place where
  | digit (value : Nat)
  | pad
deriving DecidableEq, Repr

/-- The value of a place; padding counts as zero. -/
def Place.value : Place → Nat
  | .digit value => value
  | .pad => 0

/-- White space between digits. -/
def isSpace (b : UInt8) : Bool := (0x09 ≤ b && b ≤ 0x0d) || b == 0x20

/-- The place that a byte writes. -/
def place? (b : UInt8) : Option Place :=
  let n := b.toNat
  if 65 ≤ n ∧ n ≤ 90 then some (.digit (n - 65))
  else if 97 ≤ n ∧ n ≤ 122 then some (.digit (n - 71))
  else if 48 ≤ n ∧ n ≤ 57 then some (.digit (n + 4))
  else if n = 43 then some (.digit 62)
  else if n = 47 then some (.digit 63)
  else if n = 61 then some .pad
  else none

/-- The whole bytes that a run of places holds. -/
def bytesOf (places : List Place) : Bytes :=
  let bits := 6 * places.length
  let value := places.foldl (fun acc p => acc * 64 + p.value) 0
  BigEndian.writeNat (bits / 8) (value >>> (bits % 8))

/-- Number of padding places at the end of a group of four, unless padding stands where it may not. -/
def padding? : List Place → Option Nat
  | [.digit _, .digit _, .digit _, .digit _] => some 0
  | [.digit _, .digit _, .digit _, .pad] => some 1
  | [.digit _, .digit _, .pad, .pad] => some 2
  | _ => none

/-- The bytes of places that end in a group of four. -/
def closeGroup (places : List Place) : Except Base64Error Bytes :=
  match padding? (places.drop (places.length - 4)) with
  | some n => .ok ((bytesOf places).take (places.length * 6 / 8 - n))
  | none => .error .invalidTrailingPadding

/-- The bytes of the last block of a text. -/
def closeBlock (places : List Place) : Except Base64Error Bytes :=
  let early := places.length - 4
  if (places.take early).contains .pad then .error .prematurePadding
  else if places.length = 4 then closeGroup places
  else if (places.drop early).contains .pad ∨ places.length % 4 = 1 then
    .error .invalidTrailingPadding
  else .ok (bytesOf places)

/-- The bytes of a block of eight places. -/
def closeFullBlock (places : List Place) : Except Base64Error Bytes :=
  if (places.take 4).contains .pad then .error .prematurePadding else closeGroup places

/-- Reads base64 text behind the places of a block that is not full. -/
def decodeFrom (block : List Place) : Bytes → Except Base64Error Bytes
  | [] => closeBlock block
  | b :: rest =>
    if isSpace b then decodeFrom block rest
    else match place? b with
      | none => .error (.invalidCharacter b)
      | some p =>
        if block.length < 7 then decodeFrom (block ++ [p]) rest
        else match closeFullBlock (block ++ [p]) with
          | .error e => .error e
          | .ok bytes => (decodeFrom [] rest).map (bytes ++ ·)

/-- The bytes that base64 text writes. -/
def decode (text : Bytes) : Except Base64Error Bytes := decodeFrom [] text

end PinnedLink.Pem.Base64
