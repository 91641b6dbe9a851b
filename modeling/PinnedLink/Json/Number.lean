import PinnedLink.Json.Lexeme

/-!
# Numbers of a JSON text

A number that is written as an integer and fits 64 bits, with or without sign, is an integer; every
other number is a double.  A double comes from a significand below `2 ^ 64`, in which digits that do
not fit any more only count as places, times a power of ten, rounded at each step.

As with strings, a number is read or only passed over; what is left is never longer than what was
given (`length_readNumber_le`, `length_skipNumber_le`).
-/

namespace PinnedLink.Json

open Text (isDigit digitValue)

/-- A number as it is read. -/
inductive Number where
  | natural (n : Nat)
  | negative (n : Int)
  | real (x : Float)

/-- How a message shows a number. -/
def Number.found : Number → Found
  | .natural n => .integer n
  | .negative n => .integer n
  | .real x => .real x

/-- The digits at the front of a text and what is left. -/
def spanDigits (cs : List Char) : List Char × List Char :=
  (cs.takeWhile isDigit, cs.dropWhile isDigit)

theorem length_spanDigits_le (cs : List Char) : (spanDigits cs).2.length ≤ cs.length :=
  (List.dropWhile_sublist isDigit).length_le

/-- Takes digits into a number as long as it does not exceed a limit; the digits left over. -/
def accumulate (limit n : Nat) : List Char → Nat × List Char
  | [] => (n, [])
  | c :: cs =>
    if n * 10 + digitValue c ≤ limit then accumulate limit (n * 10 + digitValue c) cs
    else (n, c :: cs)

/-- The largest significand. -/
def maxSignificand : Nat := UInt64.size - 1

/-- The largest exponent that is read. -/
def maxExponent : Nat := 1 <<< 31 - 1

/-- A power of ten as a double. -/
def tenPower (e : Nat) : Float := Float.ofScientific 1 false e

/-- A double times a negative power of ten, given by its size. -/
def divTenPower (x : Float) (e : Nat) : Float :=
  if e ≤ 308 then x / tenPower e
  else if x == 0 then x
  else divTenPower (x / tenPower 308) (e - 308)
termination_by e

/-- A significand times a power of ten, unless that is too large for a double. -/
def scale? (significand : Nat) (exponent : Int) : Option Float :=
  let x := Float.ofNat significand
  if exponent < 0 then some (divTenPower x exponent.natAbs)
  else if exponent ≤ 308 then
    let scaled := x * tenPower exponent.toNat
    if scaled.isInf then none else some scaled
  else if significand = 0 then some x
  else none

/-- A double with a sign. -/
def signed (positive : Bool) (x : Float) : Float := if positive then x else -x

/-- The number of a significand and an exponent, in front of what is left. -/
def finishReal (positive : Bool) (significand : Nat) (exponent : Int) (rest : List Char) :
    Except Failure (Number × List Char) :=
  match scale? significand exponent with
  | some x => .ok (.real (signed positive x), rest)
  | none => .error (.here .numberOutOfRange rest)

theorem length_finishReal {positive : Bool} {significand : Nat} {exponent : Int}
    {cs rest : List Char} {n : Number}
    (h : finishReal positive significand exponent cs = .ok (n, rest)) : rest = cs := by
  unfold finishReal at h
  split at h
  · cases h; rfl
  · cases h

/-- The sign of an exponent, plus unless said otherwise. -/
def readSign : List Char → Bool × List Char
  | '+' :: rest => (true, rest)
  | '-' :: rest => (false, rest)
  | cs => (true, cs)

theorem length_readSign_le (cs : List Char) : (readSign cs).2.length ≤ cs.length := by
  unfold readSign
  split <;> simp

/-- Reads an exponent, behind its letter. -/
def readExponent (positive : Bool) (significand : Nat) (exponent : Int) (cs : List Char) :
    Except Failure (Number × List Char) :=
  let (up, cs) := readSign cs
  let (digits, rest) := spanDigits cs
  match digits, rest with
  | [], [] => .error (.here .eofInValue [])
  | [], rest => .error (.past .invalidNumber rest)
  | digits, rest =>
    match accumulate maxExponent 0 digits with
    | (e, []) => finishReal positive significand (if up then exponent + e else exponent - e) rest
    | (_, left) =>
      if significand ≠ 0 ∧ up then .error (.past .numberOutOfRange (left ++ rest))
      else .ok (.real (signed positive 0), rest)

theorem length_readExponent_le {positive : Bool} {significand : Nat} {exponent : Int}
    {cs rest : List Char} {n : Number}
    (h : readExponent positive significand exponent cs = .ok (n, rest)) :
    rest.length ≤ cs.length := by
  have hs := length_readSign_le cs
  have hd := length_spanDigits_le (readSign cs).2
  unfold readExponent at h
  simp only at h
  split at h
  · cases h
  · cases h
  · split at h
    · rw [length_finishReal h]; omega
    · split at h
      · cases h
      · cases h; omega

/-- Reads an exponent if there is one. -/
def readExponent? (positive : Bool) (significand : Nat) (exponent : Int) (cs : List Char) :
    Except Failure (Number × List Char) :=
  match cs with
  | 'e' :: rest | 'E' :: rest => readExponent positive significand exponent rest
  | cs => finishReal positive significand exponent cs

theorem length_readExponent?_le {positive : Bool} {significand : Nat} {exponent : Int}
    {cs rest : List Char} {n : Number}
    (h : readExponent? positive significand exponent cs = .ok (n, rest)) :
    rest.length ≤ cs.length := by
  unfold readExponent? at h
  split at h
  · exact Nat.le_succ_of_le (length_readExponent_le h)
  · exact Nat.le_succ_of_le (length_readExponent_le h)
  · exact Nat.le_of_eq (by rw [length_finishReal h])

/-- Reads the digits behind a point, and an exponent if there is one. -/
def readFraction (positive : Bool) (significand : Nat) (exponent : Int) (cs : List Char) :
    Except Failure (Number × List Char) :=
  let (digits, rest) := spanDigits cs
  match digits, rest with
  | [], [] => .error (.here .eofInValue [])
  | [], rest => .error (.past .invalidNumber rest)
  | digits, rest =>
    let (significand, left) := accumulate maxSignificand significand digits
    readExponent? positive significand (exponent - (digits.length - left.length)) rest

theorem length_readFraction_le {positive : Bool} {significand : Nat} {exponent : Int}
    {cs rest : List Char} {n : Number}
    (h : readFraction positive significand exponent cs = .ok (n, rest)) :
    rest.length ≤ cs.length := by
  have hd := length_spanDigits_le cs
  unfold readFraction at h
  simp only at h
  split at h
  · cases h
  · cases h
  · exact Nat.le_trans (length_readExponent?_le h) hd

/-- An integer of 64 bits with a sign; what does not fit, and minus zero, is a double. -/
def Number.ofInteger (positive : Bool) (n : Nat) : Number :=
  if positive then .natural n
  else if 1 ≤ n ∧ n ≤ 1 <<< 63 then .negative (-n)
  else .real (-(Float.ofNat n))

/-- What follows the digits in front of the point: `dropped` of them did not fit. -/
def readTail (positive : Bool) (significand dropped : Nat) (cs : List Char) :
    Except Failure (Number × List Char) :=
  match cs with
  | '.' :: rest => readFraction positive significand dropped rest
  | 'e' :: rest | 'E' :: rest => readExponent positive significand dropped rest
  | cs =>
    if dropped = 0 then .ok (.ofInteger positive significand, cs)
    else finishReal positive significand dropped cs

theorem length_readTail_le {positive : Bool} {significand dropped : Nat} {cs rest : List Char}
    {n : Number} (h : readTail positive significand dropped cs = .ok (n, rest)) :
    rest.length ≤ cs.length := by
  unfold readTail at h
  split at h
  · exact Nat.le_succ_of_le (length_readFraction_le h)
  · exact Nat.le_succ_of_le (length_readExponent_le h)
  · exact Nat.le_succ_of_le (length_readExponent_le h)
  · split at h
    · cases h; exact Nat.le_refl _
    · exact Nat.le_of_eq (by rw [length_finishReal h])

/-- The first character of a text is a digit. -/
def startsWithDigit (cs : List Char) : Bool := cs.head?.any isDigit

/-- Reads a number, behind its sign. -/
def readNumber (positive : Bool) (cs : List Char) : Except Failure (Number × List Char) :=
  match cs with
  | [] => .error (.here .eofInValue [])
  | '0' :: rest =>
    if startsWithDigit rest then .error (.past .invalidNumber rest)
    else readTail positive 0 0 rest
  | c :: rest =>
    if isDigit c then
      let (digits, rest) := spanDigits (c :: rest)
      let (significand, left) := accumulate maxSignificand 0 digits
      readTail positive significand left.length rest
    else .error (.past .invalidNumber (c :: rest))

theorem length_readNumber_le {positive : Bool} {cs rest : List Char} {n : Number}
    (h : readNumber positive cs = .ok (n, rest)) : rest.length ≤ cs.length := by
  unfold readNumber at h
  split at h
  · cases h
  · split at h
    · cases h
    · exact Nat.le_succ_of_le (length_readTail_le h)
  · split at h
    · exact Nat.le_trans (length_readTail_le h) (List.dropWhile_sublist isDigit).length_le
    · cases h

/-! ## Passing over numbers -/

/-- Passes over an exponent, behind its letter. -/
def skipExponent (cs : List Char) : Except Failure (List Char) :=
  let cs := (readSign cs).2
  let (digits, rest) := spanDigits cs
  if digits.isEmpty then .error (.past .invalidNumber rest) else .ok rest

theorem length_skipExponent_le {cs rest : List Char} (h : skipExponent cs = .ok rest) :
    rest.length ≤ cs.length := by
  unfold skipExponent at h
  simp only at h
  split at h
  · cases h
  · cases h
    exact Nat.le_trans (length_spanDigits_le _) (length_readSign_le _)

/-- Passes over an exponent if there is one. -/
def skipExponent? (cs : List Char) : Except Failure (List Char) :=
  match cs with
  | 'e' :: rest | 'E' :: rest => skipExponent rest
  | cs => .ok cs

theorem length_skipExponent?_le {cs rest : List Char} (h : skipExponent? cs = .ok rest) :
    rest.length ≤ cs.length := by
  unfold skipExponent? at h
  split at h
  · exact Nat.le_succ_of_le (length_skipExponent_le h)
  · exact Nat.le_succ_of_le (length_skipExponent_le h)
  · cases h; exact Nat.le_refl _

/-- Passes over what follows the digits in front of the point. -/
def skipTail (cs : List Char) : Except Failure (List Char) :=
  match cs with
  | '.' :: rest =>
    let (digits, rest) := spanDigits rest
    if digits.isEmpty then .error (.past .invalidNumber rest) else skipExponent? rest
  | cs => skipExponent? cs

theorem length_skipTail_le {cs rest : List Char} (h : skipTail cs = .ok rest) :
    rest.length ≤ cs.length := by
  unfold skipTail at h
  split at h
  · simp only at h
    split at h
    · cases h
    · exact Nat.le_succ_of_le
        (Nat.le_trans (length_skipExponent?_le h) (length_spanDigits_le _))
  · exact length_skipExponent?_le h

/-- Passes over a number, behind its sign. -/
def skipNumber (cs : List Char) : Except Failure (List Char) :=
  match cs with
  | '0' :: rest =>
    if startsWithDigit rest then .error (.past .invalidNumber rest) else skipTail rest
  | cs =>
    let (digits, rest) := spanDigits cs
    if digits.isEmpty then .error (.past .invalidNumber rest) else skipTail rest

theorem length_skipNumber_le {cs rest : List Char} (h : skipNumber cs = .ok rest) :
    rest.length ≤ cs.length := by
  unfold skipNumber at h
  split at h
  · split at h
    · cases h
    · exact Nat.le_succ_of_le (length_skipTail_le h)
  · simp only at h
    split at h
    · cases h
    · exact Nat.le_trans (length_skipTail_le h) (length_spanDigits_le _)

end PinnedLink.Json
