import PinnedLink.X509.Element

/-!
# Times in certificates

A time is written with a two-digit year (tag `UTCTime`) or a four-digit one (tag
`GeneralizedTime`).  Only whether a time is well formed matters here: the seconds may be missing,
the day has to exist, and a time of the second kind ends in `Z`.
-/

namespace PinnedLink.X509.Time

/-- A byte is an ASCII digit. -/
def isDigit (b : UInt8) : Bool := 0x30 ≤ b && b ≤ 0x39

/-- A byte that a time may hold at all. -/
def isVisible (b : UInt8) : Bool := 0x20 ≤ b && b ≤ 0x7f

/-- Reads two digits. -/
def readTwo : Bytes → Option (Nat × Bytes)
  | a :: b :: rest =>
    if isDigit a && isDigit b then some (10 * (a.toNat - 48) + (b.toNat - 48), rest) else none
  | _ => none

/-- Reads the seconds; they are missing where fewer than two bytes are left. -/
def readSeconds : Bytes → Option (Nat × Bytes)
  | [] => none
  | [b] => some (0, [b])
  | bytes => readTwo bytes

/-- Days of a month. -/
def daysIn (year month : Nat) : Nat :=
  if month = 2 then
    if year % 4 = 0 ∧ (year % 100 ≠ 0 ∨ year % 400 = 0) then 29 else 28
  else if month = 4 ∨ month = 6 ∨ month = 9 ∨ month = 11 then 30
  else 31

/-- A day that exists. -/
def isDay (year month day : Nat) : Bool :=
  1 ≤ month && month ≤ 12 && 1 ≤ day && day ≤ daysIn year month

/-- Reads month, day, hour, minute and seconds; what is left if they are in range. -/
def readRest (year : Nat) (bytes : Bytes) : Option Bytes := do
  let (month, bytes) ← readTwo bytes
  let (day, bytes) ← readTwo bytes
  let (hour, bytes) ← readTwo bytes
  let (minute, bytes) ← readTwo bytes
  let (second, bytes) ← readSeconds bytes
  if isDay year month day && hour ≤ 23 && minute ≤ 59 && second ≤ 59 then some bytes else none

/-- A time zone: `Z`, or a sign, hours and minutes. -/
def isZone : Bytes → Bool
  | [0x5a] => true
  | sign :: offset =>
    (sign == 0x2b || sign == 0x2d) &&
      match readTwo offset with
      | some (hours, rest) =>
        match readTwo rest with
        | some (minutes, []) => hours ≤ 25 && minutes ≤ 59
        | _ => false
      | none => false
  | [] => false

/-- A fraction of up to three digits and a final `Z`, or `Z` alone. -/
def isFractionAndZone : Bytes → Bool
  | 0x2e :: rest =>
    let digits := rest.takeWhile isDigit
    digits.length ≤ 3 && rest.drop digits.length == [0x5a]
  | bytes => bytes == [0x5a]

/-- A well-formed time with a two-digit year. -/
def isShort (bytes : Bytes) : Bool :=
  bytes.all isVisible &&
    match readTwo bytes with
    | some (year, bytes) => (readRest year bytes).any isZone
    | none => false

/-- A well-formed time with a four-digit year. -/
def isLong (bytes : Bytes) : Bool :=
  bytes.all isVisible &&
    match readTwo bytes with
    | some (century, bytes) =>
      match readTwo bytes with
      | some (year, bytes) => (readRest (100 * century + year) bytes).any isFractionAndZone
      | none => false
    | none => false

/-- Passes over a time. -/
def read (bytes : Bytes) : Except ParseError Bytes :=
  match readElement bytes with
  | .ok (e, rest) =>
    if e.tag = Tag.utcTime ∧ isShort e.content ∨ e.tag = Tag.generalizedTime ∧ isLong e.content then
      .ok rest
    else .error (.fault .date)
  | .error _ => .error (.fault .date)

end PinnedLink.X509.Time
