/-!
# Shortest decimal texts of binary fractions

A double is `m * 2 ^ q` for a natural number `m` below `2 ^ 53`.  Every real number nearer to it
than to its neighbours reads back as it; `Shortest.digits` finds the decimal with the fewest digits
among them and, of those, the nearest.  All arithmetic is on natural numbers.

`Style` holds what a format decides beyond the digits: which exponents are written without one, and
how an exponent is written.
-/

namespace PinnedLink.Decimal

/-- The decimal `digits * 10 ^ exponent`. -/
structure Scaled where
  digits : Nat
  exponent : Int
deriving DecidableEq, Repr

/-- A positive fraction of natural numbers. -/
structure Ratio where
  num : Nat
  den : Nat

/-- `n * 2 ^ q` as a fraction. -/
def Ratio.ofBinary (n : Nat) (q : Int) : Ratio :=
  if 0 ≤ q then ⟨n <<< q.toNat, 1⟩ else ⟨n, 1 <<< (-q).toNat⟩

/-- `n * 10 ^ e` is at most the fraction. -/
def Ratio.geDecimal (r : Ratio) (n : Nat) (e : Int) : Bool :=
  if 0 ≤ e then n * Nat.pow 10 e.toNat * r.den ≤ r.num
  else n * r.den ≤ r.num * Nat.pow 10 (-e).toNat

/-- `n * 10 ^ e` is at least the fraction. -/
def Ratio.leDecimal (r : Ratio) (n : Nat) (e : Int) : Bool :=
  if 0 ≤ e then r.num ≤ n * Nat.pow 10 e.toNat * r.den
  else r.num * Nat.pow 10 (-e).toNat ≤ n * r.den

/-- The largest `n` with `n * 10 ^ e` at most the fraction. -/
def Ratio.floorAt (r : Ratio) (e : Int) : Nat :=
  if 0 ≤ e then r.num / (r.den * Nat.pow 10 e.toNat) else r.num * Nat.pow 10 (-e).toNat / r.den

/-- Number of decimal digits. -/
def digitCount (n : Nat) : Nat := (Nat.toDigits 10 n).length

/-- The exponent `k` with `10 ^ k ≤ r < 10 ^ (k + 1)`. -/
def Ratio.magnitude (r : Ratio) : Int :=
  let guess : Int := digitCount r.num - digitCount r.den
  if r.geDecimal 1 guess then guess else guess - 1

/-- The reals that read back as a double: twice its neighbours' midpoints and twice itself, and
whether the midpoints belong. -/
structure Interval where
  low : Ratio
  value : Ratio
  high : Ratio
  closed : Bool

/-- A decimal is inside an interval. -/
def Interval.contains (i : Interval) (n : Nat) (e : Int) : Bool :=
  if i.closed then i.low.leDecimal n e && i.high.geDecimal n e
  else !i.low.geDecimal n e && !i.high.leDecimal n e

/-- Of two adjacent grid points around the value, the upper one is the nearer.  An exact tie goes to
the even one. -/
def Interval.upperIsNearer (i : Interval) (n : Nat) (e : Int) : Bool :=
  let twice : Ratio := ⟨2 * i.value.num, i.value.den⟩
  let mid := 2 * n + 1
  if twice.geDecimal mid e && twice.leDecimal mid e then n % 2 = 1 else twice.geDecimal mid e

/-- The nearest grid point inside the interval on the grid of spacing `10 ^ e`, if there is one. -/
def Interval.onGrid? (i : Interval) (e : Int) : Option Scaled :=
  let n := i.value.floorAt e
  match i.contains n e, i.contains (n + 1) e with
  | true, true => some ⟨if i.upperIsNearer n e then n + 1 else n, e⟩
  | true, false => some ⟨n, e⟩
  | false, true => some ⟨n + 1, e⟩
  | false, false => none

/-- The shortest decimal of a positive double `m * 2 ^ q`.  The lower neighbour is half as far off
where `m` is a power of two that begins a binade. -/
def shortest (m : Nat) (q : Int) (lowerIsNear : Bool) : Scaled :=
  let interval : Interval :=
    { low := Ratio.ofBinary (4 * m - if lowerIsNear then 1 else 2) (q - 2)
      value := Ratio.ofBinary m q
      high := Ratio.ofBinary (4 * m + 2) (q - 2)
      closed := m % 2 = 0 }
  let top := interval.value.magnitude
  ((List.range 17).findSome? fun (k : Nat) => interval.onGrid? (top - (k : Int))).getD
    ⟨interval.value.floorAt (top - 16), top - 16⟩

/-- What a format decides about the text of a number. -/
structure Style where
  /-- Smallest decimal exponent of the first digit that is written in full. -/
  minFull : Int
  /-- Largest decimal exponent of the first digit that is written in full. -/
  maxFull : Int
  /-- Fewest digits of an exponent. -/
  exponentDigits : Nat
  /-- A plus sign stands before an exponent that is not negative. -/
  plusSign : Bool

/-- Zeros in front of a text, up to a width. -/
def padLeft (width : Nat) (cs : List Char) : List Char :=
  List.replicate (width - cs.length) '0' ++ cs

/-- The text of a positive decimal in a style.  A whole number written in full gets `.0`. -/
def Style.write (style : Style) (d : Scaled) : List Char :=
  let ds := Nat.toDigits 10 d.digits
  let first : Int := d.exponent + ds.length - 1
  if style.minFull ≤ first ∧ first ≤ style.maxFull then
    if 0 ≤ d.exponent then ds ++ List.replicate d.exponent.toNat '0' ++ ['.', '0']
    else if 0 ≤ first then
      ds.take (first.toNat + 1) ++ '.' :: ds.drop (first.toNat + 1)
    else '0' :: '.' :: (List.replicate (-first - 1).toNat '0' ++ ds)
  else
    let mantissa := match ds with
      | [d] => [d]
      | d :: rest => d :: '.' :: rest
      | [] => []
    let sign := if first < 0 then ['-'] else if style.plusSign then ['+'] else []
    mantissa ++ 'e' :: (sign ++ padLeft style.exponentDigits (Nat.toDigits 10 first.natAbs))

/-- Trailing zeros moved from the digits into the exponent. -/
def Scaled.stripZeros (d : Scaled) : Scaled :=
  if h : d.digits ≠ 0 ∧ d.digits % 10 = 0 then
    Scaled.stripZeros ⟨d.digits / 10, d.exponent + 1⟩
  else d
termination_by d.digits
decreasing_by
  show d.digits / 10 < d.digits
  omega

/-- The text of a finite double given by its bits: sign, exponent field, fraction field. -/
def Style.writeBits (style : Style) (negative : Bool) (exponent fraction : Nat) : String :=
  let magnitude :=
    if exponent = 0 ∧ fraction = 0 then ['0', '.', '0']
    else
      let m := if exponent = 0 then fraction else fraction + 1 <<< 52
      let q : Int := (if exponent = 0 then 1 else exponent) - 1075
      style.write (shortest m q (fraction = 0 ∧ 1 < exponent)).stripZeros
  String.ofList (if negative then '-' :: magnitude else magnitude)

/-- The text of a finite double. -/
def Style.writeFloat (style : Style) (x : Float) : String :=
  let bits := x.toBits.toNat
  style.writeBits (1 <<< 63 ≤ bits) (bits >>> 52 % 2048) (bits % (1 <<< 52))

end PinnedLink.Decimal
