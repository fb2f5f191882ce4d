import Outband.Decimal.Double
/-! The fewest decimal digits that read back as a given double. -/

namespace Outband.Double

/-- The real numbers that round to a positive double lie between two bounds, given here over one
denominator. Both bounds round to it iff its mantissa is even. -/
structure Interval where
  low : Nat
  value : Nat
  high : Nat
  den : Nat
  closed : Bool

/-- Half the distance to the neighbour on each side. Below a power of two the doubles lie twice as
close. -/
def interval (x : Double) : Interval :=
  let (unit, den) := ratio ⟨1, x.exponent⟩
  let below := if x.mantissa == minFull && -1074 < x.exponent then 1 else 2
  { low := (4 * x.mantissa - below) * unit
    value := 4 * x.mantissa * unit
    high := (4 * x.mantissa + 2) * unit
    den := 4 * den
    closed := x.mantissa % 2 == 0 }

def Interval.contains (i : Interval) (num den : Nat) : Bool :=
  let (low, point, high) := (i.low * den, num * i.den, i.high * den)
  if i.closed then low ≤ point && point ≤ high else low < point && point < high

/-- Digits read as a natural number, times a power of ten. -/
structure Scientific where
  digits : Nat
  exponent : Int
  deriving DecidableEq, Repr

def Scientific.ratio (s : Scientific) : Nat × Nat :=
  if 0 ≤ s.exponent then (s.digits * Nat.pow 10 s.exponent.toNat, 1)
  else (s.digits, Nat.pow 10 (-s.exponent).toNat)

/-- The power of ten of the first digit. -/
def leadingPower (num den : Nat) : Int :=
  if den ≤ num then (Nat.toDigits 10 (num / den)).length - 1
  else -(((List.range 400).find? fun k => den ≤ num * Nat.pow 10 k).getD 0 : Nat)

/-- Of the two neighbours of the value on the grid of that many digits, the one that rounds to it,
and the nearer of two. -/
def onGrid? (i : Interval) (power : Int) (digits : Nat) : Option Scientific :=
  let exponent := power - (digits - 1 : Nat)
  let (num, den) := if 0 ≤ exponent then (i.value, i.den * Nat.pow 10 exponent.toNat)
    else (i.value * Nat.pow 10 (-exponent).toNat, i.den)
  let down := num / den
  let rest := num % den
  let fits (n : Nat) : Bool :=
    let (a, b) := Scientific.ratio ⟨n, exponent⟩
    i.contains a b
  match fits down, fits (down + 1) with
  | true, true =>
    let up := den < 2 * rest || (2 * rest == den && down % 2 == 1)
    some ⟨if up then down + 1 else down, exponent⟩
  | true, false => some ⟨down, exponent⟩
  | false, true => some ⟨down + 1, exponent⟩
  | false, false => none

/-- The shortest digits of a positive double. Seventeen always suffice. -/
def shortest (x : Double) : Scientific :=
  let i := x.interval
  let power := leadingPower i.value i.den
  ((List.range 17).findSome? fun n => onGrid? i power (n + 1)).getD ⟨0, 0⟩

end Outband.Double
