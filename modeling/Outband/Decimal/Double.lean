/-! Double-precision numbers as exact integers: rounding a ratio to the nearest one, and the
arithmetic that rounds its result. -/

namespace Outband

/-- A finite double without its sign, `mantissa * 2 ^ exponent`. -/
structure Double where
  mantissa : Nat
  exponent : Int
  deriving DecidableEq, Repr

namespace Double

def zero : Double := ⟨0, -1074⟩

/-- The smallest mantissa that fills all of its bits. -/
def minFull : Nat := Nat.pow 2 52

/-- The nearest integer to `num / den`, the even one of two. -/
def roundDiv (num den : Nat) : Nat :=
  let q := num / den
  let r := num % den
  if den < 2 * r || (2 * r == den && q % 2 == 1) then q + 1 else q

/-- The quotient `num / den` in units of `2 ^ exponent`, still as a ratio. -/
def scale (num den : Nat) (exponent : Int) : Nat × Nat :=
  if 0 ≤ exponent then (num, den * Nat.pow 2 exponent.toNat)
  else (num * Nat.pow 2 (-exponent).toNat, den)

/-- The exponent at which a positive ratio fills the 53 bits of the mantissa, or the smallest one
there is. -/
def fittingExponent (num den : Nat) : Int :=
  let guess : Int := num.log2 - den.log2 - 52
  let (n, d) := scale num den guess
  max (if n / d < minFull then guess - 1 else guess) (-1074)

/-- The double nearest to `num / den`, the one with the even mantissa of two. There is none when
the ratio is too large. -/
def ofRatio? (num den : Nat) : Option Double :=
  if num == 0 then some zero
  else
    let exponent := fittingExponent num den
    let (n, d) := scale num den exponent
    let mantissa := roundDiv n d
    let rounded : Double :=
      if mantissa == 2 * minFull then ⟨minFull, exponent + 1⟩ else ⟨mantissa, exponent⟩
    if rounded.exponent ≤ 971 then some rounded else none

def ofNat? (n : Nat) : Option Double := ofRatio? n 1

/-- The double as numerator and denominator. -/
def ratio (x : Double) : Nat × Nat :=
  if 0 ≤ x.exponent then (x.mantissa * Nat.pow 2 x.exponent.toNat, 1)
  else (x.mantissa, Nat.pow 2 (-x.exponent).toNat)

def mul? (x y : Double) : Option Double :=
  ofRatio? (x.ratio.1 * y.ratio.1) (x.ratio.2 * y.ratio.2)

def div? (x y : Double) : Option Double :=
  ofRatio? (x.ratio.1 * y.ratio.2) (x.ratio.2 * y.ratio.1)

def floor (x : Double) : Nat := x.ratio.1 / x.ratio.2

end Double

end Outband
