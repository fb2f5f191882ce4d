import Outband.Decimal.Digits
import Outband.Decimal.Double
/-! Numbers written with digits, a point and a power of ten. -/

namespace Outband

/-- The double nearest to `significand * 10 ^ power`. Powers that are out of reach either way are
settled first. -/
def Double.ofDecimal? (significand : Nat) (power : Int) : Option Double :=
  if significand == 0 then some zero
  else if 310 < power then none
  else if power + (Nat.toDigits 10 significand).length < -330 then some zero
  else if 0 ≤ power then ofRatio? (significand * Nat.pow 10 power.toNat) 1
  else ofRatio? significand (Nat.pow 10 (-power).toNat)

/-- A number without its sign, in parts. -/
structure Numeral where
  whole : List Char
  /-- The digits after the point, if there is a point. -/
  fraction : Option (List Char)
  /-- Whether the exponent is negative, and its digits, if there is one. -/
  exponent : Option (Bool × List Char)
  deriving DecidableEq, Repr

namespace Numeral

/-- The exponent that the text after the digits stands for. There has to be one, to the end. -/
def exponent? : List Char → Option (Bool × List Char)
  | e :: rest =>
    let (negative, digits) := match rest with
      | '-' :: digits => (true, digits)
      | '+' :: digits => (false, digits)
      | digits => (false, digits)
    if (e == 'e' || e == 'E') && !digits.isEmpty && digits.all Char.isDigit then
      some (negative, digits)
    else none
  | [] => none

/-- Reads the whole text. Either side of the point may be empty. -/
def ofChars? (chars : List Char) : Option Numeral :=
  let whole := chars.takeWhile Char.isDigit
  let afterWhole := chars.drop whole.length
  let (fraction, rest) := match afterWhole with
    | '.' :: more => (some (more.takeWhile Char.isDigit), more.dropWhile Char.isDigit)
    | more => (none, more)
  match rest with
  | [] => some ⟨whole, fraction, none⟩
  | rest => (exponent? rest).map fun e => ⟨whole, fraction, some e⟩

/-- The nearest double, if the number is not too large. -/
def double? (s : Numeral) : Option Double :=
  let places := (s.fraction.getD []).length
  let power : Int := match s.exponent with
    | some (true, digits) => -Decimal.value digits
    | some (false, digits) => Decimal.value digits
    | none => 0
  Double.ofDecimal? (Decimal.value (s.whole ++ s.fraction.getD [])) (power - places)

end Numeral

end Outband
