import Outband.Decimal.Numeral
import Outband.Json.Basic
import Outband.Text.Hex
/-! What the plain scalars of YAML stand for. -/

namespace Outband.Yaml

def inBase (base : Nat) (digits : List Char) : Option Nat :=
  if digits.isEmpty then none
  else digits.foldlM (fun n c =>
    match Text.hexDigit? c with
    | some d => if d < base then some (base * n + d) else none
    | none => none) 0

def isSign (c : Char) : Bool := c == '+' || c == '-'

/-- A digit string that starts with a zero is a text. -/
def isZeroPadded (chars : List Char) : Bool :=
  let digits := match chars with
    | c :: rest => if isSign c then rest else chars
    | [] => []
  match digits with
  | '0' :: d :: rest => (d :: rest).all Char.isDigit
  | _ => false

/-- An integer in decimal, or in another base behind its marker. -/
def integer? (chars : List Char) : Option Int :=
  let (negative, body) := match chars with
    | '-' :: rest => (true, rest)
    | '+' :: rest => (false, rest)
    | chars => (false, chars)
  let magnitude := match body with
    | '0' :: 'x' :: digits => inBase 16 digits
    | '0' :: 'o' :: digits => inBase 8 digits
    | '0' :: 'b' :: digits => inBase 2 digits
    | digits => if isZeroPadded chars then none else inBase 10 digits
  magnitude.map fun n => if negative then -(n : Int) else n

/-- A number with at least one digit before its exponent, which is not infinite. -/
def float? (chars : List Char) : Option Json := do
  let (negative, body) := match chars with
    | '-' :: rest => (true, rest)
    | '+' :: rest => (false, rest)
    | chars => (false, chars)
  let s ← Numeral.ofChars? body
  if s.whole.isEmpty && (s.fraction.getD []).isEmpty then none
  else return .double negative (← s.double?)

/-- The spellings of infinity and of what is no number. -/
def isUnbounded (text : String) : Bool :=
  [".inf", ".Inf", ".INF", "+.inf", "+.Inf", "+.INF", "-.inf", "-.Inf", "-.INF", ".nan", ".NaN",
    ".NAN"].contains text

/-- The integer fits into that many bits, with a sign or without one. -/
def isWithin (bits : Nat) (n : Int) : Bool :=
  -(Nat.pow 2 (bits - 1) : Int) ≤ n && n < Nat.pow 2 bits

/-- The value of a plain scalar. Integers of 64 bits are kept, and those of up to 128 bits have no
value. -/
def resolve? (text : String) : Option Json :=
  let chars := text.toList
  if ["", "~", "null", "Null", "NULL"].contains text then some .null
  else if ["true", "True", "TRUE"].contains text then some (.bool true)
  else if ["false", "False", "FALSE"].contains text then some (.bool false)
  else
    let other : Json :=
      if isUnbounded text then .null
      else if isZeroPadded chars then .text text
      else (float? chars).getD (.text text)
    match integer? chars with
    | some n =>
      if isWithin 64 n then some (.int n)
      else if isWithin 128 n then none
      else some other
    | none => some other

end Outband.Yaml
