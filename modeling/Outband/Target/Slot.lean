/-! Slot numbers of a chassis. -/

namespace Outband

/-- A signed 32-bit number. Whether the chassis has such a slot is for its driver to say. -/
structure Slot where
  number : Int
  ge_min : -2147483648 ≤ number := by decide
  lt_max : number < 2147483648 := by decide
  deriving DecidableEq, Repr

namespace Slot

inductive Fault where
  | empty
  | badDigit
  | tooLarge
  | tooSmall
  deriving DecidableEq, Repr

def Fault.message : Fault → String
  | .empty => "cannot parse integer from empty string"
  | .badDigit => "invalid digit found in string"
  | .tooLarge => "number too large to fit in target type"
  | .tooSmall => "number too small to fit in target type"

def ofInt (n : Int) : Except Fault Slot :=
  if low : -2147483648 ≤ n then
    if high : n < 2147483648 then .ok ⟨n, low, high⟩ else .error .tooLarge
  else .error .tooSmall

/-- Reads digits from the left and stops at the first that is none or leaves the range. -/
def readDigits (negative : Bool) (slot : Slot) : List Char → Except Fault Slot
  | [] => .ok slot
  | c :: rest =>
    if c.isDigit then
      let digit : Int := c.toNat - '0'.toNat
      match ofInt (10 * slot.number + if negative then -digit else digit) with
      | .ok slot => readDigits negative slot rest
      | .error fault => .error fault
    else .error .badDigit

/-- An optional sign and decimal digits. -/
def ofChars : List Char → Except Fault Slot
  | [] => .error .empty
  | ['+'] | ['-'] => .error .badDigit
  | '+' :: rest => readDigits false ⟨0, by decide, by decide⟩ rest
  | '-' :: rest => readDigits true ⟨0, by decide, by decide⟩ rest
  | digits => readDigits false ⟨0, by decide, by decide⟩ digits

def ofText (text : String) : Except Fault Slot := ofChars text.toList

end Slot

end Outband
