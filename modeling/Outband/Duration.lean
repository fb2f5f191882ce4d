import Outband.Decimal.Digits
import Outband.Decimal.Double
/-! Durations as sleep actions give them: numbers with units, such as `300ms`, `-1.5h` or
`2h45m`. -/

namespace Outband.Duration

inductive Unit where
  | nanosecond
  | microsecond
  | millisecond
  | second
  | minute
  | hour
  deriving DecidableEq, Repr

namespace Unit

def nanos : Unit → Nat
  | .nanosecond => 1
  | .microsecond => 1000
  | .millisecond => 1000000
  | .second => 1000000000
  | .minute => 60 * 1000000000
  | .hour => 3600 * 1000000000

/-- The micro sign and the Greek letter both serve for microseconds. -/
def ofSymbol? (symbol : List Char) : Option Unit :=
  match symbol with
  | ['n', 's'] => some .nanosecond
  | ['u', 's'] | ['\u00b5', 's'] | ['\u03bc', 's'] => some .microsecond
  | ['m', 's'] => some .millisecond
  | ['s'] => some .second
  | ['m'] => some .minute
  | ['h'] => some .hour
  | _ => none

end Unit

inductive Fault where
  | invalid
  | missingUnit
  | unknownUnit
  deriving DecidableEq, Repr

def Fault.reason : Fault → String
  | .invalid => "invalid duration"
  | .missingUnit => "missing unit"
  | .unknownUnit => "unknown unit"

/-- A number and its unit, as written. -/
structure Term where
  whole : List Char
  fraction : List Char
  symbol : List Char
  deriving DecidableEq, Repr

/-- The first term of the text and what follows it. A unit reaches up to the next digit or point. -/
def cutTerm (s : List Char) : Term × List Char :=
  let afterWhole := s.dropWhile Char.isDigit
  let (fraction, afterFraction) :=
    match afterWhole with
    | '.' :: r => (r.takeWhile Char.isDigit, r.dropWhile Char.isDigit)
    | r => ([], r)
  let inUnit (c : Char) : Bool := !(c == '.' || c.isDigit)
  (⟨s.takeWhile Char.isDigit, fraction, afterFraction.takeWhile inUnit⟩,
    afterFraction.dropWhile inUnit)

theorem length_dropWhile_le (p : Char → Bool) (s : List Char) :
    (s.dropWhile p).length ≤ s.length := (s.dropWhile_sublist (p := p)).length_le

theorem length_dropWhile_lt {p : Char → Bool} {s : List Char} (h : s.takeWhile p ≠ []) :
    (s.dropWhile p).length < s.length := by
  have hlen := congrArg List.length (s.takeWhile_append_dropWhile (p := p))
  have hpos := List.length_pos_iff.mpr h
  rw [List.length_append] at hlen
  omega

/-- A term with a digit takes something from the text. -/
theorem length_cutTerm_lt {s : List Char}
    (h : ¬((cutTerm s).1.whole = [] ∧ (cutTerm s).1.fraction = [])) :
    (cutTerm s).2.length < s.length := by
  unfold cutTerm at h ⊢
  simp only at h ⊢
  split at h
  · next r heq =>
    have h1 := length_dropWhile_le Char.isDigit s
    have h2 := length_dropWhile_le Char.isDigit r
    have h3 := length_dropWhile_le (fun c => !(c == '.' || c.isDigit)) (r.dropWhile Char.isDigit)
    rw [heq, List.length_cons] at h1
    simp only
    omega
  · next heq =>
    have h1 := length_dropWhile_lt (p := Char.isDigit) (s := s) (by simpa using h)
    have h2 := length_dropWhile_le (fun c => !(c == '.' || c.isDigit)) (s.dropWhile Char.isDigit)
    simp only
    omega

/-- The nanoseconds in a fraction of a unit. The fraction is read as the double nearest to it and
multiplied as a double, and the product loses what lies behind its point. -/
def fractionNanos (digits : List Char) (unit : Unit) : Nat :=
  let product := do
    let fraction ← Double.ofRatio? (Decimal.value digits) (Nat.pow 10 digits.length)
    fraction.mul? (← Double.ofNat? unit.nanos)
  (product.map Double.floor).getD 0

/-- Intermediate sums stay below this bound. -/
def sumBound : Nat := Nat.pow 2 128

/-- The sum with one more term added. -/
def addTerm (sum : Nat) (term : Term) : Except Fault Nat :=
  match term.symbol with
  | [] => .error .missingUnit
  | symbol =>
    match Unit.ofSymbol? symbol with
    | none => .error .unknownUnit
    | some unit =>
      let sum := sum + Decimal.value term.whole * unit.nanos
      if sumBound ≤ sum then .error .invalid
      else
        let sum := sum + fractionNanos term.fraction unit
        if sumBound ≤ sum then .error .invalid else .ok sum

def sumTerms (sum : Nat) (s : List Char) : Except Fault Nat :=
  if s = [] then .ok sum
  else if _h : (cutTerm s).1.whole = [] ∧ (cutTerm s).1.fraction = [] then .error .invalid
  else
    match addTerm sum (cutTerm s).1 with
    | .error fault => .error fault
    | .ok sum => sumTerms sum (cutTerm s).2
  termination_by s.length
  decreasing_by exact length_cutTerm_lt _h

/-- The sign in front, true for a minus, and the rest. -/
def cutSign : List Char → Bool × List Char
  | '-' :: rest => (true, rest)
  | '+' :: rest => (false, rest)
  | s => (false, s)

/-- Sums are signed 64-bit numbers of nanoseconds. -/
def limit (negative : Bool) : Nat := if negative then UInt64.size / 2 else UInt64.size / 2 - 1

/-- Nanoseconds of the duration. A negative one lasts no time. -/
def parseChars (s : List Char) : Except Fault Nat :=
  let (negative, rest) := cutSign s
  if rest = ['0'] then .ok 0
  else if rest = [] then .error .invalid
  else
    match sumTerms 0 rest with
    | .error fault => .error fault
    | .ok sum =>
      if limit negative < sum then .error .invalid
      else .ok (if negative then 0 else sum)

end Outband.Duration

namespace Outband

/-- Text that is no duration, and why. -/
structure DurationError where
  input : String
  fault : Duration.Fault
  deriving DecidableEq, Repr

/-- Nanoseconds of a duration. -/
def Duration.parse (input : String) : Except DurationError Nat :=
  match parseChars input.toList with
  | .ok nanos => .ok nanos
  | .error fault => .error ⟨input, fault⟩

end Outband
