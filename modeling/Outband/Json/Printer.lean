import Outband.Json.Basic
import Outband.Decimal.Shortest
/-! JSON text: the compact form, and the form with one item to a line. -/

namespace Outband.Json

/-- How doubles are written. Positional notation serves while the first digit stands between the
fifth decimal place and the sixteenth whole place. -/
structure DoubleFormat where
  lowestPower : Int
  highestPower : Int

def doubleFormat : DoubleFormat := ⟨-5, 15⟩

/-- Digits in positional notation, with at least one on each side of the point. -/
def positional (digits : List Char) (power : Int) : List Char :=
  if power < 0 then
    '0' :: '.' :: List.replicate (-power - 1).toNat '0' ++ digits
  else
    let whole := power.toNat + 1
    let padded := digits ++ List.replicate (whole - digits.length) '0'
    let fraction := padded.drop whole
    padded.take whole ++ '.' :: (if fraction.isEmpty then ['0'] else fraction)

/-- Digits with a point after the first and the power of ten behind an `e`. -/
def exponential (digits : List Char) (power : Int) : List Char :=
  let rest := digits.drop 1
  digits.take 1 ++ (if rest.isEmpty then [] else '.' :: rest) ++
    'e' :: (if power < 0 then '-' else '+') :: Nat.toDigits 10 power.natAbs

def doubleText (negative : Bool) (magnitude : Double) : String :=
  let body :=
    if magnitude.mantissa == 0 then ['0', '.', '0']
    else
      let s := magnitude.shortest
      let all := Nat.toDigits 10 s.digits
      let digits := (all.reverse.dropWhile (· == '0')).reverse
      let power := s.exponent + (all.length - 1 : Nat)
      if doubleFormat.lowestPower ≤ power && power ≤ doubleFormat.highestPower then
        positional digits power
      else exponential digits power
  String.ofList (if negative then '-' :: body else body)

def escapedChar (c : Char) : List Char :=
  match c with
  | '"' => ['\\', '"']
  | '\\' => ['\\', '\\']
  | '\n' => ['\\', 'n']
  | '\r' => ['\\', 'r']
  | '\t' => ['\\', 't']
  | '\x08' => ['\\', 'b']
  | '\x0c' => ['\\', 'f']
  | c =>
    if c.toNat < 0x20 then
      ['\\', 'u', '0', '0', Nat.digitChar (c.toNat / 16), Nat.digitChar (c.toNat % 16)]
    else [c]

def textLiteral (s : String) : String :=
  String.ofList ('"' :: s.toList.flatMap escapedChar ++ ['"'])

mutual

/-- The compact form, members in the order the value holds them. -/
def compact : Json → String
  | .null => "null"
  | .bool b => if b then "true" else "false"
  | .int n => toString n
  | .double negative magnitude => doubleText negative magnitude
  | .text s => textLiteral s
  | .array items => "[" ++ ",".intercalate (compactItems items) ++ "]"
  | .object members => "\x7b" ++ ",".intercalate (compactMembers members) ++ "\x7d"

def compactItems : List Json → List String
  | [] => []
  | item :: rest => item.compact :: compactItems rest

def compactMembers : List (String × Json) → List String
  | [] => []
  | (name, value) :: rest => (textLiteral name ++ ":" ++ value.compact) :: compactMembers rest

end

/-- Items between brackets, each on its own line two spaces further in. -/
def block (opening closing indent : String) (items : List String) : String :=
  if items.isEmpty then opening ++ closing
  else
    let inner := indent ++ "  "
    opening ++ "\n" ++ ",\n".intercalate (items.map (inner ++ ·)) ++ "\n" ++ indent ++ closing

mutual

def prettyFrom (indent : String) : Json → String
  | .array items => block "[" "]" indent (prettyItems (indent ++ "  ") items)
  | .object members => block "\x7b" "\x7d" indent (prettyMembers (indent ++ "  ") members)
  | scalar => scalar.compact

def prettyItems (indent : String) : List Json → List String
  | [] => []
  | item :: rest => item.prettyFrom indent :: prettyItems indent rest

def prettyMembers (indent : String) : List (String × Json) → List String
  | [] => []
  | (name, value) :: rest =>
    (textLiteral name ++ ": " ++ value.prettyFrom indent) :: prettyMembers indent rest

end

def pretty (value : Json) : String := value.prettyFrom ""

end Outband.Json
