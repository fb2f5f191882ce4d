import Outband.Json.Basic
import Outband.Text.Hex
/-! The tokens of JSON text. Scanning stops at the first piece that is no token. -/

namespace Outband.Json

/-- A value that a number or text token stands for is `none` when the token is well formed but has
no such value: a number out of range, a lone surrogate, bytes that are not UTF-8. -/
inductive Token where
  | openObject
  | closeObject
  | openArray
  | closeArray
  | comma
  | colon
  | null
  | bool (value : Bool)
  | number (value : Option Json)
  | text (value : Option String)
  | broken
  deriving Repr

def isDigit (b : UInt8) : Bool := 0x30 ≤ b && b ≤ 0x39

def digitsValue (digits : Bytes) : Nat :=
  digits.foldl (fun n d => 10 * n + (d.toNat - 0x30)) 0

def maxUnsigned : Nat := UInt64.size - 1

/-! Numbers that are not 64-bit integers are scaled by one power of ten, after as many leading
digits as 64 bits hold. -/

private def divideDown : Nat → Double → Nat → Option Double
  | 0, _, _ => some Double.zero
  | fuel + 1, x, power =>
    if power ≤ 308 then do x.div? (← Double.ofNat? (Nat.pow 10 power))
    else if x.mantissa == 0 then some x
    else do divideDown fuel (← x.div? (← Double.ofNat? (Nat.pow 10 308))) (power - 308)

/-- The double for `significand * 10 ^ power`, by one multiplication or by divisions that each
round. After four of the latter nothing is left. -/
def scaled? (significand : Nat) (power : Int) : Option Double := do
  let x ← Double.ofNat? significand
  if 0 ≤ power then
    if power ≤ 308 then x.mul? (← Double.ofNat? (Nat.pow 10 power.toNat))
    else if significand == 0 then some Double.zero
    else none
  else divideDown 5 x (-power).toNat

/-- The value of the digits as far as they fit into 64 bits, and how many were left out. -/
def takeFitting (value : Nat) : Bytes → Nat × Nat
  | [] => (value, 0)
  | d :: rest =>
    let next := 10 * value + (d.toNat - 0x30)
    if next ≤ maxUnsigned then takeFitting next rest else (value, rest.length + 1)

/-- The exponent as written, kept within bounds that no number comes back from. -/
def exponentValue (negative : Bool) (digits : Bytes) : Int :=
  let n : Int := min (digitsValue digits) (UInt32.size : Nat)
  if negative then -n else n

/-- The value of a number in parts: whole digits, fraction digits if there is a point, exponent if
there is one. -/
def numberValue (negative : Bool) (whole : Bytes) (fraction : Option Bytes)
    (exponent : Option Int) : Option Json :=
  let (value, dropped) := takeFitting 0 whole
  if fraction.isNone && exponent.isNone && dropped == 0 then
    if !negative then some (.int value)
    else if value == 0 || UInt64.size / 2 < value then
      (Double.ofNat? value).map (.double true)
    else some (.int (-value))
  else
    let (significand, unread) := takeFitting value (fraction.getD [])
    let places := (fraction.getD []).length - unread
    let power : Int := (dropped : Int) - places + exponent.getD 0
    (scaled? significand power).map (.double negative)

/-- A number token at the start of the bytes, and how many bytes it takes. -/
def numberToken (bytes : Bytes) : Token × Nat :=
  let negative := bytes.head? == some 0x2D
  let afterSign := if negative then bytes.drop 1 else bytes
  let whole := afterSign.takeWhile isDigit
  let afterWhole := afterSign.drop whole.length
  let badWhole := whole.isEmpty || (whole.head? == some 0x30 && whole.length != 1)
  let hasPoint := afterWhole.head? == some 0x2E
  let fraction := if hasPoint then (afterWhole.drop 1).takeWhile isDigit else []
  let afterFraction := if hasPoint then afterWhole.drop (1 + fraction.length) else afterWhole
  let hasExponent := afterFraction.head? == some 0x65 || afterFraction.head? == some 0x45
  let afterE := afterFraction.drop 1
  let signed := hasExponent && (afterE.head? == some 0x2B || afterE.head? == some 0x2D)
  let afterExponentSign := if signed then afterE.drop 1 else afterE
  let power := if hasExponent then afterExponentSign.takeWhile isDigit else []
  if badWhole || (hasPoint && fraction.isEmpty) || (hasExponent && power.isEmpty) then (.broken, 0)
  else
    let exponent := if hasExponent then some (exponentValue (afterE.head? == some 0x2D) power)
      else none
    let used := (if negative then 1 else 0) + whole.length +
      (if hasPoint then 1 + fraction.length else 0) +
      (if hasExponent then 1 + (if signed then 1 else 0) + power.length else 0)
    (.number (numberValue negative whole (if hasPoint then some fraction else none) exponent), used)

/-- The bytes up to the closing quote, escapes unread. A control character may not stand there. -/
def textBody? : Bytes → Option Bytes
  | [] => none
  | 0x22 :: _ => some []
  | 0x5C :: b :: rest => (textBody? rest).map fun body => 0x5C :: b :: body
  | b :: rest => if b < 0x20 then none else (textBody? rest).map (b :: ·)

/-- A piece of a text: a byte, or a UTF-16 unit given by its number. -/
inductive Piece where
  | byte (b : UInt8)
  | unit (n : Nat)

private def hexValue? (a b c d : UInt8) : Option Nat := do
  let digit (x : UInt8) := Text.hexDigit? (Char.ofNat x.toNat)
  return ((16 * (← digit a) + (← digit b)) * 16 + (← digit c)) * 16 + (← digit d)

def pieces? : Bytes → Option (List Piece)
  | [] => some []
  | 0x5C :: 0x75 :: a :: b :: c :: d :: rest => do
    return .unit (← hexValue? a b c d) :: (← pieces? rest)
  | 0x5C :: e :: rest => do
    let b ← match Char.ofNat e.toNat with
      | '"' => some 0x22
      | '\\' => some 0x5C
      | '/' => some 0x2F
      | 'b' => some 0x08
      | 'f' => some 0x0C
      | 'n' => some 0x0A
      | 'r' => some 0x0D
      | 't' => some 0x09
      | _ => none
    return .byte b :: (← pieces? rest)
  | [0x5C] => none
  | b :: rest => (pieces? rest).map (.byte b :: ·)

/-- The bytes that the pieces stand for. A surrogate needs its partner. -/
def joinPieces? : List Piece → Option Bytes
  | [] => some []
  | .byte b :: rest => (joinPieces? rest).map (b :: ·)
  | .unit high :: .unit low :: rest =>
    if 0xD800 ≤ high && high ≤ 0xDBFF then
      if 0xDC00 ≤ low && low ≤ 0xDFFF then
        let c := Char.ofNat (0x10000 + (high - 0xD800) * 0x400 + (low - 0xDC00))
        (joinPieces? rest).map (Text.bytesOf (String.singleton c) ++ ·)
      else none
    else if 0xDC00 ≤ high && high ≤ 0xDFFF then none
    else (joinPieces? (.unit low :: rest)).map
      (Text.bytesOf (String.singleton (Char.ofNat high)) ++ ·)
  | .unit n :: rest =>
    if 0xD800 ≤ n && n ≤ 0xDFFF then none
    else (joinPieces? rest).map (Text.bytesOf (String.singleton (Char.ofNat n)) ++ ·)

def textToken (bytes : Bytes) : Token × Nat :=
  match textBody? bytes with
  | none => (.broken, 0)
  | some body =>
    match pieces? body with
    | none => (.broken, 0)
    | some pieces => (.text (joinPieces? pieces >>= Text.decode?), body.length + 1)

/-- The token that starts with a byte, and how many of the bytes after it belong to it. -/
def token (first : UInt8) (rest : Bytes) : Token × Nat :=
  match Char.ofNat first.toNat with
  | '\x7b' => (.openObject, 0)
  | '\x7d' => (.closeObject, 0)
  | '[' => (.openArray, 0)
  | ']' => (.closeArray, 0)
  | ',' => (.comma, 0)
  | ':' => (.colon, 0)
  | '"' => textToken rest
  | 'n' => if rest.take 3 == Text.bytesOf "ull" then (.null, 3) else (.broken, 0)
  | 't' => if rest.take 3 == Text.bytesOf "rue" then (.bool true, 3) else (.broken, 0)
  | 'f' => if rest.take 4 == Text.bytesOf "alse" then (.bool false, 4) else (.broken, 0)
  | c =>
    if c == '-' || c.isDigit then
      let (t, used) := numberToken (first :: rest)
      (t, used - 1)
    else (.broken, 0)

def isSpace (b : UInt8) : Bool := b == 0x20 || b == 0x09 || b == 0x0A || b == 0x0D

def tokens : Bytes → List Token
  | [] => []
  | first :: rest =>
    if isSpace first then tokens rest
    else
      match token first rest with
      | (.broken, _) => [.broken]
      | (t, used) => t :: tokens (rest.drop used)
  termination_by bytes => bytes.length
  decreasing_by all_goals simp; try omega

end Outband.Json
