import Outband.Decimal.Numeral
import Outband.Text.Utf8
import Outband.Toml.Table
import Outband.Toml.Token
/-! TOML documents as trees of values. Dates and times are not read. -/

namespace Outband.Toml

/-! Plain values. -/

/-- The digits without the underscores, each of which has to stand between two digits. -/
def joinDigits? (isDigit : Char → Bool) : List Char → Option (List Char)
  | [] => none
  | [c] => if isDigit c then some [c] else none
  | c :: '_' :: rest => if isDigit c then (joinDigits? isDigit rest).map (c :: ·) else none
  | c :: rest => if isDigit c then (joinDigits? isDigit rest).map (c :: ·) else none

def digitValue (c : Char) : Nat := (Text.hexDigit? c).getD 0

def inBase (base : Nat) (chars : List Char) : Option Nat := do
  let digits ← joinDigits? (fun c => (Text.hexDigit? c).any (· < base)) chars
  return digits.foldl (fun n d => base * n + digitValue d) 0

/-- A decimal number has no zeros in front. -/
def hasPlainStart : List Char → Bool
  | '0' :: _ :: _ => false
  | _ => true

def signed (chars : List Char) : Bool × List Char :=
  match chars with
  | '-' :: rest => (true, rest)
  | '+' :: rest => (false, rest)
  | chars => (false, chars)

/-- Integers have 64 bits. -/
def integer? (chars : List Char) : Option Json := do
  let n : Int ← match chars with
    | '0' :: 'x' :: digits => (inBase 16 digits).map Int.ofNat
    | '0' :: 'o' :: digits => (inBase 8 digits).map Int.ofNat
    | '0' :: 'b' :: digits => (inBase 2 digits).map Int.ofNat
    | chars =>
      let (negative, digits) := signed chars
      if hasPlainStart digits then
        (inBase 10 digits).map fun n => if negative then -(n : Int) else n
      else none
  let bound : Int := (UInt64.size / 2 : Nat)
  if -bound ≤ n && n < bound then some (.int n) else none

/-- Underscores stand between digits wherever digits may stand. -/
def withoutUnderscores? (chars : List Char) : Option (List Char) :=
  match chars with
  | [] => some []
  | c :: '_' :: d :: rest =>
    if c.isDigit && d.isDigit then (withoutUnderscores? (d :: rest)).map (c :: ·) else none
  | '_' :: _ => none
  | c :: rest => (withoutUnderscores? rest).map (c :: ·)

/-- Numbers with a point or an exponent. What is infinite or no number has no value. -/
def float? (chars : List Char) : Option Json := do
  let (negative, body) := signed chars
  if body == "inf".toList || body == "nan".toList then return .null
  let s ← Numeral.ofChars? (← withoutUnderscores? body)
  if s.whole.isEmpty || !hasPlainStart s.whole || s.fraction == some [] ||
      (s.fraction.isNone && s.exponent.isNone) then none
  else return .double negative (← s.double?)

def plain? (chars : List Char) : Option Json :=
  if chars == "true".toList then some (.bool true)
  else if chars == "false".toList then some (.bool false)
  else (integer? chars).orElse fun _ => float? chars

/-! Keys and values. -/

def keyPart? : Token → Option String
  | .word chars => if chars.all isBareKeyChar then some (String.ofList chars) else none
  | .text content true => some content
  | _ => none

/-- The parts of a key, and what follows it. -/
def key? : List Lexeme → Option (List String × List Lexeme)
  | part :: ⟨.dot, _⟩ :: rest => do
    let (parts, rest) ← key? rest
    return ((← keyPart? part.token) :: parts, rest)
  | part :: rest => (keyPart? part.token).map fun part => ([part], rest)
  | [] => none

def skipLines : List Lexeme → List Lexeme
  | ⟨.newline, _⟩ :: rest => skipLines rest
  | rest => rest

mutual

/-- A value, and what follows it. The fuel is the number of tokens. -/
def value? : Nat → List Lexeme → Option (Json × List Lexeme)
  | _, ⟨.text content _, _⟩ :: rest => some (.text content, rest)
  | _, ⟨.word whole, _⟩ :: ⟨.dot, false⟩ :: ⟨.word fraction, false⟩ :: rest =>
    (float? (whole ++ '.' :: fraction)).map (·, rest)
  | _, ⟨.word chars, _⟩ :: rest => (plain? chars).map (·, rest)
  | fuel + 1, ⟨.openBracket, _⟩ :: rest => do
    let (items, rest) ← items? fuel (skipLines rest)
    return (.array items, rest)
  | _, ⟨.openBrace, _⟩ :: ⟨.closeBrace, _⟩ :: rest => some (.object [], rest)
  | fuel + 1, ⟨.openBrace, _⟩ :: rest => do
    let (pairs, rest) ← pairs? fuel rest
    return (.object (membersJson (← Members.addValues pairs [])), rest)
  | _, _ => none

/-- The items of an array, which may take many lines and end in a comma. -/
def items? : Nat → List Lexeme → Option (List Json × List Lexeme)
  | _, ⟨.closeBracket, _⟩ :: rest => some ([], rest)
  | fuel + 1, lexemes => do
    let (item, rest) ← value? fuel lexemes
    match skipLines rest with
    | ⟨.comma, _⟩ :: rest =>
      let (more, rest) ← items? fuel (skipLines rest)
      return (item :: more, rest)
    | ⟨.closeBracket, _⟩ :: rest => return ([item], rest)
    | _ => none
  | 0, _ => none

/-- The pairs of an inline table, all on one line. -/
def pairs? : Nat → List Lexeme → Option (List (List String × Json) × List Lexeme)
  | fuel + 1, lexemes => do
    let (pair, rest) ← pair? fuel lexemes
    match rest with
    | ⟨.comma, _⟩ :: rest =>
      let (more, rest) ← pairs? fuel rest
      return (pair :: more, rest)
    | ⟨.closeBrace, _⟩ :: rest => return ([pair], rest)
    | _ => none
  | 0, _ => none

def pair? : Nat → List Lexeme → Option ((List String × Json) × List Lexeme)
  | fuel + 1, lexemes => do
    match ← key? lexemes with
    | (key, ⟨.equals, _⟩ :: rest) =>
      let (value, rest) ← value? fuel rest
      return ((key, value), rest)
    | _ => none
  | 0, _ => none

end

/-! Documents. -/

inductive Line where
  | pair (key : List String) (value : Json)
  | table (path : List String)
  | element (path : List String)

/-- The header or pair that a line starts with. The brackets of a shared header touch. -/
def line? (fuel : Nat) : List Lexeme → Option (Line × List Lexeme)
  | ⟨.openBracket, _⟩ :: ⟨.openBracket, false⟩ :: rest => do
    match ← key? rest with
    | (path, ⟨.closeBracket, _⟩ :: ⟨.closeBracket, false⟩ :: rest) => return (.element path, rest)
    | _ => none
  | ⟨.openBracket, _⟩ :: rest => do
    match ← key? rest with
    | (path, ⟨.closeBracket, _⟩ :: rest) => return (.table path, rest)
    | _ => none
  | lexemes => (pair? fuel lexemes).map fun ((key, value), rest) => (.pair key value, rest)

/-- The lines of a document that hold something. -/
def lines? : Nat → List Lexeme → Option (List Line)
  | _, [] => some []
  | fuel + 1, ⟨.newline, _⟩ :: rest => lines? fuel rest
  | fuel + 1, lexemes => do
    let (line, rest) ← line? (2 * lexemes.length) lexemes
    match rest with
    | [] => return [line]
    | ⟨.newline, _⟩ :: rest => return line :: (← lines? fuel rest)
    | _ => none
  | 0, _ => none

/-- A header and the pairs up to the next one. -/
structure Section where
  add : List (List String × Json) → Members → Option Members
  pairs : List (List String × Json)

/-- The pairs before the first header, and the sections after them. -/
def sections : List Line → List (List String × Json) × List Section
  | [] => ([], [])
  | line :: rest =>
    let (pairs, more) := sections rest
    match line with
    | .pair key value => ((key, value) :: pairs, more)
    | .table path => ([], ⟨Members.addTable path, pairs⟩ :: more)
    | .element path => ([], ⟨Members.addElement path, pairs⟩ :: more)

def parse? (content : String) : Option Json := do
  let lexemes := tokens false content.toList
  let (pairs, sections) := sections (← lines? (lexemes.length + 1) lexemes)
  let root ← Members.addValues pairs []
  let root ← sections.foldlM (fun root s => s.add s.pairs root) root
  return .object (membersJson root)

end Outband.Toml
