import Outband.Text.Hex
/-! The tokens of TOML text. Scanning stops at the first piece that is no token. -/

namespace Outband.Toml

inductive Token where
  | newline
  | equals
  | comma
  | dot
  | openBracket
  | closeBracket
  | openBrace
  | closeBrace
  /-- Letters, digits, `_`, `-` and `+`: a bare key, or all or a part of a plain value. -/
  | word (chars : List Char)
  | text (content : String) (oneLine : Bool)
  | broken
  deriving DecidableEq, Repr

/-- A token, and whether a blank stands before it. -/
structure Lexeme where
  token : Token
  spaced : Bool
  deriving DecidableEq, Repr

def isBareKeyChar (c : Char) : Bool := c.isAlphanum || c == '_' || c == '-'

def isWordChar (c : Char) : Bool := isBareKeyChar c || c == '+'

def isBlank (c : Char) : Bool := c == ' ' || c == '\t'

/-- Control characters stand in no text and no comment, the tab excepted. -/
def isPrintable (c : Char) : Bool := (0x20 ≤ c.toNat && c.toNat != 0x7F) || c == '\t'

def startsLine : List Char → Bool
  | '\n' :: _ | '\r' :: '\n' :: _ => true
  | _ => false

def hexValue? (digits : List Char) : Option Nat :=
  digits.foldlM (fun n d => (Text.hexDigit? d).map (16 * n + ·)) 0

/-- The character of a code point that is one. -/
def scalar? (digits : List Char) : Option Char := do
  let n ← hexValue? digits
  if n.isValidChar then some (Char.ofNat n) else none

def simpleEscape? : Char → Option Char
  | 'b' => some '\x08'
  | 't' => some '\t'
  | 'n' => some '\n'
  | 'f' => some '\x0c'
  | 'r' => some '\r'
  | '"' => some '"'
  | '\\' => some '\\'
  | _ => none

/-- What an escape stands for, from the character after the backslash on, and how many characters
it takes from there. -/
def escape? : List Char → Option (Char × Nat)
  | 'u' :: rest => if rest.length < 4 then none else (scalar? (rest.take 4)).map (·, 5)
  | 'U' :: rest => if rest.length < 8 then none else (scalar? (rest.take 8)).map (·, 9)
  | c :: _ => (simpleEscape? c).map (·, 1)
  | [] => none

/-! Texts, from behind the opening quote to behind the closing one: what they hold, and how many
characters they take. `pending` characters of an escape are still to be passed over. -/

private def more (c : Char) (used : Nat) (tail : Option (List Char × Nat)) :
    Option (List Char × Nat) :=
  tail.map fun (content, n) => (c :: content, n + used)

private def skip (tail : Option (List Char × Nat)) : Option (List Char × Nat) :=
  tail.map fun (content, n) => (content, n + 1)

def basic : Nat → List Char → Option (List Char × Nat)
  | _, [] => none
  | pending + 1, _ :: rest => skip (basic pending rest)
  | 0, '"' :: _ => some ([], 1)
  | 0, '\\' :: rest =>
    match escape? rest with
    | some (c, used) => more c 1 (basic used rest)
    | none => none
  | 0, c :: rest => if isPrintable c then more c 1 (basic 0 rest) else none

def literal : List Char → Option (List Char × Nat)
  | [] => none
  | '\'' :: _ => some ([], 1)
  | c :: rest => if isPrintable c then more c 1 (literal rest) else none

/-- How a run of quotes ends a text of many lines: up to two of them belong to it. -/
def closing (quote : Char) (chars : List Char) : Option (List Char × Nat) :=
  let run := (chars.takeWhile (· == quote)).length
  if 3 ≤ run then
    let own := min (run - 3) 2
    some (List.replicate own quote, own + 3)
  else none

/-- A backslash at the end of a line takes the line end and all white space after it away. -/
def basicLines (folding : Bool) : Nat → List Char → Option (List Char × Nat)
  | _, [] => none
  | pending + 1, _ :: rest => skip (basicLines folding pending rest)
  | 0, '\r' :: '\n' :: rest =>
    if folding then (basicLines true 0 rest).map fun (content, n) => (content, n + 2)
    else more '\n' 2 (basicLines false 0 rest)
  | 0, c :: rest =>
    if folding && (isBlank c || c == '\n') then skip (basicLines true 0 rest)
    else if c == '"' then
      match closing '"' (c :: rest) with
      | some ending => some ending
      | none => more c 1 (basicLines false 0 rest)
    else if c == '\\' then
      if startsLine (rest.dropWhile isBlank) then skip (basicLines true 0 rest)
      else
        match escape? rest with
        | some (c, used) => more c 1 (basicLines false used rest)
        | none => none
    else if isPrintable c || c == '\n' then more c 1 (basicLines false 0 rest)
    else none

def literalLines : List Char → Option (List Char × Nat)
  | [] => none
  | '\r' :: '\n' :: rest => more '\n' 2 (literalLines rest)
  | c :: rest =>
    if c == '\'' then
      match closing '\'' (c :: rest) with
      | some ending => some ending
      | none => more c 1 (literalLines rest)
    else if isPrintable c || c == '\n' then more c 1 (literalLines rest)
    else none

/-- A line end right behind the opening quotes does not count. -/
def openingLine : List Char → Nat
  | '\r' :: '\n' :: _ => 2
  | '\n' :: _ => 1
  | _ => 0

def textToken (oneLine : Bool) (before : Nat) : Option (List Char × Nat) → Token × Nat
  | some (content, used) => (.text (String.ofList content) oneLine, before + used)
  | none => (.broken, 0)

/-- The token that starts with a character, and how many of the characters after it belong to
it. -/
def token (first : Char) (rest : List Char) : Token × Nat :=
  match first, rest with
  | '"', '"' :: '"' :: inner =>
    let line := openingLine inner
    textToken false (2 + line) (basicLines false 0 (inner.drop line))
  | '\'', '\'' :: '\'' :: inner =>
    let line := openingLine inner
    textToken false (2 + line) (literalLines (inner.drop line))
  | '"', _ => textToken true 0 (basic 0 rest)
  | '\'', _ => textToken true 0 (literal rest)
  | '\n', _ => (.newline, 0)
  | '\r', '\n' :: _ => (.newline, 1)
  | '=', _ => (.equals, 0)
  | ',', _ => (.comma, 0)
  | '.', _ => (.dot, 0)
  | '[', _ => (.openBracket, 0)
  | ']', _ => (.closeBracket, 0)
  | '\x7b', _ => (.openBrace, 0)
  | '\x7d', _ => (.closeBrace, 0)
  | c, _ =>
    if isWordChar c then
      let more := rest.takeWhile isWordChar
      (.word (c :: more), more.length)
    else (.broken, 0)

/-- The characters of a comment, if they may stand in one. -/
def comment? (chars : List Char) : Option Nat :=
  let body := chars.takeWhile isPrintable
  match chars.drop body.length with
  | [] => some body.length
  | after => if startsLine after then some body.length else none

def tokens (spaced : Bool) : List Char → List Lexeme
  | [] => []
  | first :: rest =>
    if isBlank first then tokens true rest
    else if first == '#' then
      match comment? rest with
      | some used => tokens true (rest.drop used)
      | none => [⟨.broken, spaced⟩]
    else
      match token first rest with
      | (.broken, _) => [⟨.broken, spaced⟩]
      | (t, used) => ⟨t, spaced⟩ :: tokens false (rest.drop used)
  termination_by chars => chars.length
  decreasing_by all_goals simp; try omega

end Outband.Toml
