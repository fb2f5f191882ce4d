import Outband.Text.Hex
/-! Places in YAML text, and the pieces of text that scalars are made of. -/

namespace Outband.Yaml

/-- The characters still to be read, and the column of the first of them. -/
structure Cursor where
  rest : List Char
  column : Nat := 0

namespace Cursor

/-- Passes over characters that are no line ends. -/
def skip (c : Cursor) (n : Nat) : Cursor := ⟨c.rest.drop n, c.column + n⟩

def head? (c : Cursor) : Option Char := c.rest.head?

end Cursor

def isBlank (c : Char) : Bool := c == ' ' || c == '\t'

def isFlowSign (c : Char) : Bool := c == ',' || c == '[' || c == ']' || c == '\x7b' || c == '\x7d'

/-- The characters of a document. -/
def isAllowed (c : Char) : Bool :=
  let n := c.toNat
  n == 0x9 || n == 0xA || n == 0xD || (0x20 ≤ n && n ≤ 0x7E) || n == 0x85 ||
    (0xA0 ≤ n && n ≤ 0xFFFD && n != 0xFEFF) || 0x10000 ≤ n

/-- Every line ends in a line feed. -/
def unifyLines : List Char → List Char
  | '\r' :: '\n' :: rest => '\n' :: unifyLines rest
  | '\r' :: rest => '\n' :: unifyLines rest
  | c :: rest => c :: unifyLines rest
  | [] => []

/-- The characters end here, or a blank follows. -/
def atBreak : List Char → Bool
  | [] => true
  | c :: _ => isBlank c || c == '\n'

/-- A mark at the start of a line that separates documents. -/
def isDocumentMark (c : Cursor) : Bool :=
  c.column == 0 && ((c.rest.take 3 == "---".toList || c.rest.take 3 == "...".toList) &&
    atBreak (c.rest.drop 3))

/-- What lies between two pieces of a document. -/
structure Gap where
  next : Cursor
  /-- How many line ends. -/
  lines : Nat := 0
  comment : Bool := false

/-- Blanks, comments and line ends. Tabs do not indent. -/
def gap (tabs : Bool) : List Char → Nat → Gap
  | [], column => ⟨⟨[], column⟩, 0, false⟩
  | '#' :: rest, _ => { comment rest with comment := true }
  | '\n' :: rest, _ =>
    let g := gap false rest 0
    { g with lines := g.lines + 1 }
  | c :: rest, column =>
    if c == ' ' || (tabs && c == '\t') then gap tabs rest (column + 1)
    else ⟨⟨c :: rest, column⟩, 0, false⟩
where
  /-- The rest of a comment, and the gap after it. -/
  comment : List Char → Gap
    | [] => ⟨⟨[], 0⟩, 0, false⟩
    | '\n' :: rest =>
      let g := gap false rest 0
      { g with lines := g.lines + 1 }
    | _ :: rest => comment rest

def Cursor.gap (c : Cursor) : Gap := Yaml.gap true c.rest c.column

/-- What follows a gap between flow items, where lines do not matter. -/
def afterFlowGap : List Char → List Char
  | [] => []
  | c :: rest =>
    if isBlank c || c == '\n' then afterFlowGap rest
    else if c == '#' then comment rest
    else c :: rest
where
  comment : List Char → List Char
    | [] => []
    | c :: rest => if c == '\n' then afterFlowGap rest else comment rest

/-! Quoted scalars. Each gives its text, how many characters it takes behind the opening quote, and
whether it stays on one line. -/

structure Quoted where
  text : List Char
  used : Nat
  oneLine : Bool := true

private def Quoted.more (chars : List Char) (used : Nat) (q : Quoted) : Quoted :=
  { q with text := chars ++ q.text, used := q.used + used }

/-- A line end reads as a blank, and each empty line after it as a line end. -/
def fold (lines : Nat) : List Char := if lines ≤ 1 then [' '] else List.replicate (lines - 1) '\n'

/-- White space with a line end in it: the number of line ends and of characters. -/
def lineGap? (chars : List Char) : Option (Nat × Nat) :=
  let white := chars.takeWhile fun c => isBlank c || c == '\n'
  let lines := white.count '\n'
  if lines == 0 then none else some (lines, white.length)

/-- A single quote stands for itself when it is written twice. The count is of characters that are
still to be passed over. -/
def single : Nat → List Char → Option Quoted
  | _, [] => none
  | n + 1, _ :: rest => single n rest
  | 0, '\'' :: '\'' :: rest => (single 0 rest).map (.more ['\''] 2)
  | 0, '\'' :: _ => some ⟨[], 1, true⟩
  | 0, c :: rest =>
    match lineGap? (c :: rest) with
    | some (lines, used) =>
      (single (used - 1) rest).map fun q => { q.more (fold lines) used with oneLine := false }
    | none => (single 0 rest).map (.more [c] 1)

def simpleEscape? : Char → Option Char
  | '0' => some '\x00'
  | 'a' => some '\x07'
  | 'b' => some '\x08'
  | 't' | '\t' => some '\t'
  | 'n' => some '\n'
  | 'v' => some '\x0b'
  | 'f' => some '\x0c'
  | 'r' => some '\r'
  | 'e' => some '\x1b'
  | ' ' => some ' '
  | '"' => some '"'
  | '/' => some '/'
  | '\\' => some '\\'
  | 'N' => some '\u0085'
  | '_' => some '\u00a0'
  | 'L' => some '\u2028'
  | 'P' => some '\u2029'
  | _ => none

def codePoint? (digits : Nat) (rest : List Char) : Option Char := do
  let n ← (rest.take digits).foldlM (fun n d => (Text.hexDigit? d).map (16 * n + ·)) 0
  if digits ≤ rest.length && n.isValidChar then some (Char.ofNat n) else none

/-- What an escape stands for, from behind the backslash on, and how many characters it takes from
there. -/
def escape? : List Char → Option (Char × Nat)
  | 'x' :: rest => (codePoint? 2 rest).map (·, 3)
  | 'u' :: rest => (codePoint? 4 rest).map (·, 5)
  | 'U' :: rest => (codePoint? 8 rest).map (·, 9)
  | c :: _ => (simpleEscape? c).map (·, 1)
  | [] => none

def double : Nat → List Char → Option Quoted
  | _, [] => none
  | n + 1, _ :: rest => double n rest
  | 0, '"' :: _ => some ⟨[], 1, true⟩
  | 0, '\\' :: '\n' :: rest =>
    let white := rest.takeWhile fun c => isBlank c || c == '\n'
    (double white.length rest).map fun q =>
      { q.more (List.replicate (white.count '\n') '\n') (2 + white.length) with oneLine := false }
  | 0, '\\' :: rest =>
    match escape? rest with
    | some (c, used) => (double used rest).map (.more [c] (used + 1))
    | none => none
  | 0, c :: rest =>
    match lineGap? (c :: rest) with
    | some (lines, used) =>
      (double (used - 1) rest).map fun q => { q.more (fold lines) used with oneLine := false }
    | none => (double 0 rest).map (.more [c] 1)

/-! Plain scalars. -/

/-- The characters that a plain scalar cannot start with, a few of them only before a blank. -/
def startsPlain (flow : Bool) : List Char → Bool
  | [] => false
  | c :: rest =>
    if c == '-' then !atBreak rest
    else if c == '?' || c == ':' then !flow && !atBreak rest
    else !(isBlank c || c == '\n' || isFlowSign c || "#&*!|>'\"%@".toList.contains c ||
      c.toNat == 0x60)

/-- The part of a plain scalar on one line, blanks at its end included: it ends before a colon or a
comment, in a flow also before the signs of the flow. -/
def plainRun (flow afterBlank : Bool) : List Char → List Char
  | [] => []
  | c :: rest =>
    if c == '\n' || (c == '#' && afterBlank) || (c == ':' && atBreak rest) ||
        (flow && isFlowSign c) then []
    else c :: plainRun flow (isBlank c) rest

/-- The line's part of a plain scalar without the blanks at its end. -/
def plainPart (flow : Bool) (chars : List Char) : List Char :=
  ((plainRun flow false chars).reverse.dropWhile isBlank).reverse

/-- The lines after the first that a plain scalar goes on over, as long as they are indented more
than what holds it. The fuel is the number of characters. -/
def plainMore (indent : Int) : Nat → Cursor → List Char × Cursor
  | 0, c => ([], c)
  | fuel + 1, c =>
    let g := c.gap
    if g.lines == 0 || g.comment || g.next.rest.isEmpty || (g.next.column : Int) ≤ indent ||
        isDocumentMark g.next then ([], c)
    else
      let part := plainPart false g.next.rest
      if part.isEmpty then ([], c)
      else
        let (more, after) := plainMore indent fuel (g.next.skip part.length)
        (fold g.lines ++ part ++ more, after)

/-- The same in a flow, where indentation does not matter. -/
def flowPlainMore : Nat → List Char → List Char × List Char
  | 0, chars => ([], chars)
  | fuel + 1, chars =>
    match lineGap? chars with
    | none => ([], chars)
    | some (lines, used) =>
      let next := chars.drop used
      let part := plainPart true next
      if part.isEmpty || part.head? == some '#' then ([], chars)
      else
        let (more, after) := flowPlainMore fuel (next.drop part.length)
        (fold lines ++ part ++ more, after)

end Outband.Yaml
