import Outband.Yaml.Cursor
import Outband.Yaml.Scalar
/-! YAML documents as trees of values: block mappings and sequences, flows, and plain and quoted
scalars. Anchors, tags, block scalars and complex keys are not read. -/

namespace Outband.Yaml

/-! Flows. -/

mutual

/-- A value in a flow, and what follows it. The fuel is the number of characters. -/
def flow? : Nat → List Char → Option (Json × List Char)
  | fuel + 1, '[' :: rest => do
    let (items, rest) ← flowItems? fuel (afterFlowGap rest)
    return (.array items, rest)
  | fuel + 1, '\x7b' :: rest => do
    let (members, rest) ← flowMembers? fuel [] (afterFlowGap rest)
    return (.object members, rest)
  | _, '"' :: rest => do
    let q ← double 0 rest
    return (.text (String.ofList q.text), rest.drop q.used)
  | _, '\'' :: rest => do
    let q ← single 0 rest
    return (.text (String.ofList q.text), rest.drop q.used)
  | _, chars =>
    if startsPlain true chars then do
      let part := plainPart true chars
      let (more, rest) := flowPlainMore chars.length (chars.drop part.length)
      return (← resolve? (String.ofList (part ++ more)), rest)
    else none

/-- A key of a flow mapping: its text, whatever it stands for as a value. -/
def flowKey? : Nat → List Char → Option (String × List Char)
  | fuel + 1, chars =>
    if startsPlain true chars && chars.head? != some '"' && chars.head? != some '\'' then
      let part := plainPart true chars
      let (more, rest) := flowPlainMore chars.length (chars.drop part.length)
      some (String.ofList (part ++ more), rest)
    else do
      match ← flow? fuel chars with
      | (.text key, rest) => some (key, rest)
      | _ => none
  | 0, _ => none

/-- The value behind a colon, which may be missing before the end of the item. -/
def flowValue? : Nat → List Char → Option (Json × List Char)
  | fuel + 1, chars =>
    match chars with
    | ',' :: _ | ']' :: _ | '\x7d' :: _ => some (.null, chars)
    | chars => flow? fuel chars
  | 0, _ => none

/-- The items of a sequence. A pair in it is a mapping of its own. -/
def flowItems? : Nat → List Char → Option (List Json × List Char)
  | _, ']' :: rest => some ([], rest)
  | fuel + 1, chars => do
    let (item, rest) ← flow? fuel chars
    let (item, rest) ← match afterFlowGap rest with
      | ':' :: after => do
        let (key, _) ← flowKey? fuel chars
        let (value, rest) ← flowValue? fuel (afterFlowGap after)
        some (Json.object [(key, value)], rest)
      | _ => some (item, rest)
    match afterFlowGap rest with
    | ',' :: rest =>
      let (more, rest) ← flowItems? fuel (afterFlowGap rest)
      return (item :: more, rest)
    | ']' :: rest => return ([item], rest)
    | _ => none
  | 0, _ => none

/-- The members of a mapping. The last of two with one key stays. -/
def flowMembers? : Nat → List (String × Json) → List Char →
    Option (List (String × Json) × List Char)
  | _, members, '\x7d' :: rest => some (members, rest)
  | fuel + 1, members, chars => do
    let (key, rest) ← flowKey? fuel chars
    let (value, rest) ← match afterFlowGap rest with
      | ':' :: after => flowValue? fuel (afterFlowGap after)
      | rest => some (.null, rest)
    let members := Json.insert key value members
    match afterFlowGap rest with
    | ',' :: rest => flowMembers? fuel members (afterFlowGap rest)
    | '\x7d' :: rest => return (members, rest)
    | _ => none
  | 0, _, _ => none

end

/-! Blocks. -/

/-- A cursor at the end of a flow or of a quoted scalar that `used` characters lead to. -/
def passed (c : Cursor) (used : Nat) : Cursor :=
  let text := c.rest.take used
  let lastLine := (text.reverse.takeWhile (· != '\n')).length
  let column := if text.contains '\n' then lastLine else c.column + used
  ⟨c.rest.drop used, column⟩

/-- A scalar or a flow that starts at the cursor. -/
inductive Piece where
  /-- A scalar on one line, which may be a key: its text and its value. -/
  | short (text : String) (value : Option Json)
  /-- Anything else. -/
  | long (value : Option Json)

def quotedPiece (q : Quoted) : Piece :=
  let text := String.ofList q.text
  if q.oneLine then .short text (some (.text text)) else .long (some (.text text))

/-- The piece at the cursor, of a plain scalar its first line, and the place behind it. -/
def piece? (c : Cursor) : Option (Piece × Cursor) :=
  match c.rest with
  | '"' :: rest => (double 0 rest).map fun q => (quotedPiece q, passed c (q.used + 1))
  | '\'' :: rest => (single 0 rest).map fun q => (quotedPiece q, passed c (q.used + 1))
  | '[' :: _ | '\x7b' :: _ =>
    (flow? (2 * c.rest.length) c.rest).map fun (value, rest) =>
      (.long (some value), passed c (c.rest.length - rest.length))
  | chars =>
    if startsPlain false chars then
      let part := plainPart false chars
      let text := String.ofList part
      some (.short text (resolve? text), c.skip part.length)
    else none

/-- The cursor behind the colon that makes a key of what stands before the cursor. -/
def afterColon? (c : Cursor) : Option Cursor :=
  let blanks := (c.rest.takeWhile isBlank).length
  match c.rest.drop blanks with
  | ':' :: rest => if atBreak rest then some (c.skip (blanks + 1)) else none
  | _ => none

def isEntry (c : Cursor) : Bool :=
  match c.rest with
  | '-' :: rest => atBreak rest
  | _ => false

/-- Nothing is left of the document. -/
def isEnd (c : Cursor) : Bool := c.rest.isEmpty || isDocumentMark c

mutual

/-- The node at the cursor, inside a collection at the column `indent`, and the place behind it. A
fresh node may be a block collection. The fuel is a multiple of the number of characters. -/
def node? : Nat → Int → Bool → Cursor → Option (Json × Cursor)
  | 0, _, _, _ => none
  | fuel + 1, indent, fresh, c =>
    if isEntry c then
      if fresh then do
        let (items, after) ← entries? fuel c.column c
        return (.array items, after)
      else none
    else do
      let (piece, after) ← piece? c
      match piece, afterColon? after with
      | .short key _, some value =>
        if fresh then
          let (members, after) ← members? fuel c.column [] key value
          return (.object members, after)
        else none
      | .long _, some _ => none
      | .long value, none => return (← value, after)
      | .short text value, none =>
        if startsPlain false c.rest then
          let (more, after) := plainMore indent after.rest.length after
          if more.isEmpty then return (← value, after)
          else return (← resolve? (text ++ String.ofList more), after)
        else return (← value, after)

/-- The value of a key or an entry, `tabs` telling whether tabs may stand before it: on the same
line, or on later lines further in, or none. -/
def inner? : Nat → Nat → Bool → Bool → Cursor → Option (Json × Cursor)
  | 0, _, _, _, _ => none
  | fuel + 1, column, entry, tabs, c =>
    let g := gap tabs c.rest c.column
    if isEnd g.next then some (.null, c)
    else if g.lines == 0 then node? fuel column entry g.next
    else if column < g.next.column then node? fuel column true g.next
    else if !entry && g.next.column == column && isEntry g.next then do
      let (items, after) ← entries? fuel column g.next
      return (.array items, after)
    else some (.null, c)

/-- The members of a mapping at a column, from behind the colon of a key on. The last of two with
one key stays. -/
def members? : Nat → Nat → List (String × Json) → String → Cursor →
    Option (List (String × Json) × Cursor)
  | 0, _, _, _, _ => none
  | fuel + 1, column, members, key, c => do
    let (value, after) ← inner? fuel column false true c
    let members := Json.insert key value members
    let g := after.gap
    if isEnd g.next then return (members, after)
    else if g.lines == 0 || column < g.next.column then none
    else if g.next.column < column then return (members, after)
    else
      match ← piece? g.next with
      | (.short key _, after) =>
        match afterColon? after with
        | some value => members? fuel column members key value
        | none => none
      | _ => none

/-- The entries of a sequence at a column. -/
def entries? : Nat → Nat → Cursor → Option (List Json × Cursor)
  | 0, _, _ => none
  | fuel + 1, column, c => do
    let (item, after) ← inner? fuel column true false (c.skip 1)
    let g := after.gap
    if isEnd g.next then return ([item], after)
    else if g.lines == 0 || column < g.next.column then none
    else if g.next.column < column || !isEntry g.next then return ([item], after)
    else
      let (more, after) ← entries? fuel column g.next
      return (item :: more, after)

end

/-- The document, between a mark before it and one after it that need not be there. -/
def parse? (content : String) : Option Json := do
  if !content.toList.all isAllowed then none
  let chars := unifyLines content.toList
  let start := gap false chars 0
  let c := start.next
  let marked := isDocumentMark c && c.head? == some '-'
  let first := if marked then gap true (c.rest.drop 3) 3 else start
  let fresh := !marked || first.lines != 0
  let (value, after) ←
    if isEnd first.next then some (.null, first.next)
    else node? (8 * chars.length) (-1) fresh first.next
  let last := after.gap.next
  if last.rest.isEmpty then return value
  else if isDocumentMark last && last.head? == some '.' &&
      (after.gap.lines != 0 || after.column == 0) && (gap true (last.rest.drop 3) 3).next.rest.isEmpty then return value
  else none

end Outband.Yaml
