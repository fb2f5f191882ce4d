import Outband.Json.Token
/-! Reading values from tokens, one token at a time. -/

namespace Outband.Json

/-- An array or object that is still open: the items read so far, last first, or the members and
the name whose value comes next. -/
inductive Frame where
  | array (items : List Json)
  | object (members : List (String × Json)) (name : String)

/-- What may come next, inside the frames around it, innermost first. -/
inductive State where
  /-- A value, or the end of an array just opened. -/
  | awaitValue (frames : List Frame) (mayClose : Bool)
  /-- What follows a value that is complete. -/
  | afterValue (frames : List Frame) (value : Json)
  /-- The name of a member, or the end of an object just opened. -/
  | awaitName (frames : List Frame) (members : List (String × Json)) (mayClose : Bool)
  | awaitColon (frames : List Frame) (members : List (String × Json)) (name : String)

inductive Progress where
  | more (state : State)
  | complete (value : Json)

def State.start : State := .awaitValue [] false

/-- Frames that a value which is kept may be nested in. -/
def maxDepth : Nat := 127

/-- Takes a complete value into the frames around it. -/
def close (frames : List Frame) (value : Json) : Progress :=
  match frames with
  | [] => .complete value
  | frames => .more (.afterValue frames value)

/-- Opens a frame unless it would lie too deep. A value that is skipped may lie at any depth. -/
def deepen (keep : Bool) (frames : List Frame) (state : State) : Option Progress :=
  if keep && maxDepth ≤ frames.length then none else some (.more state)

/-- The item of a token that is a value by itself. -/
def scalar? (keep : Bool) : Token → Option Json
  | .null => some .null
  | .bool b => some (.bool b)
  | .number n => if keep then n else some .null
  | .text s => if keep then s.map .text else some .null
  | _ => none

/-- One token further. A value that is skipped is only checked for its form. -/
def State.step (keep : Bool) (token : Token) : State → Option Progress
  | .awaitValue frames mayClose =>
    match token with
    | .openArray => deepen keep frames (.awaitValue (.array [] :: frames) true)
    | .openObject => deepen keep frames (.awaitName frames [] true)
    | .closeArray =>
      match mayClose, frames with
      | true, _ :: outer => some (close outer (.array []))
      | _, _ => none
    | token => (scalar? keep token).map (close frames)
  | .afterValue frames value =>
    match token, frames with
    | .comma, .array items :: outer =>
      some (.more (.awaitValue (.array (value :: items) :: outer) false))
    | .comma, .object members name :: outer =>
      some (.more (.awaitName outer (insert name value members) false))
    | .closeArray, .array items :: outer => some (close outer (.array (value :: items).reverse))
    | .closeObject, .object members name :: outer =>
      some (close outer (.object (insert name value members)))
    | _, _ => none
  | .awaitName frames members mayClose =>
    match token with
    | .text (some name) => some (.more (.awaitColon frames members name))
    | .text none => if keep then none else some (.more (.awaitColon frames members ""))
    | .closeObject => if mayClose then some (close frames (.object members)) else none
    | _ => none
  | .awaitColon frames members name =>
    match token with
    | .colon => some (.more (.awaitValue (.object members name :: frames) false))
    | _ => none

/-- Reads on until the value is complete. Gives it and the tokens after it. -/
def read? (keep : Bool) : State → List Token → Option (Json × List Token)
  | _, [] => none
  | state, token :: rest =>
    match state.step keep token with
    | none => none
    | some (.more state) => read? keep state rest
    | some (.complete value) => some (value, rest)

/-- The one value that the bytes hold. -/
def parse? (bytes : Bytes) : Option Json :=
  match read? true .start (tokens bytes) with
  | some (value, []) => some value
  | _ => none

end Outband.Json
