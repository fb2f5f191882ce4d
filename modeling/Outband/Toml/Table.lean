import Outband.Json.Basic
/-! Tables as a TOML document builds them up. Which additions a table admits depends on how it came
to be. -/

namespace Outband.Toml

inductive Origin where
  /-- By a header of its own. -/
  | header
  /-- It lies on the way to the table of a header. -/
  | implied
  /-- It lies on the way to a dotted key. -/
  | dotted
  deriving DecidableEq, Repr

inductive Item where
  | value (value : Json)
  | table (origin : Origin) (members : List (String × Item))
  /-- Tables that share one header. There is at least one. -/
  | tables (elements : List (List (String × Item)))

abbrev Members := List (String × Item)

namespace Members

def set (key : String) (item : Item) : Members → Members
  | [] => [(key, item)]
  | (k, old) :: rest => if k = key then (k, item) :: rest else (k, old) :: set key item rest

/-- Changes the table at the end of a path of dotted keys or of a header, and makes the tables on
the way. A list of tables stands for its last one. Dotted keys do not enter the table of a
header. -/
def descend (way : Origin) (change : Origin → Members → Option Members) :
    List String → Origin → Members → Option Members
  | [], origin, members => change origin members
  | key :: rest, _, members =>
    match members.lookup key with
    | none => do
      return members.set key (.table way (← descend way change rest way []))
    | some (.table origin inner) =>
      if way == .dotted && origin == .header then none
      else do return members.set key (.table origin (← descend way change rest origin inner))
    | some (.tables elements) => do
      let last ← descend way change rest .header (elements.getLast?.getD [])
      return members.set key (.tables (elements.dropLast ++ [last]))
    | some (.value _) => none

/-- Enters a value under a key of several parts. It must be new, and the table that it goes into
must be open to dotted keys. -/
def addValue (path : List String) (value : Json) (members : Members) : Option Members := do
  let key ← path.getLast?
  let way := path.dropLast
  members.descend .dotted (fun origin inner =>
    if (way.isEmpty || origin == .dotted) && (inner.lookup key).isNone then
      some (inner.set key (.value value))
    else none) way .header

def addValues (pairs : List (List String × Json)) (members : Members) : Option Members :=
  pairs.foldlM (fun members (path, value) => members.addValue path value) members

/-- The table under a header. A table that was implied before may be completed once. -/
def addTable (path : List String) (pairs : List (List String × Json)) (members : Members) :
    Option Members := do
  let key ← path.getLast?
  members.descend .implied (fun _ inner =>
    match inner.lookup key with
    | none => do return inner.set key (.table .header (← addValues pairs []))
    | some (.table .implied old) => do return inner.set key (.table .header (← addValues pairs old))
    | some _ => none) path.dropLast .header

/-- One more of the tables that share a header. -/
def addElement (path : List String) (pairs : List (List String × Json)) (members : Members) :
    Option Members := do
  let key ← path.getLast?
  let element ← addValues pairs []
  members.descend .implied (fun _ inner =>
    match inner.lookup key with
    | none => some (inner.set key (.tables [element]))
    | some (.tables elements) => some (inner.set key (.tables (elements ++ [element])))
    | some _ => none) path.dropLast .header

end Members

mutual

def Item.toJson : Item → Json
  | .value value => value
  | .table _ members => .object (membersJson members)
  | .tables elements => .array (elementsJson elements)

def membersJson : List (String × Item) → List (String × Json)
  | [] => []
  | (key, item) :: rest => Json.insert key item.toJson (membersJson rest)

def elementsJson : List (List (String × Item)) → List Json
  | [] => []
  | members :: rest => .object (membersJson members) :: elementsJson rest

end

end Outband.Toml
