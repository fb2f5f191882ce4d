import Outband.Decimal.Double
/-! JSON values. Integers of 64 bits, signed or unsigned, are kept apart from doubles. -/

namespace Outband

inductive Json where
  | null
  | bool (value : Bool)
  | int (value : Int)
  | double (negative : Bool) (magnitude : Double)
  | text (value : String)
  | array (items : List Json)
  | object (members : List (String × Json))
  deriving Repr, Inhabited

namespace Json

/-- Enters a member into a list that is sorted by name. The last of two members of one name
stays. -/
def insert (name : String) (value : Json) : List (String × Json) → List (String × Json)
  | [] => [(name, value)]
  | (n, v) :: rest =>
    if name < n then (name, value) :: (n, v) :: rest
    else if name = n then (name, value) :: rest
    else (n, v) :: insert name value rest

/-- The member of that name, of an object. -/
def member? (name : String) : Json → Option Json
  | .object members => members.lookup name
  | _ => none

def text? : Json → Option String
  | .text s => some s
  | _ => none

def bool? : Json → Option Bool
  | .bool b => some b
  | _ => none

def int? : Json → Option Int
  | .int n => some n
  | _ => none

/-- The number of an integer that fits into 64 bits with its sign. -/
def signed? : Json → Option Int
  | .int n => if -9223372036854775808 ≤ n ∧ n < 9223372036854775808 then some n else none
  | _ => none

def array? : Json → Option (List Json)
  | .array items => some items
  | _ => none

def isObject : Json → Bool
  | .object _ => true
  | _ => false

end Json

end Outband
