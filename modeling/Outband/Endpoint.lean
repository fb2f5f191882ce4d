import Outband.Text.Quoted
/-! Where a management controller is reached, and with which credentials. -/

namespace Outband

structure Credentials where
  username : String
  password : String
  deriving DecidableEq, Repr

structure Endpoint where
  host : String
  credentials : Credentials
  deriving DecidableEq, Repr

/-- What descriptions show in place of a secret. -/
def redacted : String := Text.quoted "<redacted>"

/-- A record's name and its fields, each with the text of its value, on one line. -/
def describeRecord (name : String) (fields : List (String × String)) : String :=
  name ++ " \x7b " ++ ", ".intercalate (fields.map fun (field, value) => field ++ ": " ++ value) ++
    " \x7d"

def Credentials.describe (c : Credentials) : String :=
  describeRecord "Credentials" [("username", Text.quoted c.username), ("password", redacted)]

def Endpoint.describe (e : Endpoint) : String :=
  describeRecord "Endpoint"
    [("host", Text.quoted e.host), ("credentials", e.credentials.describe)]

end Outband
