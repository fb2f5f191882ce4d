import Outband.Config.Basic
/-! Settings as a tree of values. A section is an object, or an array of its fields in order. A
field that is missing has its default, and members of other names are passed over. -/

namespace Outband

namespace Config

/-- The fields that a section gives. -/
def fieldsOf? (names : List String) : Json → Option (List (String × Json))
  | .object members => some members
  | .array items => if items.length ≤ names.length then some (names.zip items) else none
  | _ => none

/-- A field, which has to be of its type if it is given. -/
def field? (fields : List (String × Json)) (name : String) (read : Json → Option α)
    (default : α) : Option α :=
  match fields.lookup name with
  | some value => read value
  | none => some default

/-- Nothing, or a text. -/
def optionalText? : Json → Option (Option String)
  | .null => some none
  | .text s => some (some s)
  | _ => none

def Server.ofJson? (j : Json) : Option Server := do
  let fields ← fieldsOf? ["bind_to"] j
  let default : Server := {}
  return { bindTo := ← field? fields "bind_to" Json.text? default.bindTo }

def Bmc.ofJson? (j : Json) : Option Bmc := do
  let fields ← fieldsOf? ["username", "password"] j
  let default : Bmc := {}
  return {
    username := ← field? fields "username" Json.text? default.username
    password := ← field? fields "password" Json.text? default.password }

def Ipmi.ofJson? (j : Json) : Option Ipmi := do
  let fields ← fieldsOf? ["binary", "interface"] j
  let default : Ipmi := {}
  return {
    binary := ← field? fields "binary" optionalText? default.binary
    interface := ← field? fields "interface" Json.text? default.interface }

def Screenshot.ofJson? (j : Json) : Option Screenshot := do
  let fields ← fieldsOf? ["storage", "url_prefix"] j
  let default : Screenshot := {}
  return {
    storage := ← field? fields "storage" Json.text? default.storage
    urlPrefix := ← field? fields "url_prefix" Json.text? default.urlPrefix }

def S3.ofJson? (j : Json) : Option S3 := do
  let fields ← fieldsOf? ["enabled", "bucket", "folder", "endpoint", "region", "access_key_id",
    "secret_access_key", "acl"] j
  let default : S3 := {}
  return {
    enabled := ← field? fields "enabled" Json.bool? default.enabled
    bucket := ← field? fields "bucket" Json.text? default.bucket
    folder := ← field? fields "folder" Json.text? default.folder
    endpoint := ← field? fields "endpoint" Json.text? default.endpoint
    region := ← field? fields "region" Json.text? default.region
    accessKeyId := ← field? fields "access_key_id" Json.text? default.accessKeyId
    secretAccessKey := ← field? fields "secret_access_key" Json.text? default.secretAccessKey
    acl := ← field? fields "acl" Json.text? default.acl }

/-- A format by its name, or as an object whose one member has that name and no value. -/
def logFormat? : Json → Option LogFormat
  | .text name | .object [(name, .null)] => LogFormat.ofName? name
  | _ => none

def Logging.ofJson? (j : Json) : Option Logging := do
  let fields ← fieldsOf? ["level", "format"] j
  let default : Logging := {}
  return {
    level := ← field? fields "level" Json.text? default.level
    format := ← field? fields "format" logFormat? default.format }

def ofJson? (j : Json) : Option Config := do
  let fields ← fieldsOf? ["server", "bmc", "ipmi", "screenshot", "s3", "logging"] j
  return {
    server := ← field? fields "server" Server.ofJson? {}
    bmc := ← field? fields "bmc" Bmc.ofJson? {}
    ipmi := ← field? fields "ipmi" Ipmi.ofJson? {}
    screenshot := ← field? fields "screenshot" Screenshot.ofJson? {}
    s3 := ← field? fields "s3" S3.ofJson? {}
    logging := ← field? fields "logging" Logging.ofJson? {} }

end Config

/-- A tree laid over another one. Objects are laid over objects member by member. Any other value
takes the place of what was there. -/
def Json.overlay (base cover : Json) : Json :=
  match base, cover with
  | .object below, .object above => .object (overlayMembers below above)
  | _, cover => cover
where
  overlayMembers (below : List (String × Json)) : List (String × Json) → List (String × Json)
    | [] => below
    | (name, value) :: rest =>
      let merged := match below.lookup name with
        | some old => Json.overlay old value
        | none => value
      overlayMembers (Json.insert name merged below) rest

end Outband
