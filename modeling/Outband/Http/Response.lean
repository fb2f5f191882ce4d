import Outband.Gallery
import Outband.Json.Printer
import Outband.Plan
import Outband.Text.Percent
/-! Responses, and the files of a gallery as responses. -/

namespace Outband.Http

inductive Status where
  | ok
  | temporaryRedirect
  | badRequest
  | notFound
  | methodNotAllowed
  /-- An action failed. -/
  | expectationFailed
  | internalError
  deriving DecidableEq, Repr

def Status.code : Status → Nat
  | .ok => 200
  | .temporaryRedirect => 307
  | .badRequest => 400
  | .notFound => 404
  | .methodNotAllowed => 405
  | .expectationFailed => 417
  | .internalError => 500

inductive Body where
  | empty
  | text (content : String)
  | json (content : Json)
  | file (content : Bytes)
  deriving Repr

/-- The bytes that are sent. -/
def Body.bytes : Body → Bytes
  | .empty => []
  | .text content => Text.bytesOf content
  | .json content => Text.bytesOf content.compact
  | .file content => content

structure Response where
  status : Status
  body : Body := .empty
  deriving Repr

namespace Response

def failure (status : Status) (message : String) : Response :=
  ⟨status, .json (.object [("error", .text message)])⟩

def badRequest (message : String) : Response := failure .badRequest message

/-- A request that is at fault is told apart from an engine that is. -/
def ofError (e : Error) : Response :=
  failure (if e.isCompileError then .badRequest else .internalError) e.message

end Response

/-- The outcome of an action as responses show it. An action that succeeded has no error text. -/
def entry (r : ActionResult) : Json :=
  .object [("action", .text r.token), ("status", .bool r.status), ("message", .text r.message),
    ("error", .text ((r.error?.map (·.message)).getD ""))]

/-! Files below a directory. -/

/-- The names that a path below a directory consists of. One that starts at the root or goes up is
not below it. -/
def innerPath? (path : String) : Option (List String) := do
  let decoded ← Text.percentDecode? (String.ofList (path.toList.dropWhile (· == '/')))
  let names := (Path.pieces decoded).filter (· != ".")
  if Path.isAbsolute decoded || names.contains ".." then none else some names

def sendFile (files : Files) (path : String) : Response :=
  match files.read path with
  | .ok content => ⟨.ok, .file content⟩
  | .error .missing | .error .denied | .error .notDirectory => ⟨.notFound, .empty⟩
  | .error _ => ⟨.internalError, .empty⟩

def indexName : String := "index.html"

/-- A directory is shown by its index. The path to it has to end in a slash. -/
def sendFrom (files : Files) (directory path : String) : Response :=
  match innerPath? path with
  | none => ⟨.notFound, .empty⟩
  | some names =>
    let target := names.foldl Path.join directory
    match files.find target with
    | .ok (_, .directory) =>
      if Path.endsInSlash path then sendFile files (Path.join target indexName)
      else ⟨.temporaryRedirect, .empty⟩
    | _ => sendFile files target

end Outband.Http
