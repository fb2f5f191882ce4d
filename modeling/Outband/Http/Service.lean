import Outband.Http.ActionRequest
import Outband.Http.Response
import Outband.Http.Route
import Outband.Plan.Run
/-! The service: power states and actions of devices, and the stored screenshots. -/

namespace Outband.Http

inductive Method where
  | get
  /-- As `get`, but only the status is of interest. -/
  | head
  | post
  | other
  deriving DecidableEq, Repr

structure Request where
  method : Method
  /-- The path, and a query that is not looked at. -/
  target : String
  contentType : Option String := none
  body : Bytes := []
  deriving Repr

def Request.path (r : Request) : String :=
  String.ofList (r.target.toList.takeWhile fun c => c != '?' && c != '#')

def version : String := "0.1.0"

/-- What runs plans and keeps screenshots. `files` are the files as a state of the world has
them. -/
structure Service (σ : Type) where
  world : World σ
  credentials : Credentials
  gallery : Gallery
  files : σ → Files

/-- A response, or none when the work on it crashed. -/
abbrev Reaction (σ : Type) := Option Response × Scene σ

namespace Service

def health (s : Scene σ) : Response :=
  ⟨.ok, .json (.object [("status", .text "ok"), ("version", .text version),
    ("uptime_secs", .int (s.now / 1000 : Nat))])⟩

/-- Runs actions on a device. `respond` makes the response from the results, told whether all went
well. -/
def perform (service : Service σ) (device : Device) (tokens : List String)
    (respond : Bool → List ActionResult → Response) (s : Scene σ) : Reaction σ :=
  match Plan.compile device.kind device.params tokens with
  | .error e => (some (.ofError e), s)
  | .ok plan =>
    let (report, s) := plan.run service.world service.credentials none s
    match report.halt with
    | .finished => (some (respond report.isSuccess report.results), s)
    | _ => (none, s)

def outcome (success : Bool) : Status := if success then .ok else .expectationFailed

def noResult : String := "actions have been executed but no response returned"

/-- The power state: the one result of asking for it. -/
def query (service : Service σ) (device : Device) (s : Scene σ) : Reaction σ :=
  service.perform device [Action.isOn.token] (fun success results =>
    match results with
    | [] => .failure .internalError noResult
    | result :: _ => ⟨outcome success, .json (entry result)⟩) s

/-- The results of all actions that were done. -/
def execute (service : Service σ) (device : Device) (tokens : List String) (s : Scene σ) :
    Reaction σ :=
  service.perform device tokens
    (fun success results => ⟨outcome success, .json (.array (results.map entry))⟩) s

/-- A request for a device. Its path is looked at before its body. -/
def onDevice (service : Service σ) (device : Device) (request : Request) (s : Scene σ) :
    Reaction σ :=
  match device.decode with
  | .error fault => (some ⟨.badRequest, .text fault.message⟩, s)
  | .ok device =>
    match device.check with
    | .error fault => (some (.badRequest fault.message), s)
    | .ok () =>
      if request.method = .post then
        match ActionRequest.read request.contentType request.body with
        | .error fault =>
          (some (.badRequest ("failed to unmarshal request: " ++ fault.message)), s)
        | .ok body => service.execute device body.actions s
      else service.query device s

def dispatch (service : Service σ) (request : Request) (s : Scene σ) : Reaction σ :=
  let refused : Reaction σ := (some ⟨.methodNotAllowed, .empty⟩, s)
  match Route.ofPath service.gallery.mountPath request.path, request.method with
  | .unknown, _ => (some ⟨.notFound, .empty⟩, s)
  | _, .other => refused
  | .health, .post | .file _, .post => refused
  | .health, _ => (some (health s), s)
  | .file path, _ =>
    (some (sendFrom (service.files s.world) service.gallery.directory path), s)
  | .device device, _ => service.onDevice device request s

/-- Answers a request. The answer to `head` has no body. -/
def respond (service : Service σ) (request : Request) (s : Scene σ) : Reaction σ :=
  let (response, s) := service.dispatch request s
  if request.method = .head then (response.map fun r => { r with body := .empty }, s)
  else (response, s)

end Service

end Outband.Http
