import Outband.Gallery
import Outband.Ipmi.Session
/-! The world as it is with the IPMI tool as the only driver: the native driver knows no hardware,
so every server is served by the tool, and no chassis is. -/

namespace Outband.Ipmi

def toolName : String := "ipmitool"

/-- Where the tool is looked for last. -/
def systemDirectories : List String := ["/bin", "/sbin", "/usr/bin", "/usr/sbin", "/usr/local/sbin"]

structure Settings where
  /-- The tool's path, if it is pinned. -/
  binary : Option String
  interface : String
  /-- The directories in which programs are looked for first. -/
  searchPath : List String := []
  deriving DecidableEq, Repr

def notFound (what : String) : DriverError := .notSupported ("unable to find binary: " ++ what)

/-- The tool's path. A pinned one has to be a file; on the search path the first that can be run
counts, in the system directories the first file. -/
def locate (settings : Settings) (files : Files) : Except DriverError String :=
  match settings.binary with
  | some path => if files.isFile path then .ok path else .error (notFound path)
  | none =>
    let onSearchPath := (settings.searchPath.map (Path.join · toolName)).find?
      fun path => (files.checkExecutable path).isOk
    let inSystem := (systemDirectories.map (Path.join · toolName)).find? files.isFile
    match onSearchPath, inSystem with
    | some path, _ | none, some path => .ok path
    | none, none => .error (notFound toolName)

def connect (settings : Settings) (files : Files) (endpoint : Endpoint) :
    Except DriverError Session := do
  return ⟨← locate settings files, settings.interface, endpoint⟩

def noServerDriver (host : String) : DriverError :=
  .unsupportedHardware ("no native driver available for " ++ host)

def noChassisDriver (host : String) : DriverError :=
  .unsupportedHardware ("no native chassis driver available for " ++ host)

/-- Answers at once. No operation changes the place of the tool, so every use finds it where the
connect did. -/
def answer (settings : Settings) (gallery : Gallery) (tool : Tool τ) (call : Call)
    (m : Machine τ) : call.Answer × Machine τ :=
  match call with
  | .connectHost e => (.error (noServerDriver e.host), m)
  | .connectChassis e => (.error (noChassisDriver e.host), m)
  | .connectFallback e => ((connect settings m.files e).map fun _ => driver, m)
  | .server session op =>
    match connect settings m.files session.endpoint with
    | .ok s => (s.operate tool op).run m
    | .error cause => (.error cause, m)
  | .capture _ => (capture, m)
  | .closeServer _ | .closeChassis _ => (.ok (), m)
  | .chassis session _ | .blade session .. | .findBlade session _ =>
    (.error (noChassisDriver session.endpoint.host), m)
  | .store name payload =>
    let (outcome, files) := gallery.persist name payload m.files
    (outcome, { m with files := files })

def world (settings : Settings) (gallery : Gallery) (tool : Tool τ) : World (Machine τ) :=
  fun call m =>
    let (answer, m) := answer settings gallery tool call m
    (.now answer, m)

end Outband.Ipmi
