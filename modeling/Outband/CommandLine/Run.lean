import Outband.CommandLine.Parse
import Outband.Config.Load
import Outband.Engine
import Outband.Http.Service
import Outband.Http.SocketAddress
/-! Running command lines, from the words to the exit code. -/

namespace Outband

/-- The service for the settings. It shows the files of the machine. -/
def Config.service (c : Config) (searchPath : List String) (tool : Ipmi.Tool τ) :
    Except Error (Http.Service (Ipmi.Machine τ)) := do
  let gallery ← c.gallery
  let engine ← c.engine searchPath tool
  return ⟨engine.world, engine.credentials, gallery, (·.files)⟩

namespace CommandLine

/-- How the program ends: its exit code and what it prints. -/
structure Exit where
  code : Nat
  out : String := ""
  err : String := ""
  deriving DecidableEq, Repr

inductive Conclusion (σ : Type) where
  | exits (exit : Exit)
  /-- The service is started at an address and goes on. -/
  | serves (address : String) (service : Http.Service σ)

def usage (purpose : String) : String :=
  "\n".intercalate
    [purpose, "",
      "Usage: bmc-actor [-v]... [-c FILE] serve [--bind ADDRESS]",
      "       bmc-actor [-v]... [-c FILE] exec host HOST ACTION...",
      "       bmc-actor [-v]... [-c FILE] exec chassis HOST ACTION...",
      "       bmc-actor [-v]... [-c FILE] exec blade-pos HOST POSITION ACTION...",
      "       bmc-actor [-v]... [-c FILE] exec blade-serial HOST SERIAL ACTION...", ""]

namespace UsageFault

def message : UsageFault → String
  | .invalidValue => "a value is required for an option but none was supplied"
  | .tooManyValues => "unexpected value for an option; no more were expected"
  | .conflict => "an option cannot be used multiple times"
  | .unknownArgument => "unexpected argument found"
  | .invalidSubcommand => "unrecognized subcommand"
  | .missingSubcommand => "a subcommand is required but one was not provided"
  | .missingArgument => "required arguments were not provided"
  | .nothingGiven command => usage command.purpose
  | .help => usage Command.top.purpose
  | .version command => command.displayName ++ " " ++ Http.version

/-- Help and version are printed as asked for. Anything else is an error. -/
def exit (fault : UsageFault) : Exit :=
  match fault with
  | .help => ⟨0, fault.message, ""⟩
  | .version _ => ⟨0, fault.message ++ "\n", ""⟩
  | .nothingGiven _ => ⟨2, "", fault.message⟩
  | _ => ⟨2, "", "error: " ++ fault.message ++ "\n"⟩

end UsageFault

def errorLine (message : String) : String := "Error: " ++ message ++ "\n"

/-- From this many verbosity flags on, the program names itself before it runs. -/
def noticeVerbosity : Nat := 2

def notice (verbosity : Nat) : String :=
  if noticeVerbosity ≤ verbosity then Command.programName ++ " v" ++ Http.version ++ "\n" else ""

def searchVariable : String := "PATH"

/-- The directories in which the environment has programs looked for. -/
def searchPath (env : Environment) : List String :=
  match env.lookup searchVariable with
  | some value => value.splitOn ":"
  | none => []

/-- Prints the results of the actions that were done. The first failure gives the exit code. -/
def resultsExit (report : RunReport) (err : String) : Exit :=
  let results := Json.array (report.results.map (·.toJson))
  ⟨(report.error?.map (·.exitCode)).getD 0, results.pretty ++ "\n", err⟩

/-- Compiles and runs the actions. -/
def execute (engine : Engine σ) (selection : Selection) (actions : List String) (err : String)
    (s : Scene σ) : Exit × Scene σ :=
  match Plan.compile selection.kind selection.params actions with
  | .error e => (⟨e.exitCode, "", err ++ errorLine e.message⟩, s)
  | .ok plan =>
    let (report, s) := engine.run plan s
    (resultsExit report err, s)

/-- Runs a command line on a machine. The home directory on record is that of the password
database. -/
def run (formats : Config.Formats) (tool : Ipmi.Tool τ) (env : Environment)
    (onRecord : Option String) (words : List String) (s : Scene (Ipmi.Machine τ)) :
    Conclusion (Ipmi.Machine τ) × Scene (Ipmi.Machine τ) :=
  match parse (env.lookup Config.fileVariable) words with
  | .error fault => (.exits fault.exit, s)
  | .ok line =>
    match Config.load formats s.world.files env onRecord line.config with
    | .error e => (.exits ⟨1, "", errorLine e.message⟩, s)
    | .ok config =>
      let err := notice line.verbosity
      let fail (message : String) : Conclusion (Ipmi.Machine τ) :=
        .exits ⟨1, "", err ++ errorLine message⟩
      match line.order with
      | .serve bind =>
        let address := bind.getD config.server.bindTo
        if Http.SocketAddress.isValid address then
          match config.service (searchPath env) tool with
          | .error e => (fail e.message, s)
          | .ok service => (.serves address service, s)
        else (fail ("Invalid bind address: " ++ address), s)
      | .exec selection actions =>
        match config.engine (searchPath env) tool with
        | .error e => (fail e.message, s)
        | .ok engine =>
          let (exit, s) := execute engine selection actions err s
          (.exits exit, s)

end CommandLine

end Outband
