import Outband.Error
import Outband.Files
/-! The command line tool that speaks IPMI: what it is run with, and how a run ends. -/

namespace Outband.Ipmi

/-- The arguments of a run, and the password that its environment holds. -/
structure Invocation where
  arguments : List String
  password : String
  deriving DecidableEq, Repr

inductive Ending where
  | exited (code : Nat)
  /-- By a signal, after which the system may have kept an image of the process. -/
  | killed (signal : Nat) (dumped : Bool)
  deriving DecidableEq, Repr

/-- The names of the signals from 1 on. -/
def signalNames : List String :=
  ["SIGHUP", "SIGINT", "SIGQUIT", "SIGILL", "SIGTRAP", "SIGABRT", "SIGBUS", "SIGFPE", "SIGKILL",
    "SIGUSR1", "SIGSEGV", "SIGUSR2", "SIGPIPE", "SIGALRM", "SIGTERM", "SIGSTKFLT", "SIGCHLD",
    "SIGCONT", "SIGSTOP", "SIGTSTP", "SIGTTIN", "SIGTTOU", "SIGURG", "SIGXCPU", "SIGXFSZ",
    "SIGVTALRM", "SIGPROF", "SIGWINCH", "SIGIO", "SIGPWR", "SIGSYS"]

def Ending.describe : Ending → String
  | .exited code => "exit status: " ++ toString code
  | .killed signal dumped =>
    let name := match signal, signalNames[signal - 1]? with
      | 0, _ | _, none => ""
      | _, some name => " (" ++ name ++ ")"
    "signal: " ++ toString signal ++ name ++ if dumped then " (core dumped)" else ""

structure Execution where
  ending : Ending
  out : Bytes
  err : Bytes
  deriving DecidableEq, Repr

namespace Execution

/-- All that the run printed, standard output first. -/
def output (e : Execution) : String := Text.decodeLossy e.out ++ Text.decodeLossy e.err

def isSuccess (e : Execution) : Bool := e.ending == .exited 0

end Execution

/-- How the tool behaves in each of its states. The system may also have a reason not to start it,
this time. -/
abbrev Tool (τ : Type) := Invocation → τ → Except String Execution × τ

/-- The machine that the tool runs on, and the runs that were started so far. -/
structure Machine (τ : Type) where
  files : Files
  tool : τ
  invocations : List Invocation := []

namespace Machine

def zeroByteFound : String := "nul byte found in provided data"

/-- Where programs are looked for when the environment does not say it. -/
def defaultDirectories : List String := ["/bin", "/usr/bin"]

/-- Whether a program can be started. One that is named without a slash is looked for: its
environment is cleared, and with it goes the search path. -/
def checkProgram (files : Files) (program : String) : Except FileFault Unit :=
  if program.isEmpty then .error .missing
  else if program.toList.contains '/' then files.checkExecutable program
  else
    let checks := defaultDirectories.map fun directory =>
      files.checkExecutable (Path.join directory program)
    if checks.any (·.isOk) then .ok ()
    else if checks.any (· matches .error .denied) then .error .denied
    else .error .missing

/-- Runs a program. A run that cannot start gives its reason and is not on record. -/
def run (tool : Tool τ) (program : String) (invocation : Invocation) (m : Machine τ) :
    Except String Execution × Machine τ :=
  let hasZero (s : String) : Bool := s.toList.contains '\x00'
  if hasZero program || invocation.arguments.any hasZero || hasZero invocation.password then
    (.error zeroByteFound, m)
  else
    match checkProgram m.files program with
    | .error fault => (.error fault.reason, m)
    | .ok () =>
      match tool invocation m.tool with
      | (.error reason, state) => (.error reason, { m with tool := state })
      | (.ok execution, state) =>
        (.ok execution, { m with tool := state, invocations := m.invocations ++ [invocation] })

end Machine

end Outband.Ipmi
