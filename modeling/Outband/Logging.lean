import Outband.Config.Basic
import Outband.Text.Casing
/-! What is logged, and how it is shown. -/

namespace Outband

inductive LogLevel where
  | warn
  | info
  | debug
  | trace
  deriving DecidableEq, Repr

namespace LogLevel

def name : LogLevel → String
  | .warn => "WARN"
  | .info => "INFO"
  | .debug => "DEBUG"
  | .trace => "TRACE"

/-- The level for a number of verbosity flags. -/
def ofVerbosity : Nat → LogLevel
  | 0 => .warn
  | 1 => .info
  | 2 => .debug
  | _ => .trace

/-- The filter that lets the level through. -/
def filter (level : LogLevel) : String := Text.lowerCase level.name

end LogLevel

/-- A format as users name it, in any case. -/
def LogFormat.parse (text : String) : Except String LogFormat :=
  let name := Text.lowerCase text
  match ofName? name with
  | some format => .ok format
  | none => .error ("unknown log format '" ++ name ++ "'")

/-- How a log is written. -/
structure LogStyle where
  filter : String := "info"
  format : LogFormat := .pretty
  colored : Bool := true
  /-- Events name the part of the program that they come from. -/
  showsOrigin : Bool := false
  deriving DecidableEq, Repr

namespace LogStyle

/-- From this many verbosity flags on, events show where they come from. -/
def originVerbosity : Nat := 3

/-- The style that the settings ask for. -/
def ofConfig (c : Config.Logging) (verbosity : Nat) : LogStyle :=
  { filter := c.level, format := c.format, showsOrigin := originVerbosity ≤ verbosity }

def withLevel (s : LogStyle) (level : LogLevel) : LogStyle := { s with filter := level.filter }

/-- The style of a run. Verbosity flags count more than the configured level. -/
def ofRun (c : Config.Logging) (verbosity : Nat) : LogStyle :=
  if verbosity = 0 then ofConfig c verbosity
  else (ofConfig c verbosity).withLevel (.ofVerbosity verbosity)

def describe (s : LogStyle) : String :=
  describeRecord "LoggingBuilder"
    [("filter", Text.quoted s.filter), ("format", s.format.label), ("ansi", toString s.colored),
      ("with_target", toString s.showsOrigin)]

end LogStyle

end Outband
