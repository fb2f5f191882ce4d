import Outband.Endpoint
import Outband.Ipmi.Tool
import Outband.Text.Blank
import Outband.World
/-! Operations on a server through the IPMI tool. Each command is one run of the tool, whose output
has to hold the phrase that it prints on success. -/

namespace Outband.Ipmi

inductive Command where
  | status
  | on
  | off
  | reset
  | coldReset
  | bootLegacy
  | bootUefi
  deriving DecidableEq, Repr

namespace Command

def words : Command → List String
  | .status => ["chassis", "power", "status"]
  | .on => ["chassis", "power", "on"]
  | .off => ["chassis", "power", "off"]
  | .reset => ["chassis", "power", "reset"]
  | .coldReset => ["mc", "reset", "cold"]
  | .bootLegacy => ["chassis", "bootdev", "pxe"]
  | .bootUefi => ["chassis", "bootdev", "pxe", "options=efiboot"]

def text (c : Command) : String := " ".intercalate c.words

/-- What the tool prints when the command succeeds, for the status when the power is on. -/
def phrase : Command → String
  | .status => "Chassis Power is on"
  | .on => "Chassis Power Control: Up/On"
  | .off => "Chassis Power Control: Down/Off"
  | .reset => "Chassis Power Control: Reset"
  | .coldReset => "Sent cold reset command to MC"
  | .bootLegacy | .bootUefi => "Set Boot Device to pxe"

end Command

/-- What the tool prints for the status when the power is off. -/
def offPhrase : String := "Chassis Power is off"

/-- The text occurs in the characters. -/
def occurs (phrase : List Char) : List Char → Bool
  | [] => phrase.isEmpty
  | c :: rest => phrase.isPrefixOf (c :: rest) || occurs phrase rest

def mentions (output phrase : String) : Bool := occurs phrase.toList output.toList

/-- Output without the phrase is reported as it is. -/
def unexpected (output : String) : DriverError := .operation (Text.trim output)

def powerState (output : String) : Except DriverError Bool :=
  if mentions output Command.status.phrase then .ok true
  else if mentions output offPhrase then .ok false
  else .error (unexpected output)

def expect (phrase output : String) : Except DriverError Bool :=
  if mentions output phrase then .ok true else .error (unexpected output)

/-- A server's controller, and how the tool is run for it. -/
structure Session where
  binary : String
  interface : String
  endpoint : Endpoint
  deriving DecidableEq, Repr

/-- Work with the tool that can fail. -/
abbrev Use (τ α : Type) := ExceptT DriverError (StateM (Machine τ)) α

namespace Session

/-- The arguments for a command. The password is not among them. -/
def arguments (s : Session) (words : List String) : List String :=
  ["-I", s.interface, "-U", s.endpoint.credentials.username, "-E", "-H", s.endpoint.host] ++ words

def invocation (s : Session) (c : Command) : Invocation :=
  ⟨s.arguments c.words, s.endpoint.credentials.password⟩

/-- What is known of a command from its run: all that it printed, if it succeeded. -/
def reading (c : Command) : Except String Execution → Except DriverError String
  | .error reason => .error (.commandFailed c.text reason "")
  | .ok execution =>
    if execution.isSuccess then .ok execution.output
    else .error (.commandFailed c.text execution.ending.describe execution.output)

/-- Runs a command for what it prints. -/
def run (tool : Tool τ) (s : Session) (c : Command) : Use τ String := fun m =>
  let (outcome, m) := m.run tool s.binary (s.invocation c)
  (reading c outcome, m)

/-- Runs a command that has one phrase for success. -/
def command (tool : Tool τ) (s : Session) (c : Command) : Use τ Bool := do
  let output ← s.run tool c
  ExceptT.mk (pure (expect c.phrase output))

def isOn (tool : Tool τ) (s : Session) : Use τ Bool := do
  let output ← s.run tool .status
  ExceptT.mk (pure (powerState output))

def powerOn (tool : Tool τ) (s : Session) : Use τ Bool := do
  if ← s.isOn tool then throw (.operation "server is already on") else s.command tool .on

def powerOff (tool : Tool τ) (s : Session) : Use τ Bool := do
  if ← s.isOn tool then s.command tool .off else throw (.operation "server is already off")

/-- Chooses the boot device, then resets the server. -/
def bootOnce (tool : Tool τ) (s : Session) (choice : Command) : Use τ Bool := do
  let _ ← s.command tool choice
  s.command tool .reset

def operate (tool : Tool τ) (s : Session) : ServerOp → Use τ Bool
  | .isOn => s.isOn tool
  | .powerOn => s.powerOn tool
  | .powerOff => s.powerOff tool
  | .powerCycle => s.command tool .reset
  | .powerCycleBmc => s.command tool .coldReset
  | .pxeOnce | .pxeOnceEfi => s.bootOnce tool .bootUefi
  | .pxeOnceMbr => s.bootOnce tool .bootLegacy

end Session

/-- What the tool's driver says about itself. -/
def driver : Driver := ⟨"ipmi", true, true⟩

/-- IPMI has no access to the console. -/
def capture : Except DriverError Capture :=
  .error (.notSupported "screenshot is not available over IPMI")

end Outband.Ipmi
