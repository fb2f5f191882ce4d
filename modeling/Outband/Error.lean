import Outband.Duration
import Outband.Target.Kind
import Outband.Text.Quoted
/-! Everything that can go wrong, and the message each cause is reported with. -/

namespace Outband

/-- What the driver of a management controller, or the connection to one, reports. -/
inductive DriverError where
  /-- The native driver does not know the model. -/
  | unsupportedHardware (what : String)
  /-- The native driver does not know the vendor. -/
  | vendorNotSupported (what : String)
  | connectionFailed (host message : String)
  | authenticationFailed (host : String)
  /-- The chassis controller that answered is the standby one. -/
  | notActive
  | operation (message : String)
  | notSupported (what : String)
  | bladeNotFound (serial : String)
  /-- An external tool ended with `reason` after it printed `output`. -/
  | commandFailed (command reason output : String)
  deriving DecidableEq, Repr

namespace DriverError

def message : DriverError → String
  | .unsupportedHardware what => "hardware not supported: " ++ what
  | .vendorNotSupported what => "vendor not supported: " ++ what
  | .connectionFailed host message => "failed to connect to " ++ host ++ ": " ++ message
  | .authenticationFailed host => "authentication failed for " ++ host
  | .notActive => "this is not an active controller"
  | .operation message => message
  | .notSupported what => "operation not supported: " ++ what
  | .bladeNotFound serial => "blade with serial '" ++ serial ++ "' not found"
  | .commandFailed command reason output =>
    command ++ " failed: " ++ reason ++ ": " ++ Text.quoted output

/-- The native driver cannot handle the device at all, so a generic protocol may be tried. -/
def isUnsupported : DriverError → Bool
  | .unsupportedHardware _ | .vendorNotSupported _ => true
  | _ => false

end DriverError

inductive StoreError where
  | write (path reason : String)
  | upload (bucket key message : String)
  deriving DecidableEq, Repr

def StoreError.message : StoreError → String
  | .write path reason => "failed to write " ++ path ++ ": " ++ reason
  | .upload bucket key message =>
    "failed to upload data to " ++ bucket ++ "/" ++ key ++ ": " ++ message

def DurationError.message (e : DurationError) : String :=
  "failed to parse duration in sleep action: " ++ e.fault.reason ++ " in " ++ Text.quoted e.input

inductive Error where
  | missingParameter (name : String)
  | invalidParameter (name value message : String)
  | unknownAction (token : String)
  | unsupportedAction (token : String) (kind : Kind)
  | invalidAction (token : String) (cause : DurationError)
  | driver (cause : DriverError)
  | store (cause : StoreError)
  | config (message : String)
  deriving DecidableEq, Repr

namespace Error

def message : Error → String
  | .missingParameter name => "no required parameter '" ++ name ++ "'"
  | .invalidParameter name value message =>
    "failed to parse parameter '" ++ name ++ "' from " ++ Text.quoted value ++ ": " ++ message
  | .unknownAction token => "action '" ++ token ++ "' is unknown"
  | .unsupportedAction token kind =>
    "action '" ++ token ++ "' is not supported by the " ++ kind.name ++ " executor"
  | .invalidAction token cause => "invalid action '" ++ token ++ "': " ++ cause.message
  | .driver cause => cause.message
  | .store cause => "screenshot storage failed: " ++ cause.message
  | .config message => "Configuration error: " ++ message

/-- Found while a plan is compiled, before any device is contacted. -/
def isCompileError : Error → Bool
  | .missingParameter _ | .invalidParameter .. | .unknownAction _ | .unsupportedAction ..
  | .invalidAction .. => true
  | _ => false

/-- The exit code of a command that ends with this error. -/
def exitCode (e : Error) : Nat :=
  if e.isCompileError then 4
  else match e with
    | .driver _ | .store _ => 2
    | _ => 1

end Error

end Outband
