import Outband.Target
import Outband.Text.Percent
/-! What the paths of requests ask for. -/

namespace Outband.Http

/-- A device as a path names it. -/
inductive Device where
  | host (address : String)
  | chassis (address : String)
  | bladeByPosition (address position : String)
  | bladeBySerial (address serial : String)
  deriving DecidableEq, Repr

inductive Route where
  | health
  /-- A device. The segments of the path that name it are still encoded. -/
  | device (device : Device)
  /-- A file below the directory of screenshots. -/
  | file (path : String)
  | unknown
  deriving DecidableEq, Repr

/-- What is wrong with the segments of a path. -/
inductive PathFault where
  /-- The segment of that name is not encoded text. -/
  | undecodable (segment : String)
  | host (text : String)
  | position (text : String) (fault : Slot.Fault)
  | serial (text : String)
  deriving DecidableEq, Repr

def PathFault.message : PathFault → String
  | .undecodable segment => "Invalid URL: Invalid UTF-8 in `" ++ segment ++ "`"
  | .host text => "invalid host: " ++ Text.quoted text
  | .position text fault => "invalid pos: " ++ Text.quoted text ++ ": " ++ fault.message
  | .serial text => "invalid serial: " ++ Text.quoted text

def checkHost (text : String) : Except PathFault Unit :=
  if text.isEmpty then .error (.host text) else .ok ()

/-- A slot is an integer of 32 bits. Negative ones pass. -/
def checkPosition (text : String) : Except PathFault Unit :=
  match Slot.ofText text with
  | .ok _ => .ok ()
  | .error fault => .error (.position text fault)

def checkSerial (text : String) : Except PathFault Unit :=
  if text.isEmpty then .error (.serial text) else .ok ()

namespace Device

def kind : Device → Kind
  | .host _ => .host
  | .chassis _ => .chassis
  | .bladeByPosition .. => .bladeByPosition
  | .bladeBySerial .. => .bladeBySerial

def params : Device → Params
  | .host address | .chassis address => [(Target.hostParam, .text address)]
  | .bladeByPosition address position =>
    [(Target.hostParam, .text address), (Target.positionParam, .text position)]
  | .bladeBySerial address serial =>
    [(Target.hostParam, .text address), (Target.serialParam, .text serial)]

private def decodeSegment (segment text : String) : Except PathFault String :=
  match Text.percentDecode? text with
  | some decoded => .ok decoded
  | none => .error (.undecodable segment)

def decode : Device → Except PathFault Device
  | .host address => do return .host (← decodeSegment "host" address)
  | .chassis address => do return .chassis (← decodeSegment "host" address)
  | .bladeByPosition address position => do
    let address ← decodeSegment "host" address
    return .bladeByPosition address (← decodeSegment "pos" position)
  | .bladeBySerial address serial => do
    let address ← decodeSegment "host" address
    return .bladeBySerial address (← decodeSegment "serial" serial)

/-- The decoded segments are fit to describe a target. -/
def check : Device → Except PathFault Unit
  | .host address | .chassis address => checkHost address
  | .bladeByPosition address position => do
    checkHost address
    checkPosition position
  | .bladeBySerial address serial => do
    checkHost address
    checkSerial serial

end Device

namespace Route

/-- The rest of a path after a mount point, which starts with a slash. -/
def below? (mount path : String) : Option String :=
  let mount := mount.toList
  let path := path.toList
  if mount.isPrefixOf path then
    match path.drop mount.length with
    | [] => some "/"
    | '/' :: rest => some (String.ofList ('/' :: rest))
    | _ => none
  else none

/-- The routes of devices and of the health check. A segment that names something is not empty. -/
def fixed? (path : String) : Option Route :=
  let named (text : String) (device : Device) : Option Route :=
    if text.isEmpty then none else some (.device device)
  match (path.toList.splitOn '/').map String.ofList with
  | ["", "health"] => some .health
  | ["", "host", host] => named host (.host host)
  | ["", "chassis", host] => named host (.chassis host)
  | ["", "chassis", host, "position", position] =>
    if host.isEmpty then none else named position (.bladeByPosition host position)
  | ["", "chassis", host, "serial", serial] =>
    if host.isEmpty then none else named serial (.bladeBySerial host serial)
  | _ => none

/-- Screenshots can be mounted there. The router takes no mount point with a star in it and none
that a fixed route starts with, and one with a colon is a pattern. -/
def isMountable (mount : String) : Bool :=
  mount.toList.all (fun c => c != '*' && c != ':') &&
    !(["/health", "/host", "/chassis"].contains mount)

/-- Every character can stand in the path of a request, and stands for itself there. -/
def isPlain (path : String) : Bool :=
  path.toList.all fun c => c.isAlphanum || "-._~!$&'()*+,;=:@/".toList.contains c

/-- The route of the path of a request, under a mount point that screenshots can be mounted at.
Those mounted at the root are found where no other route is. Mounted elsewhere they hide the devices
of that name. -/
def ofPath (mount path : String) : Route :=
  if mount = "/" then (fixed? path).getD (.file path)
  else
    match below? mount path with
    | some inner => .file inner
    | none => (fixed? path).getD .unknown

end Route

end Outband.Http
