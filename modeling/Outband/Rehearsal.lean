import Outband.Text.Hex
import Outband.World
/-! A world that follows a script, to rehearse plans without devices. -/

namespace Outband

/-- The scripted outcome of one call. -/
inductive Cue where
  /-- The call goes well. -/
  | plain
  | driverError (cause : DriverError)
  | storeError (cause : StoreError)
  | state (on : Bool)
  | image (capture : Capture)
  | crash
  deriving DecidableEq, Repr

/-- Cues and delays by the key of a call. Cues are used up in order, and the last one stays. -/
structure Script where
  cues : List (String × List Cue) := []
  delays : List (String × Time) := []
  blades : List (String × Slot) := []
  driver : Driver := ⟨"rehearsed", true, true⟩

namespace ServerOp

def key : ServerOp → String
  | .isOn => "is_on"
  | .powerOn => "power_on"
  | .powerOff => "power_off"
  | .powerCycle => "power_cycle"
  | .powerCycleBmc => "power_cycle_bmc"
  | .pxeOnce => "pxe_once"
  | .pxeOnceMbr => "pxe_once_mbr"
  | .pxeOnceEfi => "pxe_once_efi"

def all : List ServerOp :=
  [.isOn, .powerOn, .powerOff, .powerCycle, .powerCycleBmc, .pxeOnce, .pxeOnceMbr, .pxeOnceEfi]

end ServerOp

namespace ChassisOp

def key : ChassisOp → String
  | .isOn => "is_on"
  | .powerOn => "power_on"
  | .powerCycle => "power_cycle"

def all : List ChassisOp := [.isOn, .powerOn, .powerCycle]

end ChassisOp

namespace BladeOp

def key : BladeOp → String
  | .isOn => "is_on"
  | .powerOn => "power_on"
  | .powerOff => "power_off"
  | .powerCycle => "power_cycle"
  | .powerCycleBmc => "power_cycle_bmc"
  | .pxeOnce => "pxe_once"
  | .reseat => "reseat"

def all : List BladeOp :=
  [.isOn, .powerOn, .powerOff, .powerCycle, .powerCycleBmc, .pxeOnce, .reseat]

end BladeOp

def Backend.key : Backend → String
  | .native => "native"
  | .fallback => "fallback"

namespace Call

/-- The key under which a script holds the cues of a call. -/
def key : Call → String
  | .connectHost _ => "connect_host"
  | .connectFallback _ => "connect_fallback"
  | .connectChassis _ => "connect_chassis"
  | .server session op => session.backend.key ++ "." ++ op.key
  | .capture session => session.backend.key ++ ".screenshot"
  | .closeServer session => session.backend.key ++ ".close"
  | .chassis _ op => "chassis." ++ op.key
  | .blade _ op _ => "blade." ++ op.key
  | .findBlade .. => "blade.find"
  | .closeChassis _ => "chassis.close"
  | .store .. => "store"

/-- What a trace shows of a call after its key. -/
def details : Call → List String
  | .connectHost e | .connectFallback e | .connectChassis e =>
    [e.host, e.credentials.username, e.credentials.password]
  | .blade _ _ slot => [toString slot.number]
  | .findBlade _ serial => [serial]
  | .store name payload => [name, Text.hex payload]
  | _ => []

/-- The line of a trace for a call. -/
def line (call : Call) : String := " ".intercalate (call.key :: call.details)

end Call

namespace Script

/-- Puts the rest of the cues in place of what a key has. -/
def setCues (key : String) (rest : List Cue) : List (String × List Cue) → List (String × List Cue)
  | [] => []
  | (k, cues) :: more => if k = key then (k, rest) :: more else (k, cues) :: setCues key rest more

/-- The next cue of a key. -/
def take (s : Script) (key : String) : Cue × Script :=
  match s.cues.lookup key with
  | none | some [] => (.plain, s)
  | some [cue] => (cue, s)
  | some (cue :: rest) => (cue, { s with cues := setCues key rest s.cues })

/-- What a call answers when it gets a cue, unless it crashes. -/
def answer (s : Script) (cue : Cue) (call : Call) : call.Answer :=
  match call with
  | .connectHost _ | .connectFallback _ =>
    match cue with
    | .driverError cause => .error cause
    | _ => .ok s.driver
  | .connectChassis _ | .closeServer _ | .closeChassis _ =>
    match cue with
    | .driverError cause => .error cause
    | _ => .ok ()
  | .server .. | .chassis .. | .blade .. =>
    match cue with
    | .driverError cause => .error cause
    | .state on => .ok on
    | _ => .ok true
  | .capture _ =>
    match cue with
    | .driverError cause => .error cause
    | .image capture => .ok capture
    | _ => .error (.notSupported "screenshot")
  | .findBlade _ serial =>
    match cue, s.blades.lookup serial with
    | .driverError cause, _ => .error cause
    | _, some slot => .ok slot
    | _, none => .error (.bladeNotFound serial)
  | .store name _ =>
    match cue with
    | .storeError cause => .error cause
    | _ => .ok ("mem://" ++ name)

def world : World Script := fun call s =>
  let (cue, s) := s.take call.key
  let outcome := match cue with
    | .crash => .crashes
    | cue => .returns (s.answer cue call)
  (⟨(s.delays.lookup call.key).getD 0, outcome⟩, s)

end Script

end Outband
