import Outband.Action
import Outband.Endpoint
import Outband.Error
import Outband.Target.Slot
import Outband.Text.Utf8
/-! The calls that reach the world outside: drivers, chassis and the store of screenshots. A world
is anything that answers them, each answer after some delay. -/

namespace Outband

/-- Milliseconds on the clock of a run. -/
abbrev Time := Nat

/-- Which driver serves a server. -/
inductive Backend where
  | native
  | fallback
  deriving DecidableEq, Repr

/-- The name that a server's backend is reported under. -/
def Backend.name : Backend → String
  | .native => "native"
  | .fallback => "ipmi"

/-- What a driver says about itself when it has connected. -/
structure Driver where
  /-- The type of hardware that it reports. -/
  hardware : String
  /-- It can boot from the network in legacy mode. -/
  legacyBoot : Bool
  /-- It can boot from the network in UEFI mode. -/
  uefiBoot : Bool
  deriving DecidableEq, Repr

/-- An open session with a server's controller. -/
structure ServerSession where
  backend : Backend
  endpoint : Endpoint
  driver : Driver
  deriving DecidableEq, Repr

/-- An open session with a chassis controller. -/
structure ChassisSession where
  endpoint : Endpoint
  deriving DecidableEq, Repr

/-- An image of the console and its file extension. -/
structure Capture where
  payload : Bytes
  extension : String
  deriving DecidableEq, Repr

inductive Call where
  | connectHost (endpoint : Endpoint)
  | connectFallback (endpoint : Endpoint)
  | connectChassis (endpoint : Endpoint)
  | server (session : ServerSession) (op : ServerOp)
  | capture (session : ServerSession)
  | closeServer (session : ServerSession)
  | chassis (session : ChassisSession) (op : ChassisOp)
  | blade (session : ChassisSession) (op : BladeOp) (slot : Slot)
  | findBlade (session : ChassisSession) (serial : String)
  | closeChassis (session : ChassisSession)
  | store (name : String) (payload : Bytes)
  deriving DecidableEq, Repr

/-- What a call answers when it returns. -/
abbrev Call.Answer : Call → Type
  | .connectHost _ | .connectFallback _ => Except DriverError Driver
  | .connectChassis _ | .closeServer _ | .closeChassis _ => Except DriverError Unit
  | .server .. | .chassis .. | .blade .. => Except DriverError Bool
  | .capture _ => Except DriverError Capture
  | .findBlade .. => Except DriverError Slot
  | .store .. => Except StoreError String

/-- A call that crashes ends the work that made it. -/
inductive Outcome (α : Type) where
  | returns (answer : α)
  | crashes

structure Reply (α : Type) where
  delay : Time := 0
  outcome : Outcome α

def Reply.now (answer : α) : Reply α := ⟨0, .returns answer⟩

/-- How a world in some state answers a call, and its state after. -/
abbrev World (σ : Type) := (call : Call) → σ → Reply call.Answer × σ

inductive Event where
  | called (call : Call)
  | ended (call : Call) (outcome : Outcome call.Answer)

/-- The world as it stands, the time, and what happened so far. -/
structure Scene (σ : Type) where
  world : σ
  now : Time := 0
  log : List Event := []
  /-- The Unix time in milliseconds at which the clock stood at zero. -/
  origin : Int := 0

namespace Scene

def moveTo (s : Scene σ) (due : Time) : Scene σ := { s with now := max s.now due }

def note (s : Scene σ) (event : Event) : Scene σ := { s with log := s.log ++ [event] }

/-- Makes a call. The world takes its new state at once, however long the answer takes. -/
def ask (world : World σ) (s : Scene σ) (call : Call) : Reply call.Answer × Scene σ :=
  let (reply, state) := world call s.world
  (reply, { s with world := state }.note (.called call))

/-- The calls made so far, in order. -/
def calls (s : Scene σ) : List Call :=
  s.log.filterMap fun
    | .called call => some call
    | .ended .. => none

/-- Whole seconds of Unix time. -/
def unixSeconds (s : Scene σ) : Int := (s.origin + s.now).fdiv 1000

end Scene

end Outband
