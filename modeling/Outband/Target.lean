import Outband.Error
import Outband.Json.Printer
import Outband.Target.Slot
import Outband.Text.Blank
/-! The devices a plan acts on, and the parameters that describe them. -/

namespace Outband

abbrev Params := List (String × Json)

inductive Target where
  | host (address : String)
  | chassis (address : String)
  | bladeByPosition (address : String) (position : Slot)
  | bladeBySerial (address serial : String)
  deriving DecidableEq, Repr

/-- Strings stand for themselves, other values for their JSON text. -/
def Json.plain : Json → String
  | .text s => s
  | value => value.compact

namespace Target

def hostParam : String := "host"

def positionParam : String := "bladePos"

def serialParam : String := "bladeSerial"

def required (params : Params) (name : String) : Except Error Json :=
  match params.lookup name with
  | some value => .ok value
  | none => .error (.missingParameter name)

/-- A parameter that may not be blank. -/
def textParam (params : Params) (name : String) : Except Error String := do
  let text := (← required params name).plain
  if Text.isBlankText text then .error (.invalidParameter name text "must not be empty")
  else .ok text

/-- The slot that the text stood for, or what is wrong with it. -/
def slotOr (text : String) : Except Slot.Fault Slot → Except Error Slot
  | .ok slot => .ok slot
  | .error fault => .error (.invalidParameter positionParam text fault.message)

/-- An integer of 64 bits is taken as a number, anything else as the text that it stands for. -/
def slotParam (params : Params) : Except Error Slot := do
  let value ← required params positionParam
  match value.signed? with
  | some n => slotOr (toString n) (Slot.ofInt n)
  | none => slotOr value.plain (Slot.ofText value.plain)

def hostOf (params : Params) : Except Error Target := do
  return .host (← textParam params hostParam)

def chassisOf (params : Params) : Except Error Target := do
  return .chassis (← textParam params hostParam)

def bladeByPositionOf (params : Params) : Except Error Target := do
  let address ← textParam params hostParam
  return .bladeByPosition address (← slotParam params)

def bladeBySerialOf (params : Params) : Except Error Target := do
  let address ← textParam params hostParam
  return .bladeBySerial address (← textParam params serialParam)

/-- The target of that kind which the parameters describe, `none` for plans without a device. -/
def ofParams (kind : Kind) (params : Params) : Except Error (Option Target) :=
  match kind with
  | .host => some <$> hostOf params
  | .chassis => some <$> chassisOf params
  | .bladeByPosition => some <$> bladeByPositionOf params
  | .bladeBySerial => some <$> bladeBySerialOf params
  | .sleep => .ok none

def kind : Target → Kind
  | .host _ => .host
  | .chassis _ => .chassis
  | .bladeByPosition .. => .bladeByPosition
  | .bladeBySerial .. => .bladeBySerial

/-- The address of the controller that the target is reached through. -/
def controller : Target → String
  | .host address | .chassis address => address
  | .bladeByPosition address _ | .bladeBySerial address _ => address

def toParams (t : Target) : Params :=
  match t with
  | .host address | .chassis address => [(hostParam, .text address)]
  | .bladeByPosition address position =>
    [(positionParam, .int position.number), (hostParam, .text address)]
  | .bladeBySerial address serial => [(serialParam, .text serial), (hostParam, .text address)]

end Target

/-- How a blade is found within its chassis. -/
inductive Locator where
  | position (slot : Slot)
  | serial (serial : String)
  deriving DecidableEq, Repr

/-- The chassis and the place in it, of a blade. -/
def Target.locator? : Target → Option (String × Locator)
  | .host _ | .chassis _ => none
  | .bladeByPosition address slot => some (address, .position slot)
  | .bladeBySerial address serial => some (address, .serial serial)

end Outband
