/-! The fixed vocabulary of hardware actions. -/

namespace Outband

inductive Action where
  | powerOff
  | powerOn
  | powerCycle
  /-- In the vocabulary, though no kind of target performs it. -/
  | hardReset
  /-- Takes a blade out of its slot and puts it back. -/
  | reseat
  | isOn
  /-- Resets the management controller itself. -/
  | powerCycleBmc
  /-- Boots from the network at the next start. -/
  | pxeOnce
  /-- The same in legacy boot mode. -/
  | pxeOnceMbr
  /-- The same in UEFI boot mode. -/
  | pxeOnceEfi
  /-- Captures the console. -/
  | screenshot
  deriving DecidableEq, Repr

namespace Action

def all : List Action :=
  [.powerOff, .powerOn, .powerCycle, .hardReset, .reseat, .isOn, .powerCycleBmc, .pxeOnce,
    .pxeOnceMbr, .pxeOnceEfi, .screenshot]

def token : Action → String
  | .powerOff => "poweroff"
  | .powerOn => "poweron"
  | .powerCycle => "powercycle"
  | .hardReset => "hardreset"
  | .reseat => "reseat"
  | .isOn => "ison"
  | .powerCycleBmc => "powercyclebmc"
  | .pxeOnce => "pxeonce"
  | .pxeOnceMbr => "pxeoncembr"
  | .pxeOnceEfi => "pxeonceefi"
  | .screenshot => "screenshot"

/-- The action of a token, spelled exactly. -/
def ofToken? (token : String) : Option Action := all.find? (·.token == token)

end Action

/-- What can be asked of the driver of a standalone server that answers with a power state. -/
inductive ServerOp where
  | isOn
  | powerOn
  | powerOff
  | powerCycle
  | powerCycleBmc
  | pxeOnce
  | pxeOnceMbr
  | pxeOnceEfi
  deriving DecidableEq, Repr

inductive ChassisOp where
  | isOn
  | powerOn
  | powerCycle
  deriving DecidableEq, Repr

/-- What can be asked of a chassis about the blade in one slot. -/
inductive BladeOp where
  | isOn
  | powerOn
  | powerOff
  | powerCycle
  | powerCycleBmc
  | pxeOnce
  | reseat
  deriving DecidableEq, Repr

/-- What an action means for a standalone server. -/
inductive ServerWork where
  | operate (op : ServerOp)
  | screenshot
  deriving DecidableEq, Repr

namespace Action

def serverWork? : Action → Option ServerWork
  | .isOn => some (.operate .isOn)
  | .powerOn => some (.operate .powerOn)
  | .powerOff => some (.operate .powerOff)
  | .powerCycle => some (.operate .powerCycle)
  | .powerCycleBmc => some (.operate .powerCycleBmc)
  | .pxeOnce => some (.operate .pxeOnce)
  | .pxeOnceMbr => some (.operate .pxeOnceMbr)
  | .pxeOnceEfi => some (.operate .pxeOnceEfi)
  | .screenshot => some .screenshot
  | .hardReset | .reseat => none

def chassisOp? : Action → Option ChassisOp
  | .isOn => some .isOn
  | .powerOn => some .powerOn
  | .powerCycle => some .powerCycle
  | _ => none

def bladeOp? : Action → Option BladeOp
  | .isOn => some .isOn
  | .powerOn => some .powerOn
  | .powerOff => some .powerOff
  | .powerCycle => some .powerCycle
  | .powerCycleBmc => some .powerCycleBmc
  | .pxeOnce => some .pxeOnce
  | .reseat => some .reseat
  | _ => none

end Action

end Outband
