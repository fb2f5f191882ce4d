import Outband.Target
import Outband.Task
/-! Operations on a chassis and on the blades in it. All go through the session of the chassis
controller, which only the native driver can open. -/

namespace Outband

/-- An operation on a chassis that can fail. -/
abbrev ChassisTask (α : Type) := Task ChassisSession (Except DriverError α)

namespace Inventory

/-- The slot of a serial number. What is not known is looked up, by one caller at a time, each of
whom first sees whether the one before found it. Only what a lookup finds is remembered. -/
def resolve (serial : String) (lookup : Job (Except DriverError Slot)) :
    Task H (Except DriverError Slot) :=
  .lock .shared <| .recall serial fun
    | some slot => .unlock (.done (.ok slot))
    | none => .unlock <| .lock .exclusive <| .recall serial fun
      | some slot => .unlock (.done (.ok slot))
      | none => .beginLookup <| .work lookup fun
        | .ok slot => .remember serial slot (.unlock (.done (.ok slot)))
        | .error err => .unlock (.done (.error err))

/-- The slot of a serial number as far as it is known. -/
def known (serial : String) : Task H (Option Slot) :=
  .lock .shared <| .recall serial fun slot => .unlock (.done slot)

/-- How many serial numbers are known. -/
def size : Task H Nat := .lock .shared <| .count fun n => .unlock (.done n)

end Inventory

namespace Chassis

def connect (e : Endpoint) : Job (Except DriverError ChassisSession) :=
  .ask (.connectChassis e) fun
    | .ok () => .done (.ok ⟨e⟩)
    | .error err => .done (.error err)

/-- The session, opened if there is none. -/
def session (e : Endpoint) : ChassisTask ChassisSession := .enter (connect e) .done

def operate (e : Endpoint) (op : ChassisOp) : ChassisTask Bool :=
  .enter (connect e) fun
    | .ok session => .work (Job.call (.chassis session op)) .done
    | .error err => .done (.error err)

def operateBlade (e : Endpoint) (op : BladeOp) (slot : Slot) : ChassisTask Bool :=
  .enter (connect e) fun
    | .ok session => .work (Job.call (.blade session op slot)) .done
    | .error err => .done (.error err)

/-- The slot that holds the blade of that serial number. The chassis is asked once for each. -/
def find (e : Endpoint) (serial : String) : ChassisTask Slot :=
  .enter (connect e) fun
    | .ok session => Inventory.resolve serial (Job.call (.findBlade session serial))
    | .error err => .done (.error err)

def locate (e : Endpoint) : Locator → ChassisTask Slot
  | .position slot => .done (.ok slot)
  | .serial serial => find e serial

/-- Releases the session if there is one. What is known about slots stays. -/
def close : ChassisTask Unit :=
  .detach fun
    | some session => .work (Job.call (.closeChassis session)) .done
    | none => .done (.ok ())

end Chassis

end Outband
