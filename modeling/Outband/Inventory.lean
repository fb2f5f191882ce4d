import Outband.Target.Slot
/-! Which blade sits in which slot of a chassis, as far as it was looked up. Readers share the
inventory, a lookup has it for itself. Whoever waits for it is served in the order of arrival. -/

namespace Outband

inductive Access where
  | shared
  | exclusive
  deriving DecidableEq, Repr

/-- A lock with its holders and those who wait for it, each known by a number. -/
structure Lock where
  holders : List (Nat × Access) := []
  queue : List (Nat × Access) := []
  deriving DecidableEq, Repr

namespace Lock

/-- Those who hold the lock leave room for one more. -/
def admits (holders : List (Nat × Access)) : Access → Bool
  | .shared => holders.all (·.2 == .shared)
  | .exclusive => holders.isEmpty

/-- Lets in from the front of the queue whoever can be admitted. -/
def promote (holders : List (Nat × Access)) : List (Nat × Access) → Lock
  | [] => ⟨holders, []⟩
  | (owner, access) :: rest =>
    if admits holders access then promote (holders ++ [(owner, access)]) rest
    else ⟨holders, (owner, access) :: rest⟩

/-- Nobody passes those who came before. -/
def request (l : Lock) (owner : Nat) (access : Access) : Lock :=
  promote l.holders (l.queue ++ [(owner, access)])

/-- Gives up the lock, or the place in the queue. -/
def leave (l : Lock) (owner : Nat) : Lock :=
  promote (l.holders.filter (·.1 != owner)) (l.queue.filter (·.1 != owner))

def isHeldBy (l : Lock) (owner : Nat) : Bool := l.holders.any (·.1 == owner)

end Lock

structure Inventory where
  slots : List (String × Slot) := []
  /-- How many lookups were started. -/
  lookups : Nat := 0
  lock : Lock := {}
  deriving DecidableEq, Repr

namespace Inventory

def slot? (i : Inventory) (serial : String) : Option Slot := i.slots.lookup serial

def remember (i : Inventory) (serial : String) (slot : Slot) : Inventory :=
  { i with slots := i.slots ++ [(serial, slot)] }

end Inventory

end Outband
