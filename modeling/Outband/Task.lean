import Outband.Inventory
import Outband.Link
/-! Operations of callers who share one connection. -/

namespace Outband

/-- What the callers of one connection share. `H` is the type of its session. -/
structure Connection (σ H : Type) where
  scene : Scene σ
  link : Link H := {}
  inventory : Inventory := {}

/-- An operation on a connection with sessions `H` that yields an `α`. The forms `join`, `reclaim`
and `queued` are waits that have begun. -/
inductive Task (H α : Type) : Type 1 where
  | done (value : α)
  | crashed (cause : Crash)
  | work {β : Type} (job : Job β) (next : β → Task H α)
  /-- Uses the open session, or else connects. -/
  | enter (connect : Job (Except DriverError H)) (next : Except DriverError H → Task H α)
  | join (attempt : Nat) (next : Except DriverError H → Task H α)
  /-- Takes over the session to release it. -/
  | detach (next : Option H → Task H α)
  | reclaim (attempt : Nat) (next : Option H → Task H α)
  /-- Looks whether a session is open. -/
  | peek (next : Option H → Task H α)
  | lock (access : Access) (next : Task H α)
  | queued (next : Task H α)
  | unlock (next : Task H α)
  | recall (serial : String) (next : Option Slot → Task H α)
  /-- Counts the serial numbers that are known. -/
  | count (next : Nat → Task H α)
  | beginLookup (next : Task H α)
  | remember (serial : String) (slot : Slot) (next : Task H α)
  /-- Reads the clock, in whole seconds of Unix time. -/
  | clock (next : Int → Task H α)

namespace Task

def bind : Task H α → (α → Task H β) → Task H β
  | .done value, next => next value
  | .crashed cause, _ => .crashed cause
  | .work job rest, next => .work job fun b => (rest b).bind next
  | .enter connect rest, next => .enter connect fun outcome => (rest outcome).bind next
  | .join attempt rest, next => .join attempt fun outcome => (rest outcome).bind next
  | .detach rest, next => .detach fun session => (rest session).bind next
  | .reclaim attempt rest, next => .reclaim attempt fun session => (rest session).bind next
  | .peek rest, next => .peek fun session => (rest session).bind next
  | .lock access rest, next => .lock access (rest.bind next)
  | .queued rest, next => .queued (rest.bind next)
  | .unlock rest, next => .unlock (rest.bind next)
  | .recall serial rest, next => .recall serial fun slot => (rest slot).bind next
  | .count rest, next => .count fun n => (rest n).bind next
  | .beginLookup rest, next => .beginLookup (rest.bind next)
  | .remember serial slot rest, next => .remember serial slot (rest.bind next)
  | .clock rest, next => .clock fun seconds => (rest seconds).bind next

instance : Monad (Task H) where
  pure := .done
  bind := bind

end Task

namespace Connection

def setLock (c : Connection σ H) (lock : Lock) : Connection σ H :=
  { c with inventory := { c.inventory with lock := lock } }

/-- What a task leaves behind that ends or is dropped: it holds no lock and waits for none. -/
def release (c : Connection σ H) (owner : Nat) : Connection σ H :=
  c.setLock (c.inventory.lock.leave owner)

/-- Runs an attempt for a caller who waits for it. -/
def advance (world : World σ) (limit : Limit) (number : Nat) (c : Connection σ H) :
    Link.Finding H × Connection σ H :=
  let (finding, link, scene) := c.link.advance world limit number c.scene
  (finding, { c with link := link, scene := scene })

def settle (c : Connection σ H) (number : Nat) (outcome : Except DriverError H) :
    Connection σ H :=
  { c with link := c.link.settle number outcome }

end Connection

namespace Task

/-- The task of a caller as far as it gets within the limit. It stops at a wait that does not end
in time, at a lock that others hold, or at its end. -/
def carry (world : World σ) (owner : Nat) (limit : Limit) :
    Task H α → Connection σ H → Task H α × Connection σ H
  | .done value, c => (.done value, c)
  | .crashed cause, c => (.crashed cause, c)
  | .work job next, c =>
    match job.carry world limit c.scene with
    | (.done value, scene) => (next value).carry world owner limit { c with scene := scene }
    | (.crashed cause, scene) => (.crashed cause, { c with scene := scene }.release owner)
    | (job, scene) => (.work job next, { c with scene := scene })
  | .enter connect next, c =>
    match c.link.phase with
    | .connected session => (next (.ok session)).carry world owner limit c
    | .connecting number =>
      match c.advance world limit number with
      | (.ended outcome, c) => (next outcome).carry world owner limit (c.settle number outcome)
      | (.crashed cause, c) => (.crashed cause, c.release owner)
      | (.pending, c) => (.join number next, c)
    | .idle =>
      let (number, link) := c.link.start connect
      match { c with link := link }.advance world limit number with
      | (.ended outcome, c) => (next outcome).carry world owner limit (c.settle number outcome)
      | (.crashed cause, c) => (.crashed cause, c.release owner)
      | (.pending, c) => (.join number next, c)
  | .join number next, c =>
    match c.advance world limit number with
    | (.ended outcome, c) => (next outcome).carry world owner limit (c.settle number outcome)
    | (.crashed cause, c) => (.crashed cause, c.release owner)
    | (.pending, c) => (.join number next, c)
  | .detach next, c =>
    let (phase, link) := c.link.detach
    let c := { c with link := link }
    match phase with
    | .idle => (next none).carry world owner limit c
    | .connected session => (next (some session)).carry world owner limit c
    | .connecting number =>
      match c.advance world limit number with
      | (.ended outcome, c) => (next outcome.toOption).carry world owner limit c
      | (.crashed cause, c) => (.crashed cause, c.release owner)
      | (.pending, c) => (.reclaim number next, c)
  | .reclaim number next, c =>
    match c.advance world limit number with
    | (.ended outcome, c) => (next outcome.toOption).carry world owner limit c
    | (.crashed cause, c) => (.crashed cause, c.release owner)
    | (.pending, c) => (.reclaim number next, c)
  | .peek next, c => (next c.link.session?).carry world owner limit c
  | .lock access next, c =>
    let c := c.setLock (c.inventory.lock.request owner access)
    if c.inventory.lock.isHeldBy owner then next.carry world owner limit c else (.queued next, c)
  | .queued next, c =>
    if c.inventory.lock.isHeldBy owner then next.carry world owner limit c else (.queued next, c)
  | .unlock next, c => next.carry world owner limit (c.release owner)
  | .recall serial next, c => (next (c.inventory.slot? serial)).carry world owner limit c
  | .count next, c => (next c.inventory.slots.length).carry world owner limit c
  | .beginLookup next, c =>
    next.carry world owner limit
      { c with inventory := { c.inventory with lookups := c.inventory.lookups + 1 } }
  | .remember serial slot next, c =>
    next.carry world owner limit { c with inventory := c.inventory.remember serial slot }
  | .clock next, c => (next c.scene.unixSeconds).carry world owner limit c

/-- The task could go on at this time. -/
def isReady (owner : Nat) (c : Connection σ H) : Task H α → Bool
  | .done _ | .crashed _ => false
  | .work job _ => job.due?.all (· ≤ c.scene.now)
  | .join number _ | .reclaim number _ => c.link.isReady number c.scene.now
  | .queued _ => c.inventory.lock.isHeldBy owner
  | _ => true

/-- When the wait ends that the task is in, if time will end it. -/
def due? (c : Connection σ H) : Task H α → Option Time
  | .work job _ => job.due?
  | .join number _ | .reclaim number _ => c.link.due? number
  | _ => none

/-- A pause of that length. -/
def wait (span : Time) (value : α) : Task H α := .work (.pause span (.done value)) .done

end Task

end Outband
