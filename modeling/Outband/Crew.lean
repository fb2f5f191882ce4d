import Outband.Task
/-! Callers who work on one connection at the same time. Each in turn runs until it has to wait, in
the order of the list. When all wait, the clock moves on to the end of the next wait. -/

namespace Outband

/-- Operations to be done: one, several at the same time, or one that is dropped after a span of
time. -/
inductive Routine (H α : Type) : Type 1 where
  | single (task : Task H α)
  | together (parts : List (Routine H α))
  | within (span : Time) (part : Routine H α)

instance : Inhabited (Routine H α) := ⟨.together []⟩

/-- The connection at the moment an operation ended. -/
structure Sight where
  time : Time
  attempts : Nat
  isConnected : Bool
  deriving DecidableEq, Repr

inductive Ending (α : Type) where
  | value (value : α)
  | crashed (cause : Crash)
  | timedOut

/-- What came of a routine. -/
inductive Report (α : Type) where
  | single (ending : Ending α) (seen : Sight)
  | together (parts : List (Report α))
  | pending

/-- A routine under way. Each task has a number of its own, under which it holds the lock. -/
inductive Active (H α : Type) : Type 1 where
  | running (owner : Nat) (task : Task H α)
  | ended (ending : Ending α) (seen : Sight)
  | together (parts : List (Active H α))
  | within (due : Time) (part : Active H α)

namespace Routine

mutual

/-- The routine set going at a time, with its tasks numbered upwards, and the next number. -/
def start (now : Time) (owner : Nat) : Routine H α → Active H α × Nat
  | .single task => (.running owner task, owner + 1)
  | .together parts =>
    let (parts, owner) := startAll now owner parts
    (.together parts, owner)
  | .within span part =>
    let (part, owner) := part.start now owner
    (.within (now + span) part, owner)

def startAll (now : Time) (owner : Nat) : List (Routine H α) → List (Active H α) × Nat
  | [] => ([], owner)
  | part :: rest =>
    let (part, owner) := part.start now owner
    let (rest, owner) := startAll now owner rest
    (part :: rest, owner)

end

mutual

def size : Routine H α → Nat
  | .single _ => 1
  | .together parts => sizeAll parts + 1
  | .within _ part => part.size + 1

def sizeAll : List (Routine H α) → Nat
  | [] => 0
  | part :: rest => part.size + sizeAll rest

end

end Routine

def Connection.sight (c : Connection σ H) : Sight :=
  ⟨c.scene.now, c.link.attempts.length, c.link.session?.isSome⟩

namespace Active

mutual

def isEnded : Active H α → Bool
  | .running .. => false
  | .ended .. => true
  | .together parts => allEnded parts
  | .within _ part => part.isEnded

def allEnded : List (Active H α) → Bool
  | [] => true
  | part :: rest => part.isEnded && allEnded rest

end

mutual

/-- Drops what still runs. -/
def drop (c : Connection σ H) : Active H α → Connection σ H
  | .running owner _ => c.release owner
  | .ended .. => c
  | .together parts => dropAll c parts
  | .within _ part => part.drop c

def dropAll (c : Connection σ H) : List (Active H α) → Connection σ H
  | [] => c
  | part :: rest => dropAll (part.drop c) rest

end

mutual

/-- One turn for each task. A part whose time is up is dropped, unless it ends in this very turn. -/
def turn (world : World σ) : Active H α → Connection σ H → Active H α × Connection σ H
  | .running owner task, c =>
    match task.carry world owner (some c.scene.now) c with
    | (.done value, c) => (.ended (.value value) c.sight, c)
    | (.crashed cause, c) => (.ended (.crashed cause) c.sight, c)
    | (task, c) => (.running owner task, c)
  | .ended ending seen, c => (.ended ending seen, c)
  | .together parts, c =>
    let (parts, c) := turnAll world parts c
    (.together parts, c)
  | .within due part, c =>
    let (part, c) := part.turn world c
    if !part.isEnded && due ≤ c.scene.now then
      let c := part.drop c
      (.ended .timedOut c.sight, c)
    else (.within due part, c)

def turnAll (world : World σ) :
    List (Active H α) → Connection σ H → List (Active H α) × Connection σ H
  | [], c => ([], c)
  | part :: rest, c =>
    let (part, c) := part.turn world c
    let (rest, c) := turnAll world rest c
    (part :: rest, c)

end

mutual

/-- Some task could go on without the clock moving. -/
def isReady (c : Connection σ H) : Active H α → Bool
  | .running owner task => task.isReady owner c
  | .ended .. => false
  | .together parts => anyReady c parts
  | .within _ part => part.isReady c

def anyReady (c : Connection σ H) : List (Active H α) → Bool
  | [] => false
  | part :: rest => part.isReady c || anyReady c rest

end

/-- The earlier of two times, of those that are set. -/
def earlier : Option Time → Option Time → Option Time
  | some a, some b => some (min a b)
  | a, b => a.or b

mutual

/-- When the next wait ends. -/
def due? (c : Connection σ H) : Active H α → Option Time
  | .running _ task => task.due? c
  | .ended .. => none
  | .together parts => anyDue? c parts
  | .within due part => if part.isEnded then none else earlier (some due) (part.due? c)

def anyDue? (c : Connection σ H) : List (Active H α) → Option Time
  | [] => none
  | part :: rest => earlier (part.due? c) (anyDue? c rest)

end

mutual

def report : Active H α → Report α
  | .running .. => .pending
  | .ended ending seen => .single ending seen
  | .together parts => .together (reportAll parts)
  | .within _ part => part.report

def reportAll : List (Active H α) → List (Report α)
  | [] => []
  | part :: rest => part.report :: reportAll rest

end

/-- Turn after turn until all is ended, or nothing that could happen would go on. -/
def drive (world : World σ) : Nat → Active H α → Connection σ H → Active H α × Connection σ H
  | 0, a, c => (a, c)
  | turns + 1, a, c =>
    let (a, c) := a.turn world c
    if a.isEnded then (a, c)
    else if a.isReady c then drive world turns a c
    else
      match a.due? c with
      | some due => drive world turns a { c with scene := c.scene.moveTo due }
      | none => (a, c)

end Active

/-- Turns that are enough for every operation on a connection. None waits more than six times: twice
to connect, twice for the inventory, once each for a lookup and for its own call. -/
def Routine.turns (r : Routine H α) : Nat := 8 * r.size + 8

/-- Runs a routine on a connection to its end. -/
def Routine.run (world : World σ) (r : Routine H α) (c : Connection σ H) :
    Report α × Connection σ H :=
  let (a, c) := (r.start c.scene.now 0).1.drive world r.turns c
  (a.report, c)

end Outband
