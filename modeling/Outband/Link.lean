import Outband.Job
/-! The lazily opened session of a connection. The first caller who needs it starts an attempt to
connect. Callers who come while it runs wait for the same attempt, so that no matter how many race
only one session is opened. An attempt that fails is forgotten, a session stays until it is
detached. -/

namespace Outband

/-- An attempt to connect to a controller, for a session `H`. It runs only while a caller waits for
it. -/
inductive Attempt (H : Type) where
  | running (job : Job (Except DriverError H))
  | ended (outcome : Except DriverError H)
  | crashed

inductive Phase (H : Type) where
  | idle
  | connecting (attempt : Nat)
  | connected (session : H)

structure Link (H : Type) where
  phase : Phase H := .idle
  /-- Every attempt started so far, in order. -/
  attempts : List (Attempt H) := []

namespace Link

/-- The session, if one is open. -/
def session? (l : Link H) : Option H :=
  match l.phase with
  | .connected session => some session
  | _ => none

/-- Starts an attempt. Its number is its place among the attempts. -/
def start (l : Link H) (connect : Job (Except DriverError H)) : Nat × Link H :=
  let number := l.attempts.length
  (number, ⟨.connecting number, l.attempts ++ [.running connect]⟩)

def record (l : Link H) (number : Nat) (attempt : Attempt H) : Link H :=
  { l with attempts := l.attempts.set number attempt }

/-- Takes in how an attempt ended, unless the link has moved on from it. -/
def settle (l : Link H) (number : Nat) (outcome : Except DriverError H) : Link H :=
  match l.phase with
  | .connecting current =>
    if current = number then
      match outcome with
      | .ok session => { l with phase := .connected session }
      | .error _ => { l with phase := .idle }
    else l
  | _ => l

/-- Gives up what the link holds. Whoever detaches it takes over the session, or the wait for the
attempt that may still bring one. -/
def detach (l : Link H) : Phase H × Link H := (l.phase, { l with phase := .idle })

/-- What a caller finds who waits for an attempt. -/
inductive Finding (H : Type) where
  | pending
  | ended (outcome : Except DriverError H)
  | crashed (cause : Crash)

/-- Runs an attempt on behalf of a caller who waits for it. Once it has crashed, every later caller
crashes too. -/
def advance (world : World σ) (limit : Limit) (number : Nat) (l : Link H) (s : Scene σ) :
    Finding H × Link H × Scene σ :=
  match l.attempts[number]? with
  | some (.running job) =>
    match job.carry world limit s with
    | (.done outcome, s) => (.ended outcome, l.record number (.ended outcome), s)
    | (.crashed cause, s) => (.crashed cause, l.record number .crashed, s)
    | (job, s) => (.pending, l.record number (.running job), s)
  | some (.ended outcome) => (.ended outcome, l, s)
  | some .crashed => (.crashed (.attempt number), l, s)
  | none => (.pending, l, s)

/-- A caller who waits for the attempt could go on at this time. -/
def isReady (l : Link H) (number : Nat) (now : Time) : Bool :=
  match l.attempts[number]? with
  | some (.running job) => job.due?.all (· ≤ now)
  | some _ => true
  | none => false

/-- When the wait ends that the attempt is in. -/
def due? (l : Link H) (number : Nat) : Option Time :=
  match l.attempts[number]? with
  | some (.running job) => job.due?
  | _ => none

end Link

end Outband
