import Outband.Chassis
import Outband.Plan
import Outband.Screenshot
import Outband.Server
/-! Running a plan: its steps in order up to the first that fails, and the release of the session
in the end, however the run ends. -/

namespace Outband

/-- How the steps of a kind of target are done, and its session released. -/
structure Executor (H ω : Type) where
  perform : String → ω → Task H ActionResult
  close : Task H (Except DriverError Unit)

namespace Executor

/-- Captures the console and stores the image. The result refers to where it is stored. -/
def screenshot (e : Endpoint) (token : String) : Task ServerSession ActionResult :=
  (Server.capture e).bind fun
    | .error cause => .done (.failed token (.driver cause))
    | .ok shot => .clock fun seconds =>
      let name := Screenshot.fileName e.host shot.hardware shot.capture.extension seconds
      .work (Job.call (.store name shot.capture.payload)) fun
        | .ok reference => .done (.succeeded token true reference)
        | .error cause => .done (.failed token (.store cause))

def server (e : Endpoint) : Executor ServerSession ServerWork where
  perform token
    | .operate op => (Server.operate e op).bind fun r => .done (.ofStatus token r)
    | .screenshot => screenshot e token
  close := Server.close

def chassis (e : Endpoint) : Executor ChassisSession ChassisOp where
  perform token op := (Chassis.operate e op).bind fun r => .done (.ofStatus token r)
  close := Chassis.close

/-- Every action finds the slot of the blade anew. -/
def blade (e : Endpoint) (locator : Locator) : Executor ChassisSession BladeOp where
  perform token op := (Chassis.locate e locator).bind fun
    | .ok slot => (Chassis.operateBlade e op slot).bind fun r => .done (.ofStatus token r)
    | .error cause => .done (.ofStatus token (.error cause))
  close := Chassis.close

/-- Without a device there is nothing to do but to wait. -/
def sleep : Executor Unit Empty where
  perform _ op := nomatch op
  close := .done (.ok ())

end Executor

/-- The clock has whole milliseconds, and waits are never shorter than asked for. -/
def milliseconds (nanos : Nat) : Time := (nanos + 999999) / 1000000

def Step.task (ex : Executor H ω) (step : Step ω) : Task H ActionResult :=
  match step.work with
  | .sleep nanos => .wait (milliseconds nanos) (.succeeded step.token true)
  | .operate op => ex.perform step.token op

inductive Halt where
  | finished
  /-- A call crashed, or the run met what a crash left behind. -/
  | crashed (cause : Crash)
  /-- The run was dropped when its time was up. -/
  | dropped
  deriving DecidableEq, Repr

structure RunReport where
  /-- The results of the steps that were done. -/
  results : List ActionResult
  halt : Halt
  elapsed : Time
  /-- How often the release of the session was begun. -/
  cleanups : Nat
  deriving Repr

namespace RunReport

/-- The error that stopped the run. -/
def error? (r : RunReport) : Option Error := r.results.getLast?.bind (·.error?)

def isSuccess (r : RunReport) : Bool := r.error?.isNone

end RunReport

/-- The results of the steps up to the first that fails, and how it ended with them. -/
def runSteps (world : World σ) (limit : Limit) (ex : Executor H ω) :
    List (Step ω) → Connection σ H → List ActionResult × Halt × Connection σ H
  | [], c => ([], .finished, c)
  | step :: rest, c =>
    match (step.task ex).carry world 0 limit c with
    | (.done result, c) =>
      if result.isFailure then ([result], .finished, c)
      else
        let (results, halt, c) := runSteps world limit ex rest c
        (result :: results, halt, c)
    | (.crashed cause, c) => ([], .crashed cause, c)
    | (_, c) => ([], .dropped, c)

namespace Executor

/-- The release that is left to the background: nothing bounds it. -/
def release (world : World σ) (ex : Executor H ω) (c : Connection σ H) : Scene σ :=
  (ex.close.carry world 0 none (c.release 0)).2.scene

/-- The end of a run whose time is up: the release of its session is left to the background. -/
def cutOff (world : World σ) (limit : Limit) (ex : Executor H ω) (start : Time) (cleanups : Nat)
    (results : List ActionResult) (c : Connection σ H) : RunReport × Scene σ :=
  let c := { c with scene := c.scene.moveTo (limit.getD start) }
  (⟨results, .dropped, c.scene.now - start, cleanups⟩, ex.release world c)

/-- The end of a run whose steps have come to a halt. When the release of the session does not come
to its end, it is begun once more in the background. -/
def finish (world : World σ) (limit : Limit) (ex : Executor H ω) (start : Time)
    (results : List ActionResult) (halt : Halt) (c : Connection σ H) : RunReport × Scene σ :=
  match ex.close.carry world 0 limit c with
  | (.done _, c) => (⟨results, halt, c.scene.now - start, 1⟩, c.scene)
  | (.crashed cause, c) =>
    (⟨results, .crashed cause, c.scene.now - start, 2⟩, ex.release world c)
  | (_, c) => ex.cutOff world limit start 2 results c

/-- Runs the steps on a fresh connection and releases it. -/
def run (world : World σ) (limit : Limit) (ex : Executor H ω) (steps : List (Step ω))
    (scene : Scene σ) : RunReport × Scene σ :=
  match runSteps world limit ex steps { scene := scene } with
  | (results, .dropped, c) => ex.cutOff world limit scene.now 1 results c
  | (results, halt, c) => ex.finish world limit scene.now results halt c

end Executor

/-- Runs a plan with these credentials. -/
def Plan.run (world : World σ) (credentials : Credentials) (limit : Limit) (plan : Plan)
    (scene : Scene σ) : RunReport × Scene σ :=
  match plan with
  | .server address steps => (Executor.server ⟨address, credentials⟩).run world limit steps scene
  | .chassis address steps => (Executor.chassis ⟨address, credentials⟩).run world limit steps scene
  | .blade address locator steps =>
    (Executor.blade ⟨address, credentials⟩ locator).run world limit steps scene
  | .sleep steps => Executor.sleep.run world limit steps scene

end Outband
