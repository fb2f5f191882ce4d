import Outband.CommandLine.Run
import Outband.Proofs.Cleanup
import Outband.Proofs.Compilation
import Outband.Proofs.Interleaving
import Outband.Proofs.Requests
/-! What can go wrong when, and that a command and a request tell the same of it: a plan that does
not compile from one of which an action failed, and that from one that went well. -/

namespace Outband

/-! What a task can come to, whatever it is told on its way. -/

/-- Every value that the job can come to has the property. -/
def Job.Yields (P : α → Prop) : Job α → Prop
  | .done value => P value
  | .crashed _ => True
  | .ask _ next | .asked _ _ _ next => ∀ answer, (next answer).Yields P
  | .pause _ next | .paused _ next => next.Yields P

/-- Every value that the task can come to has the property. -/
def Task.Yields (P : α → Prop) : Task H α → Prop
  | .done value => P value
  | .crashed _ => True
  | .work job next => job.Yields fun value => (next value).Yields P
  | .enter _ next | .join _ next => ∀ outcome, (next outcome).Yields P
  | .detach next | .reclaim _ next | .peek next => ∀ session, (next session).Yields P
  | .lock _ next | .queued next | .unlock next | .beginLookup next | .remember _ _ next =>
    next.Yields P
  | .recall _ next => ∀ slot, (next slot).Yields P
  | .count next => ∀ n, (next n).Yields P
  | .clock next => ∀ seconds, (next seconds).Yields P

def Stance.Yields (P : α → Prop) : Stance H α → Prop
  | .ready task => task.Yields P
  | .settling _ _ next => ∀ outcome, (next outcome).Yields P
  | .gone => True

section Yielding

variable {P : α → Prop} (world : World σ) (owner : Nat) (limit : Limit)

theorem Job.yields_of_forall (h : ∀ value, P value) (job : Job α) : job.Yields P := by
  induction job with
  | done value => exact h value
  | crashed cause => trivial
  | ask call next ih => exact ih
  | asked call due outcome next ih => exact ih
  | pause span next ih => exact ih
  | paused due next ih => exact ih

theorem Job.carry_asked_yields {call : Call} {due : Time} {outcome : Outcome call.Answer}
    {next : call.Answer → Job α} (s : Scene σ)
    (hnext : ∀ answer s, ((next answer).carry world limit s).1.Yields P)
    (h : (Job.asked call due outcome next).Yields P) :
    ((Job.asked call due outcome next).carry world limit s).1.Yields P := by
  simp only [carry]
  split
  · cases outcome with
    | returns answer => exact hnext answer _
    | crashes => trivial
  · exact h

/-- What is left of a job comes to no value that the job could not come to. -/
theorem Job.carry_yields {job : Job α} (s : Scene σ) (h : job.Yields P) :
    (job.carry world limit s).1.Yields P := by
  induction job generalizing s with
  | done value => exact h
  | crashed cause => exact h
  | ask call next ih =>
    rw [carry_ask]
    exact carry_asked_yields world limit _ (fun answer s => ih answer s (h answer)) h
  | asked call due outcome next ih =>
    exact carry_asked_yields world limit s (fun answer s => ih answer s (h answer)) h
  | pause span next ih =>
    simp only [carry]
    split
    · exact ih _ h
    · exact h
  | paused due next ih =>
    simp only [carry]
    split
    · exact ih _ h
    · exact h

/-- A step goes on with the rest of the task, or waits. -/
theorem Stance.act_yields {st : Stance H α} (c : Connection σ H) (h : st.Yields P) :
    (st.act world owner limit c).1.Yields P := by
  cases st with
  | gone => exact h
  | settling number outcome next => exact h outcome
  | ready task =>
    cases task with
    | done value => exact h
    | crashed cause => exact h
    | work job next =>
      have hjob := Job.carry_yields world limit c.scene h
      rw [act]
      generalize job.carry world limit c.scene = carried at hjob ⊢
      obtain ⟨job, scene⟩ := carried
      cases job with
      | done value => exact hjob
      | crashed cause => trivial
      | _ => exact hjob
    | enter connect next =>
      rw [act]
      cases c.link.phase with
      | idle => exact h
      | connecting number => exact h
      | connected session => exact h (.ok session)
    | join number next =>
      rw [act]
      generalize c.advance world limit number = advanced
      obtain ⟨finding, c⟩ := advanced
      cases finding with
      | ended outcome => exact h
      | crashed cause => trivial
      | pending => exact h
    | detach next =>
      simp only [act, Link.detach]
      cases c.link.phase with
      | idle => exact h none
      | connecting number => exact h
      | connected session => exact h (some session)
    | reclaim number next =>
      rw [act]
      generalize c.advance world limit number = advanced
      obtain ⟨finding, c⟩ := advanced
      cases finding with
      | ended outcome => exact h outcome.toOption
      | crashed cause => trivial
      | pending => exact h
    | peek next => exact h _
    | lock access next =>
      simp only [act]
      split <;> exact h
    | queued next =>
      simp only [act]
      split <;> exact h
    | unlock next => exact h
    | «recall» serial next => exact h _
    | count next => exact h _
    | beginLookup next => exact h
    | remember serial slot next => exact h
    | clock next => exact h _

variable {world owner limit} in
theorem Stance.Acts.yields {a b : Stance H α × Connection σ H} (hacts : Acts world owner limit a b)
    (h : a.1.Yields P) : b.1.Yields P := by
  induction hacts with
  | refl => exact h
  | tail _ hstep ih =>
    rw [hstep]
    exact act_yields world owner limit _ ih

theorem Task.carry_yields {task : Task H α} (c : Connection σ H) (h : task.Yields P) :
    (task.carry world owner limit c).1.Yields P :=
  (Stance.acts_carry task c).yields (a := (.ready task, c)) h

/-- It is enough to look at the end of a task. -/
theorem Task.yields_bind {task : Task H β} {next : β → Task H α} (h : ∀ b, (next b).Yields P) :
    (task.bind next).Yields P := by
  induction task with
  | done value => exact h value
  | crashed cause => trivial
  | work job rest ih => exact job.yields_of_forall ih
  | enter connect rest ih => exact ih
  | join attempt rest ih => exact ih
  | detach rest ih => exact ih
  | reclaim attempt rest ih => exact ih
  | peek rest ih => exact ih
  | lock access rest ih => exact ih
  | queued rest ih => exact ih
  | unlock rest ih => exact ih
  | «recall» serial rest ih => exact ih
  | count rest ih => exact ih
  | beginLookup rest ih => exact ih
  | remember serial slot rest ih => exact ih
  | clock rest ih => exact ih

end Yielding

/-- A device or the store was at fault. -/
inductive Error.AtWork : Error → Prop
  | driver (cause : DriverError) : AtWork (.driver cause)
  | store (cause : StoreError) : AtWork (.store cause)

theorem Error.AtWork.exitCode {e : Error} (h : e.AtWork) : e.exitCode = 2 := by
  cases h <;> rfl

theorem Error.exitCode_of_isCompileError {e : Error} (h : e.isCompileError) : e.exitCode = 4 := by
  unfold exitCode
  rw [if_pos h]

/-- When the action failed, it did at work on the device. -/
def ActionResult.FailsAtWork (r : ActionResult) : Prop := ∀ e, r.error? = some e → e.AtWork

theorem ActionResult.succeeded_failsAtWork (token : String) (status : Bool) (message : String) :
    (succeeded token status message).FailsAtWork := by
  intro e h
  cases h

theorem ActionResult.failed_failsAtWork (token : String) {cause : Error} (h : cause.AtWork) :
    (failed token cause).FailsAtWork := by
  intro e he
  cases he
  exact h

theorem ActionResult.ofStatus_failsAtWork (token : String) (r : Except DriverError Bool) :
    (ofStatus token r).FailsAtWork := by
  cases r with
  | ok status => exact succeeded_failsAtWork token status "ok"
  | error cause => exact failed_failsAtWork token (.driver cause)

/-- Whatever the actions of an executor come to, it is no fault of the request. -/
def Executor.FailsAtWork (ex : Executor H ω) : Prop :=
  ∀ token op, (ex.perform token op).Yields ActionResult.FailsAtWork

theorem Executor.server_failsAtWork (e : Endpoint) : (server e).FailsAtWork := by
  intro token work
  cases work with
  | operate op => exact Task.yields_bind fun r => ActionResult.ofStatus_failsAtWork token r
  | screenshot =>
    refine Task.yields_bind fun r => ?_
    cases r with
    | error cause => exact ActionResult.failed_failsAtWork token (.driver cause)
    | ok shot =>
      intro seconds
      refine Job.yields_of_forall (fun stored => ?_) _
      cases stored with
      | ok reference => exact ActionResult.succeeded_failsAtWork token true reference
      | error cause => exact ActionResult.failed_failsAtWork token (.store cause)

theorem Executor.chassis_failsAtWork (e : Endpoint) : (chassis e).FailsAtWork := fun token _ =>
  Task.yields_bind fun r => ActionResult.ofStatus_failsAtWork token r

theorem Executor.blade_failsAtWork (e : Endpoint) (locator : Locator) :
    (blade e locator).FailsAtWork := by
  intro token op
  refine Task.yields_bind fun found => ?_
  cases found with
  | ok slot => exact Task.yields_bind fun r => ActionResult.ofStatus_failsAtWork token r
  | error cause => exact ActionResult.ofStatus_failsAtWork token (.error cause)

theorem Executor.sleep_failsAtWork : sleep.FailsAtWork := fun _ op => op.elim

theorem Executor.FailsAtWork.step {ex : Executor H ω} (h : ex.FailsAtWork) (step : Step ω) :
    (step.task ex).Yields ActionResult.FailsAtWork := by
  unfold Step.task
  cases step.work with
  | sleep nanos => exact ActionResult.succeeded_failsAtWork step.token true "ok"
  | operate op => exact h step.token op

theorem Executor.FailsAtWork.runSteps {ex : Executor H ω} (h : ex.FailsAtWork) (world : World σ)
    (limit : Limit) (steps : List (Step ω)) (c : Connection σ H) :
    ∀ result ∈ (runSteps world limit ex steps c).1, result.FailsAtWork := by
  induction steps generalizing c with
  | nil => simp [Outband.runSteps]
  | cons step rest ih =>
    have hstep := Task.carry_yields world 0 limit c (h.step step)
    rw [Outband.runSteps]
    generalize (step.task ex).carry world 0 limit c = carried at hstep ⊢
    obtain ⟨task, c⟩ := carried
    cases task with
    | done result =>
      dsimp only
      split
      · exact List.forall_mem_singleton.mpr hstep
      · exact List.forall_mem_cons.mpr ⟨hstep, ih c⟩
    | _ => simp

/-- The end of a run leaves the results as they are. -/
theorem Executor.run_results (world : World σ) (limit : Limit) (ex : Executor H ω)
    (steps : List (Step ω)) (scene : Scene σ) :
    (ex.run world limit steps scene).1.results =
      (runSteps world limit ex steps { scene := scene }).1 := by
  rw [run]
  generalize runSteps world limit ex steps { scene := scene } = ran
  obtain ⟨results, halt, c⟩ := ran
  have hfinish : ∀ halt,
      (ex.finish world limit scene.now results halt c).1.results = results := by
    intro halt
    rw [finish]
    split <;> rfl
  cases halt with
  | finished => exact hfinish .finished
  | crashed cause => exact hfinish (.crashed cause)
  | dropped => rfl

namespace Plan

/-- An action fails by its driver or by the store, on any plan and in any world. -/
theorem run_fails_at_work (plan : Plan) (world : World σ) (credentials : Credentials)
    (limit : Limit) (s : Scene σ) :
    ∀ result ∈ (plan.run world credentials limit s).1.results, result.FailsAtWork := by
  cases plan with
  | server address steps =>
    rw [run, Executor.run_results]
    exact (Executor.server_failsAtWork _).runSteps world limit steps _
  | chassis address steps =>
    rw [run, Executor.run_results]
    exact (Executor.chassis_failsAtWork _).runSteps world limit steps _
  | blade address locator steps =>
    rw [run, Executor.run_results]
    exact (Executor.blade_failsAtWork _ locator).runSteps world limit steps _
  | sleep steps =>
    rw [run, Executor.run_results]
    exact Executor.sleep_failsAtWork.runSteps world limit steps _

end Plan

/-- The exit code of a command and the status of a response that tell the same. -/
inductive SameVerdict : Nat → Http.Status → Prop
  | well : SameVerdict 0 .ok
  | failed : SameVerdict 2 .expectationFailed
  | refused : SameVerdict 4 .badRequest

namespace SameVerdict

theorem of_isCompileError {e : Error} (h : e.isCompileError) :
    SameVerdict e.exitCode (Http.Response.ofError e).status := by
  rw [Error.exitCode_of_isCompileError h, Http.Response.ofError, if_pos h]
  exact .refused

theorem of_report {report : RunReport} (h : ∀ result ∈ report.results, result.FailsAtWork)
    (err : String) :
    SameVerdict (CommandLine.resultsExit report err).code
      (Http.Service.outcome report.isSuccess) := by
  rw [CommandLine.resultsExit, RunReport.isSuccess, Http.Service.outcome]
  cases herror : report.error? with
  | none => exact .well
  | some e =>
    obtain ⟨last, hlast, hfails⟩ := Option.bind_eq_some_iff.mp herror
    have hcode := (h last (List.mem_of_getLast? hlast) e hfails).exitCode
    simp only [Option.map_some, Option.getD_some, hcode]
    exact .failed

end SameVerdict

/-- The device of a request that is for the same as the command. -/
def CommandLine.Selection.device : Selection → Http.Device
  | .host address => .host address
  | .chassis address => .chassis address
  | .bladePosition address position => .bladeByPosition address position
  | .bladeSerial address serial => .bladeBySerial address serial

theorem CommandLine.Selection.compile_device (selection : Selection) (tokens : List String) :
    Plan.compile selection.device.kind selection.device.params tokens =
      Plan.compile selection.kind selection.params tokens := by
  cases selection <;> rfl

/-- The end of a command and the reaction to a request for the same: the same was done, and unless
it crashed the one ends with the exit code that the other has the status for. -/
structure SameEnding (s : Scene σ) (ended : CommandLine.Exit × Scene σ)
    (reaction : Http.Reaction σ) : Prop where
  scene : ended.2 = reaction.2
  verdict : ∃ events, reaction.2.log = s.log ++ events ∧ (crashesOf events = [] →
    ∃ response, reaction.1 = some response ∧ SameVerdict ended.1.code response.status)

theorem SameEnding.refused {s : Scene σ} {exit : CommandLine.Exit} {response : Http.Response}
    (h : SameVerdict exit.code response.status) : SameEnding s (exit, s) (some response, s) :=
  ⟨rfl, [], by simp, fun _ => ⟨response, rfl, h⟩⟩

namespace CommandLine

variable (engine : Engine σ) {service : Http.Service σ} (selection : Selection)
  (tokens : List String) (err : String) (s : Scene σ)

theorem execute_like_service (hworld : service.world = engine.world)
    (hcredentials : service.credentials = engine.credentials) :
    SameEnding s (execute engine selection tokens err s)
      (service.execute selection.device tokens s) := by
  have hexecute : service.perform selection.device tokens _ s =
      service.execute selection.device tokens s := rfl
  rw [execute]
  cases hplan : Plan.compile selection.kind selection.params tokens with
  | error e =>
    rw [Http.Service.perform_of_error ((selection.compile_device tokens).trans hplan) hexecute]
    exact .refused (.of_isCompileError (Plan.isCompileError_of_compile hplan))
  | ok plan =>
    obtain ⟨events, hlog, hfinishes⟩ := plan.run_finishes engine.world engine.credentials s
    obtain ⟨hscene, hexecuted⟩ :=
      Http.Service.perform_of_plan ((selection.compile_device tokens).trans hplan) hexecute
    rw [hworld, hcredentials] at hscene hexecuted
    refine ⟨hscene.symm, events, hscene ▸ hlog, fun hnone => ?_⟩
    have hresults := plan.run_fails_at_work engine.world engine.credentials none s
    exact ⟨_, hexecuted (hfinishes hnone), .of_report hresults err⟩

/-- A path that does not pass the checks made of it would not compile either. -/
theorem execute_of_check {fault : Http.PathFault} (h : selection.device.check = .error fault) :
    ∃ exit, execute engine selection tokens err s = (exit, s) ∧ exit.code = 4 := by
  cases htarget : Target.ofParams selection.device.kind selection.device.params with
  | ok target =>
    have hnamed := selection.device.exists_target_iff.mp ⟨target, htarget⟩
    rw [Http.Device.check_of_isNamed hnamed] at h
    cases h
  | error e =>
    have hplan : Plan.compile selection.kind selection.params tokens = .error e := by
      rw [← selection.compile_device, Plan.compile_of_error htarget]
    have hcode := Error.exitCode_of_isCompileError (Plan.isCompileError_of_compile hplan)
    rw [execute, hplan]
    exact ⟨_, rfl, hcode⟩

theorem execute_like_respond (hworld : service.world = engine.world)
    (hcredentials : service.credentials = engine.credentials) {request : Http.Request}
    {segments : Http.Device} {body : Http.ActionRequest} (hpost : request.method = .post)
    (hroute : Http.Route.ofPath service.gallery.mountPath request.path = .device segments)
    (hdecode : segments.decode = .ok selection.device)
    (hread : Http.ActionRequest.read request.contentType request.body = .ok body) :
    SameEnding s (execute engine selection body.actions err s) (service.respond request s) := by
  rw [Http.Service.respond_of_route service s (Or.inr hpost) hroute, Http.Service.onDevice,
    hdecode]
  dsimp only
  cases hcheck : selection.device.check with
  | error fault =>
    obtain ⟨exit, hexit, hcode⟩ := execute_of_check engine selection body.actions err s hcheck
    rw [hexit]
    refine .refused ?_
    rw [hcode]
    exact .refused
  | ok _ =>
    dsimp only
    rw [if_pos hpost, hread]
    exact execute_like_service engine selection body.actions err s hworld hcredentials

end CommandLine

/-- What does not compile is a fault of the request, and what goes wrong in a run is a fault of the
driver or the store. A command and a request that compile and run the same come to the same verdict
on it. -/
theorem Plan.verdicts_agree (engine : Engine σ) (kind : Kind) (params : Params)
    (tokens : List String) (err : String) (s : Scene σ) :
    (∀ e, compile kind params tokens = .error e →
      e.isCompileError ∧ SameVerdict e.exitCode (Http.Response.ofError e).status) ∧
    (∀ plan, compile kind params tokens = .ok plan →
      let report := (engine.run plan s).1
      (∀ result ∈ report.results, ∀ e, result.error? = some e → e.AtWork) ∧
      SameVerdict (CommandLine.resultsExit report err).code
        (Http.Service.outcome report.isSuccess)) ∧
    ∀ (service : Http.Service σ) (request : Http.Request) (segments : Http.Device)
      (body : Http.ActionRequest) (selection : CommandLine.Selection),
      service.world = engine.world → service.credentials = engine.credentials →
      request.method = .post →
      Http.Route.ofPath service.gallery.mountPath request.path = .device segments →
      segments.decode = .ok selection.device →
      Http.ActionRequest.read request.contentType request.body = .ok body →
      SameEnding s (CommandLine.execute engine selection body.actions err s)
        (service.respond request s) := by
  refine ⟨fun e he => ?_, fun plan _ => ?_, ?_⟩
  · have hcompile := isCompileError_of_compile he
    exact ⟨hcompile, .of_isCompileError hcompile⟩
  · have hresults := plan.run_fails_at_work engine.world engine.credentials none s
    exact ⟨hresults, .of_report hresults err⟩
  · intro service request segments body selection hworld hcredentials hpost hroute hdecode hread
    exact CommandLine.execute_like_respond engine selection err s hworld hcredentials hpost hroute
      hdecode hread

end Outband
