import Outband.Proofs.Chronicle
/-! What every call that a plan can make keeps, whatever the time and whatever it answers, every run of
the plan keeps. The calls of a plan are told from its tasks. -/

namespace Outband

variable {P : Call → Prop}

namespace Task

/-- The task makes no calls but of this kind, in its jobs and to connect. -/
def Only (P : Call → Prop) : Task H α → Prop
  | .done _ | .crashed _ => True
  | .work job next => job.Only P ∧ ∀ value, (next value).Only P
  | .enter connect next => connect.Only P ∧ ∀ outcome, (next outcome).Only P
  | .join _ next => ∀ outcome, (next outcome).Only P
  | .detach next | .reclaim _ next | .peek next => ∀ session, (next session).Only P
  | .lock _ next | .queued next | .unlock next | .beginLookup next | .remember _ _ next =>
    next.Only P
  | .recall _ next => ∀ slot, (next slot).Only P
  | .count next => ∀ n, (next n).Only P
  | .clock next => ∀ seconds, (next seconds).Only P

theorem Only.bind {task : Task H α} {next : α → Task H β} (h : task.Only P)
    (hnext : ∀ value, (next value).Only P) : (task.bind next).Only P := by
  induction task with
  | done value => exact hnext value
  | crashed cause => trivial
  | work job rest ih => exact ⟨h.1, fun value => ih value (h.2 value)⟩
  | enter connect rest ih => exact ⟨h.1, fun outcome => ih outcome (h.2 outcome)⟩
  | join number rest ih => exact fun outcome => ih outcome (h outcome)
  | detach rest ih => exact fun session => ih session (h session)
  | reclaim number rest ih => exact fun session => ih session (h session)
  | peek rest ih => exact fun session => ih session (h session)
  | lock access rest ih => exact ih h
  | queued rest ih => exact ih h
  | unlock rest ih => exact ih h
  | «recall» serial rest ih => exact fun slot => ih slot (h slot)
  | count rest ih => exact fun n => ih n (h n)
  | beginLookup rest ih => exact ih h
  | remember serial slot rest ih => exact ih h
  | clock rest ih => exact fun seconds => ih seconds (h seconds)

end Task

def Stance.Only (P : Call → Prop) : Stance H α → Prop
  | .ready task => task.Only P
  | .settling _ _ next => ∀ outcome, (next outcome).Only P
  | .gone => True

namespace Connection.Upheld

variable {world : World σ} {I : Scene σ → Prop} {limit : Limit} {c : Connection σ H}

/-- A step of a caller keeps it. -/
theorem act (hI : Scene.Upheld P world I) (owner : Nat) {stance : Stance H α}
    (hstance : stance.Only P) (h : c.Upheld P I) :
    (stance.act world owner limit c).1.Only P ∧
      (stance.act world owner limit c).2.Upheld P I := by
  cases stance with
  | gone => exact ⟨trivial, h⟩
  | settling number outcome next => exact ⟨hstance outcome, h.link.settle number outcome, h.scene⟩
  | ready task =>
    cases task with
    | done value => exact ⟨trivial, h⟩
    | crashed cause => exact ⟨trivial, h⟩
    | work job next =>
      have hjob := Job.carry_upheld hI limit hstance.1 h.scene
      simp only [Stance.act]
      generalize job.carry world limit c.scene = carried at hjob ⊢
      obtain ⟨job, s⟩ := carried
      cases job with
      | done value => exact ⟨hstance.2 value, h.link, hjob.2⟩
      | crashed cause => exact ⟨trivial, h.link, hjob.2⟩
      | _ => exact ⟨⟨hjob.1, hstance.2⟩, h.link, hjob.2⟩
    | enter connect next =>
      simp only [Stance.act]
      cases c.link.phase with
      | idle => exact ⟨hstance.2, h.link.start hstance.1, h.scene⟩
      | connecting number => exact ⟨hstance.2, h⟩
      | connected session => exact ⟨hstance.2 _, h⟩
    | join number next =>
      have hadvance := advance hI limit number h
      simp only [Stance.act]
      generalize c.advance world limit number = found at hadvance ⊢
      obtain ⟨finding, d⟩ := found
      cases finding with
      | pending => exact ⟨hstance, hadvance⟩
      | ended outcome => exact ⟨hstance, hadvance⟩
      | crashed cause => exact ⟨trivial, hadvance.link, hadvance.scene⟩
    | detach next =>
      simp only [Stance.act, Link.detach]
      cases c.link.phase with
      | idle => exact ⟨hstance _, h.link, h.scene⟩
      | connecting number => exact ⟨hstance, h.link, h.scene⟩
      | connected session => exact ⟨hstance _, h.link, h.scene⟩
    | reclaim number next =>
      have hadvance := advance hI limit number h
      simp only [Stance.act]
      generalize c.advance world limit number = found at hadvance ⊢
      obtain ⟨finding, d⟩ := found
      cases finding with
      | pending => exact ⟨hstance, hadvance⟩
      | ended outcome => exact ⟨hstance _, hadvance⟩
      | crashed cause => exact ⟨trivial, hadvance.link, hadvance.scene⟩
    | peek next => exact ⟨hstance _, h⟩
    | lock access next =>
      simp only [Stance.act]
      split <;> exact ⟨hstance, h.link, h.scene⟩
    | queued next =>
      simp only [Stance.act]
      split <;> exact ⟨hstance, h⟩
    | unlock next => exact ⟨hstance, h.link, h.scene⟩
    | «recall» serial next => exact ⟨hstance _, h⟩
    | count next => exact ⟨hstance _, h⟩
    | beginLookup next => exact ⟨hstance, h.link, h.scene⟩
    | remember serial slot next => exact ⟨hstance, h.link, h.scene⟩
    | clock next => exact ⟨hstance _, h⟩

theorem carry (hI : Scene.Upheld P world I) (owner : Nat) {task : Task H α} (htask : task.Only P)
    (h : c.Upheld P I) : (task.carry world owner limit c).2.Upheld P I := by
  suffices hacts : ∀ b, Stance.Acts world owner limit (.ready task, c) b →
      b.1.Only P ∧ b.2.Upheld P I from (hacts _ (Stance.acts_carry task c)).2
  intro b hacts
  induction hacts with
  | refl => exact ⟨htask, h⟩
  | tail _ hstep ih =>
    rw [hstep]
    exact act hI owner ih.1 ih.2

end Connection.Upheld

/-- An executor makes no calls but of this kind. -/
structure Executor.Only (P : Call → Prop) (ex : Executor H ω) : Prop where
  perform : ∀ (token : String) (op : ω), (ex.perform token op).Only P
  close : ex.close.Only P

namespace Executor.Only

variable {world : World σ} {I : Scene σ → Prop} {limit : Limit} {ex : Executor H ω}
  {c : Connection σ H}

theorem task (hex : ex.Only P) (step : Step ω) : (step.task ex).Only P := by
  unfold Step.task
  cases step.work with
  | sleep nanos => exact ⟨trivial, fun _ => trivial⟩
  | operate op => exact hex.perform step.token op

theorem runSteps (hex : ex.Only P) (hI : Scene.Upheld P world I) (steps : List (Step ω))
    (h : c.Upheld P I) : (Outband.runSteps world limit ex steps c).2.2.Upheld P I := by
  induction steps generalizing c with
  | nil => exact h
  | cons step rest ih =>
    have hstep : ((step.task ex).carry world 0 limit c).2.Upheld P I :=
      .carry hI 0 (hex.task step) h
    rw [Outband.runSteps]
    generalize (step.task ex).carry world 0 limit c = carried at hstep ⊢
    obtain ⟨task, c⟩ := carried
    cases task with
    | done result =>
      dsimp only
      split
      · exact hstep
      · exact ih hstep
    | _ => exact hstep

theorem release (hex : ex.Only P) (hI : Scene.Upheld P world I) (h : c.Upheld P I) :
    I (ex.release world c) := by
  have hreleased : (c.release 0).Upheld P I := ⟨h.link, h.scene⟩
  exact (hreleased.carry hI 0 hex.close).scene

theorem cutOff (hex : ex.Only P) (hI : Scene.Upheld P world I) (start : Time) (cleanups : Nat)
    (results : List ActionResult) (h : c.Upheld P I) :
    I (ex.cutOff world limit start cleanups results c).2 :=
  hex.release hI ⟨h.link, hI.moveTo _ h.scene⟩

theorem finish (hex : ex.Only P) (hI : Scene.Upheld P world I) (start : Time)
    (results : List ActionResult) (halt : Halt) (h : c.Upheld P I) :
    I (ex.finish world limit start results halt c).2 := by
  have hclose : (ex.close.carry world 0 limit c).2.Upheld P I := .carry hI 0 hex.close h
  rw [Executor.finish]
  generalize ex.close.carry world 0 limit c = carried at hclose ⊢
  obtain ⟨task, c⟩ := carried
  cases task with
  | done outcome => exact hclose.scene
  | crashed cause => exact hex.release hI hclose
  | _ => exact hex.cutOff hI start 2 results hclose

theorem run (hex : ex.Only P) (hI : Scene.Upheld P world I) (steps : List (Step ω)) {s : Scene σ}
    (h : I s) : I (ex.run world limit steps s).2 := by
  have hfresh : Connection.Upheld P I ({ scene := s } : Connection σ H) := ⟨by simp [Link.Only], h⟩
  have hsteps : (Outband.runSteps world limit ex steps { scene := s }).2.2.Upheld P I :=
    hex.runSteps hI steps hfresh
  rw [Executor.run]
  generalize Outband.runSteps world limit ex steps { scene := s } = ran at hsteps ⊢
  obtain ⟨results, halt, c⟩ := ran
  cases halt with
  | dropped => exact hex.cutOff hI s.now 1 results hsteps
  | finished => exact hex.finish hI s.now results _ hsteps
  | crashed cause => exact hex.finish hI s.now results _ hsteps

end Executor.Only

/-! What the calls of each executor are. -/

section Executors

variable (hP : ∀ call : Call, call.isStore = false → P call)

include hP

theorem not_store_of_isConnect {call : Call} (h : call.isConnect) : P call :=
  hP call (by cases call <;> first | rfl | cases h)

theorem server_enter_only {α : Type} (e : Endpoint)
    {next : Except DriverError ServerSession → Task ServerSession α}
    (hnext : ∀ outcome, (next outcome).Only P) : (Task.enter (Server.connect e) next).Only P :=
  ⟨(server_connect_only e).mono fun _ => not_store_of_isConnect hP, hnext⟩

theorem chassis_enter_only {α : Type} (e : Endpoint)
    {next : Except DriverError ChassisSession → Task ChassisSession α}
    (hnext : ∀ outcome, (next outcome).Only P) : (Task.enter (Chassis.connect e) next).Only P :=
  ⟨(chassis_connect_only e).mono fun _ => not_store_of_isConnect hP, hnext⟩

theorem work_call_only {call : Call} (hcall : call.isStore = false)
    {next : call.Answer → Task H α} (hnext : ∀ answer, (next answer).Only P) :
    (Task.work (Job.call call) next).Only P :=
  ⟨⟨hP call hcall, fun _ => trivial⟩, hnext⟩

theorem perform_only (session : ServerSession) (op : ServerOp) : (session.perform op).Only P := by
  unfold ServerSession.perform
  split
  · exact ⟨hP _ rfl, fun _ => trivial⟩
  · trivial

theorem server_capture_only (e : Endpoint) : (Server.capture e).Only P := by
  refine server_enter_only hP e fun outcome => ?_
  cases outcome with
  | error err => trivial
  | ok session =>
    dsimp only
    split
    · refine work_call_only hP rfl fun answer => ?_
      cases answer <;> trivial
    · trivial

/-- A server is asked to store nothing but screenshots under its name. -/
theorem server_only {e : Endpoint}
    (hstore : ∀ hardware extension seconds payload,
      P (.store (Screenshot.fileName e.host hardware extension seconds) payload)) :
    (Executor.server e).Only P where
  perform token op := by
    cases op with
    | operate op =>
      refine Task.Only.bind (server_enter_only hP e fun outcome => ?_) fun _ => trivial
      cases outcome with
      | error err => trivial
      | ok session => exact ⟨perform_only hP session op, fun _ => trivial⟩
    | screenshot =>
      refine Task.Only.bind (server_capture_only hP e) fun outcome => ?_
      cases outcome with
      | error cause => trivial
      | ok shot =>
        intro seconds
        refine ⟨⟨hstore _ _ _ _, fun _ => trivial⟩, fun answer => ?_⟩
        cases answer <;> trivial
  close := by
    intro session
    cases session with
    | none => trivial
    | some session => exact work_call_only hP rfl fun _ => trivial

theorem chassis_only (e : Endpoint) : (Executor.chassis e).Only P where
  perform token op := by
    refine Task.Only.bind (chassis_enter_only hP e fun outcome => ?_) fun _ => trivial
    cases outcome with
    | error err => trivial
    | ok session => exact work_call_only hP rfl fun _ => trivial
  close := by
    intro session
    cases session with
    | none => trivial
    | some session => exact work_call_only hP rfl fun _ => trivial

theorem find_only (e : Endpoint) (serial : String) : (Chassis.find e serial).Only P := by
  refine chassis_enter_only hP e fun outcome => ?_
  cases outcome with
  | error err => trivial
  | ok session =>
    intro known
    cases known with
    | some slot => trivial
    | none =>
      intro known
      cases known with
      | some slot => trivial
      | none =>
        refine work_call_only hP rfl fun answer => ?_
        cases answer <;> trivial

theorem blade_only (e : Endpoint) (locator : Locator) : (Executor.blade e locator).Only P where
  perform token op := by
    have hlocate : (Chassis.locate e locator).Only P := by
      cases locator with
      | position slot => trivial
      | serial serial => exact find_only hP e serial
    refine Task.Only.bind hlocate fun outcome => ?_
    cases outcome with
    | error cause => trivial
    | ok slot =>
      refine Task.Only.bind (chassis_enter_only hP e fun outcome => ?_) fun _ => trivial
      cases outcome with
      | error err => trivial
      | ok session => exact work_call_only hP rfl fun _ => trivial
  close := (chassis_only hP e).close

end Executors

theorem sleep_only : Executor.sleep.Only P where
  perform _ op := nomatch op
  close := trivial

/-- The plan makes no calls but of this kind: what it stores are screenshots of its server. -/
def Plan.Only (P : Call → Prop) (plan : Plan) : Prop :=
  (∀ call : Call, call.isStore = false → P call) ∧
    ∀ address steps, plan = .server address steps → ∀ hardware extension seconds payload,
      P (.store (Screenshot.fileName address hardware extension seconds) payload)

/-- What the calls of a plan keep, its run keeps, however it ends. -/
theorem Plan.run_upheld {world : World σ} {I : Scene σ → Prop} (hI : Scene.Upheld P world I)
    {plan : Plan} (hplan : plan.Only P) (credentials : Credentials) (limit : Limit) {s : Scene σ}
    (h : I s) : I (plan.run world credentials limit s).2 := by
  obtain ⟨hP, hstore⟩ := hplan
  cases plan with
  | server address steps =>
    have hserver : (Executor.server ⟨address, credentials⟩).Only P :=
      server_only hP (hstore address steps rfl)
    exact hserver.run hI steps h
  | chassis address steps => exact (chassis_only hP _).run hI steps h
  | blade address locator steps => exact (blade_only hP _ locator).run hI steps h
  | sleep steps => exact sleep_only.run hI steps h

end Outband
