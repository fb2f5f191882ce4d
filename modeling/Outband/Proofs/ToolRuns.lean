import Outband.Engine
import Outband.Ipmi.Rehearsal
import Outband.Proofs.Backends
import Outband.Proofs.Trials
/-! How a plan drives a server that only the IPMI tool can reach: the commands of its steps, one
step after another, up to the first that failed. -/

namespace Outband

open Ipmi (Trial Conducts Tried)

/-- The commands of a step that goes well. Neither a sleep nor an image of the console takes one. -/
def Step.commands (step : Step ServerWork) : List Ipmi.Command :=
  match step.work with
  | .operate (.operate op) => op.commands
  | .operate .screenshot | .sleep _ => []

/-- The tool is in none of the places where it is looked for. -/
def Ipmi.IsMissing (settings : Settings) (files : Files) : Prop :=
  ∃ cause, locate settings files = .error cause

/-- The trials of a step, and its result. It may be that the tool is missing. -/
inductive Handled (missing : Prop) : Step ServerWork → List Trial → ActionResult → Prop
  | slept (token : String) (nanos : Nat) :
      Handled missing ⟨token, .sleep nanos⟩ [] (.succeeded token true)
  /-- The tool has no image of the console. -/
  | imageless (token what : String) : Handled missing ⟨token, .operate .screenshot⟩ []
      (.failed token (.driver (.notSupported what)))
  | unserved (token : String) (work : ServerWork) (what : String) (h : missing) :
      Handled missing ⟨token, .operate work⟩ [] (.failed token (.driver (.notSupported what)))
  | operated (token : String) {op : ServerOp} {trials : List Trial}
      {answer : Except DriverError Bool} (h : Conducts op trials answer) :
      Handled missing ⟨token, .operate (.operate op)⟩ trials (.ofStatus token answer)

namespace Handled

variable {missing : Prop} {step : Step ServerWork} {trials : List Trial} {result : ActionResult}

theorem commands_prefix (h : Handled missing step trials result) :
    trials.map (·.command) <+: step.commands := by
  cases h with
  | slept token nanos => exact List.nil_prefix
  | imageless token what => exact List.nil_prefix
  | unserved token work what _ => exact List.nil_prefix
  | operated token h => exact h.commands_prefix

/-- A step that went well has tried all of its commands, and none of them failed. -/
theorem of_success (h : Handled missing step trials result) (success : result.isFailure = false) :
    trials.map (·.command) = step.commands ∧ ∀ trial ∈ trials, ¬ trial.Failed := by
  cases h with
  | slept token nanos => exact ⟨rfl, by simp⟩
  | imageless token what => cases success
  | unserved token work what _ => cases success
  | @operated token op trials answer h =>
    cases answer with
    | ok state => exact ⟨h.commands_eq, h.all_well⟩
    | error cause => cases success

theorem earlier_well (h : Handled missing step trials result) :
    ∀ trial ∈ trials.dropLast, ¬ trial.Failed := by
  cases h with
  | slept token nanos => simp
  | imageless token what => simp
  | unserved token work what _ => simp
  | operated token h => exact h.earlier_well

theorem guarded {before after : List Trial} {trial : Trial} {needed : Bool}
    (h : Handled missing step (before ++ trial :: after) result)
    (needs : trial.command.needs? = some needed) :
    ∃ earlier status, before = earlier ++ [status] ∧ status.Reports needed := by
  generalize hsplit : before ++ trial :: after = trials at h
  cases h with
  | slept token nanos => simp at hsplit
  | imageless token what => simp at hsplit
  | unserved token work what _ => simp at hsplit
  | operated token h =>
    rw [← hsplit] at h
    exact h.guarded needs

end Handled

/-- The trials of steps and their results, up to the first step that failed. -/
inductive Driven (missing : Prop) :
    List (Step ServerWork) → List (List Trial) → List ActionResult → Prop
  | finished : Driven missing [] [] []
  | failed {step : Step ServerWork} {trials : List Trial} {result : ActionResult}
      (failure : result.isFailure) (h : Handled missing step trials result)
      (later : List (Step ServerWork)) : Driven missing (step :: later) [trials] [result]
  | next {step : Step ServerWork} {trials : List Trial} {result : ActionResult}
      {later : List (Step ServerWork)} {segments : List (List Trial)}
      {results : List ActionResult} (success : result.isFailure = false)
      (h : Handled missing step trials result) (more : Driven missing later segments results) :
      Driven missing (step :: later) (trials :: segments) (result :: results)

namespace Driven

variable {missing : Prop} {steps : List (Step ServerWork)} {segments : List (List Trial)}
  {results : List ActionResult}

theorem length_eq (h : Driven missing steps segments results) :
    segments.length = results.length ∧ results.length ≤ steps.length := by
  induction h with
  | finished => exact ⟨rfl, Nat.le_refl 0⟩
  | failed => exact ⟨rfl, Nat.succ_le_succ (Nat.zero_le _)⟩
  | next _ _ _ ih => exact ⟨congrArg Nat.succ ih.1, Nat.succ_le_succ ih.2⟩

/-- No step is done after one that failed. -/
theorem earlier_success (h : Driven missing steps segments results) :
    ∀ result ∈ results.dropLast, result.isFailure = false := by
  induction h with
  | finished => simp
  | failed => simp
  | @next step trials result later segments results success h more ih =>
    cases results with
    | nil => simp
    | cons first rest =>
      rw [List.dropLast_cons_of_ne_nil (List.cons_ne_nil first rest)]
      exact List.forall_mem_cons.mpr ⟨success, ih⟩

/-- All steps are done if none of them fails. -/
theorem complete (h : Driven missing steps segments results)
    (hall : ∀ result ∈ results, result.isFailure = false) : results.length = steps.length := by
  induction h with
  | finished => rfl
  | failed failure h later =>
    rw [hall _ List.mem_cons_self] at failure
    cases failure
  | next success h more ih =>
    exact congrArg Nat.succ (ih (List.forall_mem_cons.mp hall).2)

/-- Nothing is tried after a trial that failed. -/
theorem earlier_well (h : Driven missing steps segments results) :
    ∀ trial ∈ segments.flatten.dropLast, ¬ trial.Failed := by
  induction h with
  | finished => simp
  | failed failure h later => simpa using h.earlier_well
  | @next step trials result later segments results success h more ih =>
    intro trial hmem
    rw [List.flatten_cons, List.dropLast_append] at hmem
    have hall := (h.of_success success).2
    split at hmem
    · exact hall trial (List.dropLast_subset trials hmem)
    · rcases List.mem_append.mp hmem with hmem | hmem
      · exact hall trial hmem
      · exact ih trial hmem

theorem handled (h : Driven missing steps segments results) {i : Nat} {step : Step ServerWork}
    {trials : List Trial} {result : ActionResult} (hstep : steps[i]? = some step)
    (htrials : segments[i]? = some trials) (hresult : results[i]? = some result) :
    Handled missing step trials result := by
  induction h generalizing i with
  | finished => cases hstep
  | failed failure h later =>
    cases i with
    | zero =>
      cases hstep
      cases htrials
      cases hresult
      exact h
    | succ i => cases hresult
  | next success h more ih =>
    cases i with
    | zero =>
      cases hstep
      cases htrials
      cases hresult
      exact h
    | succ i => exact ih hstep htrials hresult

end Driven

/-- The server has no session, or one with the tool. -/
def Served (e : Endpoint) (c : Connection σ ServerSession) : Prop :=
  c.link.phase = .idle ∨ c.link.phase = .connected ⟨.fallback, e, Ipmi.driver⟩

/-- To connect fails only when the tool is not there. -/
theorem Ipmi.connect_error {settings : Settings} {files : Files} {cause : DriverError}
    (h : connect settings files e = .error cause) :
    IsMissing settings files ∧ ∃ what, cause = .notSupported what := by
  have hlocate : locate settings files = .error cause := by
    cases hfound : locate settings files with
    | ok path =>
      rw [connect, hfound] at h
      cases h
    | error other =>
      rw [connect, hfound] at h
      cases h
      rfl
  refine ⟨⟨cause, hlocate⟩, ?_⟩
  rw [locate] at hlocate
  split at hlocate
  · split at hlocate
    · cases hlocate
    · exact ⟨_, (Except.error.inj hlocate).symm⟩
  · dsimp only at hlocate
    split at hlocate
    · cases hlocate
    · cases hlocate
    · exact ⟨_, (Except.error.inj hlocate).symm⟩

section Serving

variable (settings : Ipmi.Settings) (gallery : Gallery) (tool : Ipmi.Tool τ) {e : Endpoint}

/-- No call to the tool crashes. -/
theorem Ipmi.carry_call (call : Call) (s : Scene (Machine τ)) :
    (Job.call call).carry (world settings gallery tool) none s =
      (.done (answer settings gallery tool call s.world).1,
        s.after (world settings gallery tool) call) := by
  rw [Job.call, Job.carry_ask_none]
  rfl

/-- To connect is to find the tool. It leaves the machine as it was. -/
theorem Ipmi.carry_connect (e : Endpoint) (s : Scene (Machine τ)) :
    ∃ s' : Scene (Machine τ), s'.world = s.world ∧
      (Server.connect e).carry (world settings gallery tool) none s =
        (.done ((connect settings s.world.files e).map fun _ => ⟨.fallback, e, driver⟩), s') := by
  have hunknown : (world settings gallery tool (.connectHost e) s.world).1.outcome =
      .returns (.error (noServerDriver e.host)) := rfl
  have hunsupported : (noServerDriver e.host).isUnsupported = true := rfl
  have hfallback : (world settings gallery tool (.connectFallback e)
        (s.after (world settings gallery tool) (.connectHost e)).world).1.outcome =
      .returns ((connect settings s.world.files e).map fun _ => driver) := rfl
  refine ⟨(s.after (world settings gallery tool) (.connectHost e)).after
    (world settings gallery tool) (.connectFallback e), rfl, ?_⟩
  rw [Server.connect, Job.carry_ask_none, hunknown]
  dsimp only
  rw [if_pos hunsupported, Job.carry_ask_none, hfallback]
  cases connect settings s.world.files e <;> rfl

variable {c : Connection (Ipmi.Machine τ) ServerSession}

/-- What a step of a server in reach of the tool leaves behind: a result, and a machine that its
trials have led to. -/
def StepsTo (settings : Ipmi.Settings) (tool : Ipmi.Tool τ) (e : Endpoint)
    (step : Step ServerWork) (c : Connection (Ipmi.Machine τ) ServerSession)
    (carried : Task ServerSession ActionResult × Connection (Ipmi.Machine τ) ServerSession) :
    Prop :=
  ∃ result d trials, carried = (.done result, d) ∧ Served e d ∧
    Tried settings tool e c.scene.world trials d.scene.world ∧
    Handled (Ipmi.IsMissing settings c.scene.world.files) step trials result

/-- An operation that finds the tool gone is refused, any other comes to what its trials come to. -/
theorem answer_handled (token : String) (op : ServerOp) (m : Ipmi.Machine τ) :
    let ended :=
      Ipmi.answer settings gallery tool (.server ⟨.fallback, e, Ipmi.driver⟩ op) m
    ∃ trials, Tried settings tool e m trials ended.2 ∧
      Handled (Ipmi.IsMissing settings m.files) ⟨token, .operate (.operate op)⟩ trials
        (.ofStatus token ended.1) := by
  cases hfound : Ipmi.connect settings m.files e with
  | ok s =>
    simp only [Ipmi.answer, hfound]
    have haccounted : Ipmi.Accounted settings tool e op m ((s.operate tool op).run m) :=
      Ipmi.operate_accounted hfound op
    obtain ⟨trials, htried, hconducts⟩ := haccounted
    exact ⟨trials, htried, .operated token hconducts⟩
  | error cause =>
    simp only [Ipmi.answer, hfound]
    obtain ⟨hmissing, what, rfl⟩ := Ipmi.connect_error hfound
    exact ⟨[], .nothing m, .unserved token _ what hmissing⟩

/-- On an open session an operation is done with the tool, and an image is refused. -/
theorem stepsTo_connected (hphase : c.link.phase = .connected ⟨.fallback, e, Ipmi.driver⟩)
    (token : String) (work : ServerWork) :
    StepsTo settings tool e ⟨token, .operate work⟩ c
      (((Executor.server e).perform token work).carry (Ipmi.world settings gallery tool) 0 none
        c) := by
  cases work with
  | screenshot =>
    exact ⟨_, c, [], carry_enter_connected (Server.connect e) _ hphase, Or.inr hphase,
      .nothing _, .imageless token _⟩
  | operate op =>
    have hask : (⟨.fallback, e, Ipmi.driver⟩ : ServerSession).perform op =
        Job.call (.server ⟨.fallback, e, Ipmi.driver⟩ op) := by
      cases op <;> rfl
    rw [server_perform (Ipmi.world settings gallery tool) none token op hphase, hask, Task.carry,
      Ipmi.carry_call]
    obtain ⟨trials, htried, hhandled⟩ := answer_handled settings gallery tool token op c.scene.world
    exact ⟨_, _, trials, rfl, Or.inr hphase, htried, hhandled⟩

/-- The first step that is no sleep opens the session, if the tool is there. -/
theorem stepsTo_idle (hphase : c.link.phase = .idle) (token : String) (work : ServerWork) :
    StepsTo settings tool e ⟨token, .operate work⟩ c
      (((Executor.server e).perform token work).carry (Ipmi.world settings gallery tool) 0 none
        c) := by
  obtain ⟨next, hnext, hfails⟩ := server_perform_enters e token work
  obtain ⟨s, hworld, hconnect⟩ := Ipmi.carry_connect settings gallery tool e c.scene
  cases hfound : Ipmi.connect settings c.scene.world.files e with
  | ok session =>
    rw [hfound] at hconnect
    rw [hnext, carry_enter_opens (Server.connect e) next hphase hconnect, ← hnext]
    rw [StepsTo, ← hworld]
    exact stepsTo_connected settings gallery tool rfl token work
  | error cause =>
    obtain ⟨hmissing, what, rfl⟩ := Ipmi.connect_error hfound
    rw [hfound] at hconnect
    rw [hnext, carry_enter_idle _ none 0 (Server.connect e) next hphase, hconnect]
    dsimp only [Except.map]
    rw [hfails]
    refine ⟨_, _, [], rfl, Or.inl rfl, ?_, .unserved token work what hmissing⟩
    rw [← hworld]
    exact .nothing _

/-- One step on a server in reach of the tool. -/
theorem stepsTo (hserved : Served e c) (step : Step ServerWork) :
    StepsTo settings tool e step c
      ((step.task (.server e)).carry (Ipmi.world settings gallery tool) 0 none c) := by
  obtain ⟨token, work⟩ := step
  cases work with
  | sleep nanos =>
    rw [Step.task, carry_wait, if_pos (Job.allows_none _ _)]
    exact ⟨_, _, [], rfl, hserved, .nothing _, .slept token nanos⟩
  | operate work =>
    rcases hserved with hidle | hconnected
    · exact stepsTo_idle settings gallery tool hidle token work
    · exact stepsTo_connected settings gallery tool hconnected token work

/-- The steps of a plan for a server in reach of the tool. -/
theorem runSteps_driven (steps : List (Step ServerWork)) (hserved : Served e c) :
    ∃ results segments d,
      runSteps (Ipmi.world settings gallery tool) none (.server e) steps c =
        (results, .finished, d) ∧ Served e d ∧
      Driven (Ipmi.IsMissing settings c.scene.world.files) steps segments results ∧
      Tried settings tool e c.scene.world segments.flatten d.scene.world := by
  induction steps generalizing c with
  | nil => exact ⟨[], [], c, rfl, hserved, .finished, .nothing _⟩
  | cons step rest ih =>
    obtain ⟨result, d, trials, hstep, hserved', htried, hhandled⟩ :=
      stepsTo settings gallery tool hserved step
    cases hfails : result.isFailure with
    | true =>
      refine ⟨[result], [trials], d, runSteps_failed hstep hfails, hserved',
        .failed hfails hhandled rest, ?_⟩
      simpa using htried
    | false =>
      obtain ⟨results, segments, d', hruns, hserved'', hdriven, hmore⟩ := ih hserved'
      rw [htried.files] at hdriven
      refine ⟨result :: results, trials :: segments, d', ?_, hserved'',
        .next hfails hhandled hdriven, htried.append hmore⟩
      rw [runSteps, hstep]
      simp [hfails, hruns]

/-- The release of the session does nothing to the machine. -/
theorem close_served (hserved : Served e c) :
    ∃ d, (Executor.server e).close.carry (Ipmi.world settings gallery tool) 0 none c =
      (.done (.ok ()), d) ∧ d.scene.world = c.scene.world := by
  rcases hserved with hidle | hconnected
  · exact ⟨c, close_of_idle (server_keeps e) _ none hidle, rfl⟩
  · have hclose : (Executor.server e).close = Server.close := rfl
    rw [hclose, server_close _ none hconnected, Task.carry, Ipmi.carry_call]
    exact ⟨_, rfl, rfl⟩

/-- A run on a server that only the tool can reach comes to its end, and its trials are those of
its steps. -/
theorem run_driven (e : Endpoint) (steps : List (Step ServerWork))
    (scene : Scene (Ipmi.Machine τ)) :
    let ended := (Executor.server e).run (Ipmi.world settings gallery tool) none steps scene
    ended.1.halt = .finished ∧ ∃ segments,
      Driven (Ipmi.IsMissing settings scene.world.files) steps segments ended.1.results ∧
      Tried settings tool e scene.world segments.flatten ended.2.world := by
  obtain ⟨results, segments, c, hruns, hserved, hdriven, htried⟩ :=
    runSteps_driven settings gallery tool (e := e) (c := { scene := scene }) steps (Or.inl rfl)
  obtain ⟨d, hclose, hworld⟩ := close_served settings gallery tool hserved
  rw [run_eq_finish hruns (by simp), Executor.finish, hclose]
  dsimp only
  rw [hworld]
  exact ⟨rfl, segments, hdriven, htried⟩

end Serving

/-- There is no tool to try the commands of a step with, or it went no further than a trial that
failed or that told that the power is as the step would have it. -/
inductive Step.StopsShort (missing : Prop) (step : Step ServerWork) : List Trial → Prop
  | unserved (h : missing) : StopsShort missing step []
  | broken {trial : Trial} (h : trial.Failed) : StopsShort missing step [trial]
  | needless {trial : Trial} {on : Bool} {c : Ipmi.Command} (h : step.commands = [.status, c])
      (needs : c.needs? = some !on) (told : trial.Reports on) : StopsShort missing step [trial]

/-- What one step may try with the tool. -/
structure Step.Tries (missing : Prop) (step : Step ServerWork) (trials : List Trial)
    (result : ActionResult) : Prop where
  commands : trials.map (·.command) <+: step.commands
  stops_short : trials.map (·.command) ≠ step.commands → step.StopsShort missing trials
  all_well : result.isFailure = false →
    trials.map (·.command) = step.commands ∧ ∀ trial ∈ trials, ¬ trial.Failed
  power_on : ∀ before trial after, trials = before ++ trial :: after → trial.command = .on →
    ∃ earlier status, before = earlier ++ [status] ∧ status.Reports false
  power_off : ∀ before trial after, trials = before ++ trial :: after → trial.command = .off →
    ∃ earlier status, before = earlier ++ [status] ∧ status.Reports true
  silent : step.waits ∨ step.work = .operate .screenshot → trials = []

theorem Handled.tries {missing : Prop} {step : Step ServerWork} {trials : List Trial}
    {result : ActionResult} (h : Handled missing step trials result) :
    step.Tries missing trials result where
  commands := h.commands_prefix
  stops_short hshort := by
    cases h with
    | slept token nanos => exact absurd rfl hshort
    | imageless token what => exact absurd rfl hshort
    | unserved token work what hmissing => exact .unserved hmissing
    | operated token h =>
      obtain ⟨trial, rfl, hfailed | ⟨on, c, hcommands, hneeds, htold⟩⟩ := h.stops_short hshort
      · exact .broken hfailed
      · exact .needless hcommands hneeds htold
  all_well := h.of_success
  power_on before trial after hsplit hcommand := by
    rw [hsplit] at h
    exact h.guarded (by rw [hcommand]; rfl)
  power_off before trial after hsplit hcommand := by
    rw [hsplit] at h
    exact h.guarded (by rw [hcommand]; rfl)
  silent hsilent := by
    cases h with
    | slept token nanos => rfl
    | imageless token what => rfl
    | unserved token work what _ => rfl
    | operated token h => rcases hsilent with hsilent | hsilent <;> cases hsilent

namespace Plan

variable {config : Config} {searchPath : List String} {tool : Ipmi.Tool τ}
  {engine : Engine (Ipmi.Machine τ)} {params : Params} {tokens : List String} {plan : Plan}

/-- On the engine for the settings a host plan is run with the tool. -/
theorem run_on_engine (hengine : config.engine searchPath tool = .ok engine)
    (hplan : compile .host params tokens = .ok plan) (s : Scene (Ipmi.Machine τ)) :
    ∃ address steps, plan = .server address steps ∧
      (engine.run plan s).1.halt = .finished ∧ ∃ segments : List (List Trial),
        Driven (Ipmi.IsMissing (config.ipmiSettings searchPath) s.world.files) steps segments
          (engine.run plan s).1.results ∧
        Tried (config.ipmiSettings searchPath) tool ⟨address, config.credentials⟩ s.world
          segments.flatten (engine.run plan s).2.world := by
  obtain ⟨address, steps, rfl, -⟩ := server_of_compile hplan
  cases hgallery : config.gallery with
  | error cause =>
    rw [Config.engine, hgallery] at hengine
    cases hengine
  | ok gallery =>
    rw [Config.engine, hgallery] at hengine
    obtain rfl : _ = engine := Except.ok.inj hengine
    exact ⟨address, steps, rfl, run_driven (config.ipmiSettings searchPath) gallery tool
      ⟨address, config.credentials⟩ steps s⟩

/-- A host plan that is run on the engine for the settings comes to its end. What it had the tool do
are the commands of its steps, in their order and up to the first that failed. -/
theorem run_stops_at_failed_command (hengine : config.engine searchPath tool = .ok engine)
    (hplan : compile .host params tokens = .ok plan) (s : Scene (Ipmi.Machine τ)) :
    ∃ address steps, plan = .server address steps ∧ steps.map (·.token) = tokens ∧
      let ran := engine.run plan s
      ran.1.halt = .finished ∧ ∃ segments : List (List Trial),
        Tried (config.ipmiSettings searchPath) tool ⟨address, config.credentials⟩ s.world
          segments.flatten ran.2.world ∧
        ran.2.world.invocations = s.world.invocations ++
          (segments.flatten.filter (·.isStarted)).map (·.invocation) ∧
        (∀ trial ∈ segments.flatten.dropLast, ¬ trial.Failed) ∧
        segments.length = ran.1.results.length ∧ ran.1.results.length ≤ steps.length ∧
        (∀ result ∈ ran.1.results.dropLast, result.isFailure = false) ∧
        ((∀ result ∈ ran.1.results, result.isFailure = false) →
          ran.1.results.length = steps.length) ∧
        ∀ (i : Nat) (step : Step ServerWork) (trials : List Trial) (result : ActionResult),
          steps[i]? = some step → segments[i]? = some trials → ran.1.results[i]? = some result →
            step.Tries (Ipmi.IsMissing (config.ipmiSettings searchPath) s.world.files) trials
              result := by
  obtain ⟨-, -, htokens, -⟩ := compile_eq_ok hplan
  obtain ⟨address, steps, rfl, hhalt, segments, hdriven, htried⟩ := run_on_engine hengine hplan s
  have hlength := hdriven.length_eq
  refine ⟨address, steps, rfl, htokens, hhalt, segments, htried, htried.invocations,
    hdriven.earlier_well, hlength.1, hlength.2, hdriven.earlier_success, hdriven.complete, ?_⟩
  intro i step trials result hstep htrials hresult
  exact (hdriven.handled hstep htrials hresult).tries

/-- The tool turns no server on here, and the reset is not tried any more. -/
theorem run_stops_at_failed_command_on :
    let config : Config :=
      { bmc := ⟨"admin", "secret"⟩, ipmi := { binary := some "/bin/ipmitool" } }
    let tool := Ipmi.ToolScript.tool
    let engine : Engine (Ipmi.Machine Ipmi.ToolScript) :=
      ⟨Ipmi.world (config.ipmiSettings []) ⟨"/tmp/screenshots", "/screenshot"⟩ tool,
        config.credentials⟩
    let steps : List (Step ServerWork) :=
      [⟨"poweron", .operate (.operate .powerOn)⟩, ⟨"powercycle", .operate (.operate .powerCycle)⟩]
    let plan := Plan.server "10.0.0.1" steps
    let files : Files :=
      { entries := [(["bin"], .directory), (["bin", "ipmitool"], .file [] true)] }
    let script : Ipmi.ToolScript :=
      [("chassis power status", [⟨.exited 0, Text.bytesOf "Chassis Power is off\n", []⟩]),
        ("chassis power on", [⟨.exited 1, [], Text.bytesOf "Unable to set power\n"⟩])]
    let s : Scene (Ipmi.Machine Ipmi.ToolScript) := { world := ⟨files, script, []⟩ }
    config.engine [] tool = .ok engine ∧
      compile .host [("host", .text "10.0.0.1")] ["poweron", "powercycle"] = .ok plan ∧
      (engine.run plan s).2.world.invocations.map
          (fun invocation => invocation.arguments.drop Ipmi.ToolScript.leading) =
        [["chassis", "power", "status"], ["chassis", "power", "on"]] ∧
      ∃ segments : List (List Trial), segments.length = 1 ∧
        (engine.run plan s).2.world.invocations =
          (segments.flatten.filter (·.isStarted)).map (·.invocation) ∧
        ∀ trial ∈ segments.flatten.dropLast, ¬ trial.Failed := by
  intro config tool engine steps plan files script s
  have hengine : config.engine [] tool = .ok engine := rfl
  have hplan : compile .host [("host", .text "10.0.0.1")] ["poweron", "powercycle"] =
      .ok plan := rfl
  have hlength : (engine.run plan s).1.results.length = 1 := by decide +kernel
  obtain ⟨address, others, -, -, -, segments, -, hinvocations, hearlier, hsegments, -⟩ :=
    run_stops_at_failed_command hengine hplan s
  exact ⟨hengine, hplan, by decide +kernel, segments, hsegments.trans hlength, hinvocations,
    hearlier⟩

end Plan

end Outband
