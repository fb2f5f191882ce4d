import Outband.Proofs.StepByStep
/-! The course of a run that no crash ends: what each of its steps asks of the world and comes to,
by the session that the run holds by then and by what it has learned. -/

namespace Outband

/-- Calls that were made one after another, each answered as the world answers it in the state that
the one before has left. -/
inductive World.Heard (world : World σ) : σ → List Event → σ → Prop
  | nothing (state : σ) : Heard world state [] state
  | call {state after : σ} (call : Call) {rest : List Event}
      (more : Heard world (world call state).2 rest after) :
    Heard world state (.called call :: .ended call (world call state).1.outcome :: rest) after

/-- These events lead from one scene to a later one. -/
structure Scene.Leads (world : World σ) (s : Scene σ) (events : List Event) (t : Scene σ) :
    Prop where
  log : t.log = s.log ++ events
  heard : world.Heard s.world events t.world
  origin : t.origin = s.origin
  now : s.now ≤ t.now

/-- The task crashed, or came to a value. `P` holds of the value, of what happened until then, and
of the connection as it was left. -/
def Comes (world : World σ) (P : α → List Event → Connection σ H → Prop) (c : Connection σ H)
    (carried : Task H α × Connection σ H) : Prop :=
  (∃ cause, carried.1 = .crashed cause) ∨
    ∃ value events d, carried = (.done value, d) ∧ c.scene.Leads world events d.scene ∧
      P value events d

/-- The job crashed, or came to an outcome. `P` holds of what happened until then, and of it. -/
def Concludes (world : World σ) (P : List Event → β → Prop) (s : Scene σ)
    (carried : Job β × Scene σ) : Prop :=
  (∃ cause t, carried = (.crashed cause, t)) ∨
    ∃ outcome events t, carried = (.done outcome, t) ∧ s.Leads world events t ∧ P events outcome

/-- The connection when a call was waited for. -/
def Connection.after (world : World σ) (c : Connection σ H) (call : Call) : Connection σ H :=
  { c with scene := c.scene.after world call }

/-- What the link is for a caller who may hold a session. -/
def Phase.holding : Option H → Phase H
  | some session => .connected session
  | none => .idle

section Coming

variable {world : World σ} {c d : Connection σ H} {s t u : Scene σ} {events more : List Event}
  {P : α → List Event → Connection σ H → Prop}

theorem World.Heard.append {state between after : σ} (h : world.Heard state events between)
    (hmore : world.Heard between more after) : world.Heard state (events ++ more) after := by
  induction h with
  | nothing state => exact hmore
  | call call _ ih => exact .call call (ih hmore)

theorem Scene.Leads.refl (world : World σ) (s : Scene σ) : s.Leads world [] s :=
  ⟨(List.append_nil _).symm, .nothing _, rfl, Nat.le_refl _⟩

theorem Scene.Leads.trans (h : s.Leads world events t) (hmore : t.Leads world more u) :
    s.Leads world (events ++ more) u where
  log := by rw [hmore.log, h.log, List.append_assoc]
  heard := h.heard.append hmore.heard
  origin := hmore.origin.trans h.origin
  now := Nat.le_trans h.now hmore.now

theorem Scene.leads_moveTo (world : World σ) (s : Scene σ) (due : Time) :
    s.Leads world [] (s.moveTo due) :=
  ⟨(List.append_nil _).symm, .nothing _, rfl, Nat.le_max_left _ _⟩

theorem Scene.leads_after (world : World σ) (s : Scene σ) (call : Call) :
    s.Leads world [.called call, .ended call (world call s.world).1.outcome]
      (s.after world call) :=
  ⟨s.after_log world call, .call call (.nothing _), rfl, Nat.le_max_left _ _⟩

theorem comes_done {value : α} (h : P value [] c) : Comes world P c (.done value, c) :=
  Or.inr ⟨value, [], c, rfl, .refl world _, h⟩

theorem Comes.mono {Q : α → List Event → Connection σ H → Prop}
    {carried : Task H α × Connection σ H} (h : Comes world P c carried)
    (hPQ : ∀ value events d, P value events d → Q value events d) : Comes world Q c carried := by
  rcases h with hcrashed | ⟨value, events, d, hdone, hleads, hP⟩
  · exact Or.inl hcrashed
  · exact Or.inr ⟨value, events, d, hdone, hleads, hPQ value events d hP⟩

theorem Comes.after_events {carried : Task H α × Connection σ H}
    (h : Comes world (fun value more d => P value (events ++ more) d) d carried)
    (hleads : c.scene.Leads world events d.scene) : Comes world P c carried := by
  rcases h with hcrashed | ⟨value, more, d', hdone, hmore, hP⟩
  · exact Or.inl hcrashed
  · exact Or.inr ⟨value, events ++ more, d', hdone, hleads.trans hmore, hP⟩

/-- A call crashes the job, or it is answered and the job goes on from there. -/
theorem Job.carry_ask_leads (world : World σ) (s : Scene σ) (call : Call)
    (next : call.Answer → Job β) :
    (∃ cause t, (Job.ask call next).carry world none s = (.crashed cause, t)) ∨
      ∃ answer, (Job.ask call next).carry world none s =
          (next answer).carry world none (s.after world call) ∧
        s.Leads world [.called call, .ended call (.returns answer)] (s.after world call) := by
  have hleads := s.leads_after world call
  rw [carry_ask_none]
  cases houtcome : (world call s.world).1.outcome with
  | crashes => exact Or.inl ⟨_, _, rfl⟩
  | returns answer =>
    rw [houtcome] at hleads
    exact Or.inr ⟨answer, rfl, hleads⟩

theorem concludes_done {Q : List Event → β → Prop} {outcome : β} (h : Q [] outcome) :
    Concludes world Q s (.done outcome, s) :=
  Or.inr ⟨outcome, [], s, rfl, .refl world s, h⟩

theorem concludes_ask {Q : List Event → β → Prop} {call : Call} {next : call.Answer → Job β}
    (h : ∀ answer, Concludes world
      (fun more outcome => Q ([.called call, .ended call (.returns answer)] ++ more) outcome)
      (s.after world call) ((next answer).carry world none (s.after world call))) :
    Concludes world Q s ((Job.ask call next).carry world none s) := by
  rcases Job.carry_ask_leads world s call next with hcrashed | ⟨answer, hcarry, hleads⟩
  · exact Or.inl hcrashed
  · rw [hcarry]
    rcases h answer with hcrashed | ⟨outcome, more, t, hdone, hmore, hQ⟩
    · exact Or.inl hcrashed
    · exact Or.inr ⟨outcome, _, t, hdone, hleads.trans hmore, hQ⟩

/-- A job that is one call is done and, unless that crashes, the task goes on with its value. -/
theorem comes_ask {call : Call} {answering : call.Answer → Job β} {next : β → Task H α}
    (h : ∀ answer, ∃ value, answering answer = .done value ∧ Comes world
      (fun result more d => P result ([.called call, .ended call (.returns answer)] ++ more) d)
      (c.after world call) ((next value).carry world 0 none (c.after world call))) :
    Comes world P c ((Task.work (.ask call answering) next).carry world 0 none c) := by
  rw [Task.carry]
  rcases Job.carry_ask_leads world c.scene call answering with
    ⟨cause, t, hcarry⟩ | ⟨answer, hcarry, hleads⟩
  · rw [hcarry]
    exact Or.inl ⟨cause, rfl⟩
  · obtain ⟨value, hvalue, hnext⟩ := h answer
    rw [hcarry, hvalue]
    exact hnext.after_events hleads

theorem comes_call {call : Call} {next : call.Answer → Task H α}
    (h : ∀ answer, Comes world
      (fun value more d => P value ([.called call, .ended call (.returns answer)] ++ more) d)
      (c.after world call) ((next answer).carry world 0 none (c.after world call))) :
    Comes world P c ((Task.work (Job.call call) next).carry world 0 none c) :=
  comes_ask fun answer => ⟨answer, rfl, h answer⟩

/-- The release of a session asks for nothing but that. -/
theorem Executor.Keeps.comes_close {t : Trade H} {ex : Executor H ω} (hk : ex.Keeps t)
    {held : Option H} (hphase : c.link.phase = .holding held) :
    Comes world (fun _ events _ => About (fun call => call.isClose) events) c
      (ex.close.carry world 0 none c) := by
  cases held with
  | none =>
    rw [close_of_idle hk world none hphase]
    exact comes_done (by simp [About])
  | some session =>
    obtain ⟨answering, hask, hanswer⟩ := t.close_asks session
    rw [hk.close, Task.carry, Link.detach, hphase]
    dsimp only [Phase.holding]
    rw [hask]
    refine comes_ask (c := { c with link := { c.link with phase := .idle } }) fun answer => ?_
    obtain ⟨value, hvalue⟩ := hanswer answer
    refine ⟨value, hvalue, comes_done fun event hmem => ?_⟩
    rcases List.mem_pair.mp hmem with rfl | rfl <;> exact (t.session session).isClose_close

end Coming

/-- A second of Unix time in this span of a clock that stood at zero at `origin`. -/
def SecondIn (origin : Int) (start stop : Time) (seconds : Int) : Prop :=
  ∃ time : Time, start ≤ time ∧ time ≤ stop ∧ seconds = (origin + time).fdiv 1000

theorem secondIn_of_leads {world : World σ} {s t : Scene σ} {events : List Event} {origin : Int}
    {start stop : Time} (h : s.Leads world events t) (horigin : s.origin = origin)
    (hstart : start ≤ s.now) (hstop : t.now ≤ stop) : SecondIn origin start stop t.unixSeconds :=
  ⟨t.now, Nat.le_trans hstart h.now, hstop, by rw [Scene.unixSeconds, h.origin, horigin]⟩

/-- How targets of a kind are handled, with sessions `H` and actions `ω`. `M` is what there is to be
known of the target. -/
structure Manner (H M ω : Type) where
  /-- What an attempt to connect asks and comes to. -/
  Attempted : List Event → Except DriverError H → Prop
  /-- What an action does on the open session with what is known, and comes to, and what is known
  then. It may read the clock in these seconds. -/
  Serving : (Int → Prop) → H → M → String → ω → List Event → ActionResult → M → Prop
  token_eq : ∀ {seconds : Int → Prop} {session : H} {known after : M} {token : String} {op : ω}
    {events : List Event} {result : ActionResult},
    Serving seconds session known token op events result after → result.token = token

/-- What a run stands on between two steps: the session that it holds, and what it knows. -/
structure Ground (H M : Type) where
  session : Option H
  known : M

/-- What a step does and comes to, from one ground to the next. -/
inductive Doing (m : Manner H M ω) (seconds : Int → Prop) :
    Ground H M → Step ω → List Event → ActionResult → Ground H M → Prop
  | slept (ground : Ground H M) (token : String) (nanos : Nat) :
    Doing m seconds ground ⟨token, .sleep nanos⟩ [] (.succeeded token true) ground
  | unopened {known : M} (token : String) (op : ω) {events : List Event} {cause : DriverError}
      (h : m.Attempted events (.error cause)) :
    Doing m seconds ⟨none, known⟩ ⟨token, .operate op⟩ events (.failed token (.driver cause))
      ⟨none, known⟩
  | opened {known after : M} {token : String} {op : ω} {session : H} {events more : List Event}
      {result : ActionResult} (h : m.Attempted events (.ok session))
      (serving : m.Serving seconds session known token op more result after) :
    Doing m seconds ⟨none, known⟩ ⟨token, .operate op⟩ (events ++ more) result
      ⟨some session, after⟩
  | held {known after : M} {token : String} {op : ω} {session : H} {events : List Event}
      {result : ActionResult}
      (serving : m.Serving seconds session known token op events result after) :
    Doing m seconds ⟨some session, known⟩ ⟨token, .operate op⟩ events result ⟨some session, after⟩

/-- What the steps of a run do and come to, one after another, up to the first that fails. -/
inductive Ran (m : Manner H M ω) (seconds : Int → Prop) :
    Ground H M → List (Step ω) → List (List Event) → List ActionResult → Prop
  | finished (ground : Ground H M) : Ran m seconds ground [] [] []
  | failed {ground left : Ground H M} {step : Step ω} {events : List Event}
      {result : ActionResult} (failure : result.isFailure)
      (h : Doing m seconds ground step events result left) (later : List (Step ω)) :
    Ran m seconds ground (step :: later) [events] [result]
  | next {ground left : Ground H M} {step : Step ω} {events : List Event}
      {result : ActionResult} {later : List (Step ω)} {segments : List (List Event)}
      {results : List ActionResult} (success : result.isFailure = false)
      (h : Doing m seconds ground step events result left)
      (more : Ran m seconds left later segments results) :
    Ran m seconds ground (step :: later) (events :: segments) (result :: results)

theorem token_ofStatus (token : String) (answer : Except DriverError Bool) :
    (ActionResult.ofStatus token answer).token = token := by
  cases answer <;> rfl

section Running

variable {m : Manner H M ω} {seconds : Int → Prop} {ground left : Ground H M} {step : Step ω}
  {events : List Event} {result : ActionResult} {steps : List (Step ω)}
  {segments : List (List Event)} {results : List ActionResult}

theorem Doing.token_eq (h : Doing m seconds ground step events result left) :
    result.token = step.token := by
  cases h with
  | slept | unopened => rfl
  | opened _ serving | held serving => exact m.token_eq serving

theorem Ran.length_eq (h : Ran m seconds ground steps segments results) :
    segments.length = results.length := by
  induction h with
  | finished ground => rfl
  | failed failure h later => rfl
  | next success h more ih => exact congrArg Nat.succ ih

end Running

/-- An executor handles its target in that manner. `knows` tells what an inventory stands for. -/
structure Executor.Follows (world : World σ) (ex : Executor H ω)
    (connect : Job (Except DriverError H)) (m : Manner H M ω) (knows : M → Inventory → Prop) :
    Prop where
  enters : ∀ token op, ∃ next, ex.perform token op = .enter connect next ∧
    ∀ cause, next (.error cause) = .done (.failed token (.driver cause))
  attempts : ∀ s : Scene σ, Concludes world m.Attempted s (connect.carry world none s)
  serves : ∀ (token : String) (op : ω) {c : Connection σ H} {session : H} {known : M} {origin : Int}
    {start : Time}, c.link.phase = .connected session → knows known c.inventory →
    c.scene.origin = origin → start ≤ c.scene.now →
      Comes world (fun result events d => d.link.phase = .connected session ∧
          ∃ after, knows after d.inventory ∧ ∀ stop, d.scene.now ≤ stop →
            m.Serving (SecondIn origin start stop) session known token op events result after) c
        ((ex.perform token op).carry world 0 none c)
  closes : ∀ {c : Connection σ H} {held : Option H}, c.link.phase = .holding held →
    Comes world (fun _ events _ => About (fun call => call.isClose) events) c
      (ex.close.carry world 0 none c)

namespace Executor.Follows

variable {world : World σ} {ex : Executor H ω} {connect : Job (Except DriverError H)}
  {m : Manner H M ω} {knows : M → Inventory → Prop} {c : Connection σ H} {ground : Ground H M}
  {origin : Int} {start : Time}

/-- The session is there already, or an attempt is made to open it. -/
theorem comes_enter (hf : ex.Follows world connect m knows)
    {P : α → List Event → Connection σ H → Prop} {next : Except DriverError H → Task H α}
    (hidle : c.link.phase = .idle)
    (h : ∀ outcome events (d : Connection σ H), m.Attempted events outcome →
      c.scene.Leads world events d.scene → d.link.phase = .holding outcome.toOption →
      d.inventory = c.inventory →
        Comes world (fun value more d' => P value (events ++ more) d') d
          ((next outcome).carry world 0 none d)) :
    Comes world P c ((Task.enter connect next).carry world 0 none c) := by
  rw [carry_enter_idle world none 0 connect next hidle]
  rcases hf.attempts c.scene with
    ⟨cause, t, hcarry⟩ | ⟨outcome, events, t, hcarry, hleads, hattempted⟩
  · rw [hcarry]
    exact Or.inl ⟨cause, rfl⟩
  · rw [hcarry]
    refine (h outcome events { c with link := _, scene := t } hattempted hleads ?_ rfl).after_events
      hleads
    cases outcome <;> rfl

/-- One step, from whatever ground. -/
theorem comes_doing (hf : ex.Follows world connect m knows) (step : Step ω)
    (hphase : c.link.phase = .holding ground.session) (hknows : knows ground.known c.inventory)
    (horigin : c.scene.origin = origin) (hstart : start ≤ c.scene.now) :
    Comes world (fun result events d => ∃ left : Ground H M,
        d.link.phase = .holding left.session ∧ knows left.known d.inventory ∧
        ∀ stop, d.scene.now ≤ stop →
          Doing m (SecondIn origin start stop) ground step events result left)
      c ((step.task ex).carry world 0 none c) := by
  obtain ⟨token, work⟩ := step
  obtain ⟨held, known⟩ := ground
  cases work with
  | sleep nanos =>
    rw [Step.task, carry_wait, if_pos (Job.allows_none _ _)]
    exact Or.inr ⟨_, [], _, rfl, c.scene.leads_moveTo world _, ⟨held, known⟩, hphase, hknows,
      fun _ _ => .slept _ token nanos⟩
  | operate op =>
    dsimp only [Step.task]
    cases held with
    | some session =>
      refine (hf.serves token op hphase hknows horigin hstart).mono fun result events d h => ?_
      obtain ⟨hleft, after, hafter, hserving⟩ := h
      exact ⟨⟨some session, after⟩, hleft, hafter, fun stop hstop => .held (hserving stop hstop)⟩
    | none =>
      obtain ⟨next, hnext, hfails⟩ := hf.enters token op
      rw [hnext]
      refine hf.comes_enter hphase fun outcome events d hattempted hleads hleft hkept => ?_
      have hknown : knows known d.inventory := by
        rw [hkept]
        exact hknows
      cases outcome with
      | error cause =>
        rw [hfails]
        refine comes_done ⟨⟨none, known⟩, hleft, hknown, fun stop _ => ?_⟩
        rw [List.append_nil]
        exact .unopened token op hattempted
      | ok session =>
        -- On the session that was just opened the action goes as on one that was open.
        rw [← carry_enter_connected connect next hleft, ← hnext]
        refine (hf.serves token op hleft hknown (hleads.origin.trans horigin)
          (Nat.le_trans hstart hleads.now)).mono fun result more d' h => ?_
        obtain ⟨hopen, after, hafter, hserving⟩ := h
        exact ⟨⟨some session, after⟩, hopen, hafter,
          fun stop hstop => .opened hattempted (hserving stop hstop)⟩

theorem runSteps_ran (hf : ex.Follows world connect m knows) (steps : List (Step ω))
    (hphase : c.link.phase = .holding ground.session) (hknows : knows ground.known c.inventory)
    (horigin : c.scene.origin = origin) (hstart : start ≤ c.scene.now) :
    (∃ cause, (runSteps world none ex steps c).2.1 = .crashed cause) ∨
      ∃ results segments d held, runSteps world none ex steps c = (results, .finished, d) ∧
        d.link.phase = .holding held ∧ c.scene.Leads world segments.flatten d.scene ∧
        ∀ stop, d.scene.now ≤ stop →
          Ran m (SecondIn origin start stop) ground steps segments results := by
  -- The induction follows the ground from one step to the next.
  induction steps generalizing c ground with
  | nil => exact Or.inr ⟨[], [], c, _, rfl, hphase, .refl world _, fun _ _ => .finished ground⟩
  | cons step rest ih =>
    rcases hf.comes_doing step hphase hknows horigin hstart with
      ⟨cause, hcrashed⟩ | ⟨result, events, d, hstep, hleads, left, hleft, hknown, hdoing⟩
    · refine Or.inl ⟨cause, ?_⟩
      rw [runSteps_crashed (Prod.ext hcrashed rfl)]
    · cases hfails : result.isFailure with
      | true =>
        refine Or.inr ⟨[result], [events], d, _, runSteps_failed hstep hfails, hleft,
          by simpa using hleads, fun stop hstop => .failed hfails (hdoing stop hstop) rest⟩
      | false =>
        rcases ih hleft hknown (hleads.origin.trans horigin) (Nat.le_trans hstart hleads.now) with
          ⟨cause, hcrashed⟩ | ⟨results, segments, d', held, hruns, hheld, hmore, hran⟩
        · refine Or.inl ⟨cause, ?_⟩
          rw [runSteps, hstep]
          simpa [hfails] using hcrashed
        · refine Or.inr ⟨result :: results, events :: segments, d', held, ?_, hheld,
            hleads.trans hmore, fun stop hstop => ?_⟩
          · rw [runSteps, hstep]
            simp [hfails, hruns]
          · exact .next hfails (hdoing stop (Nat.le_trans hmore.now hstop)) (hran stop hstop)

end Executor.Follows

/-- A run finishes only when its steps and the release do. -/
theorem finish_of_finished {world : World σ} {limit : Limit} {ex : Executor H ω} {start : Time}
    {results : List ActionResult} {halt : Halt} {c : Connection σ H}
    (h : (ex.finish world limit start results halt c).1.halt = .finished) :
    halt = .finished ∧ ∃ value d, ex.close.carry world 0 limit c = (.done value, d) ∧
      ex.finish world limit start results halt c =
        (⟨results, .finished, d.scene.now - start, 1⟩, d.scene) := by
  rw [Executor.finish] at h ⊢
  generalize ex.close.carry world 0 limit c = closed at h ⊢
  obtain ⟨task, d⟩ := closed
  cases task with
  | done value =>
    obtain rfl : halt = .finished := h
    exact ⟨rfl, value, d, rfl, rfl⟩
  | _ => cases h

/-- What a run of steps does until it is finished. -/
theorem Executor.Follows.run_ran {world : World σ} {ex : Executor H ω}
    {connect : Job (Except DriverError H)} {m : Manner H M ω} {knows : M → Inventory → Prop}
    (hf : ex.Follows world connect m knows) {known : M} (hknows : knows known {})
    (steps : List (Step ω)) (scene : Scene σ)
    (hhalt : (ex.run world none steps scene).1.halt = .finished) :
    let ended := ex.run world none steps scene
    ∃ segments closing, scene.Leads world (segments.flatten ++ closing) ended.2 ∧
      About (fun call => call.isClose) closing ∧
      Ran m (SecondIn scene.origin scene.now ended.2.now) ⟨none, known⟩ steps segments
        ended.1.results := by
  have hfirst : (Connection.link { scene := scene }).phase =
      Phase.holding (Ground.mk (none : Option H) known).session := rfl
  rcases hf.runSteps_ran steps hfirst hknows rfl (Nat.le_refl scene.now) with
    ⟨cause, hcrash⟩ | ⟨results, segments, d, held, hruns, hheld, hleads, hran⟩
  · have hruns : runSteps world none ex steps { scene := scene } = (_, .crashed cause, _) :=
      Prod.ext rfl (Prod.ext hcrash rfl)
    rw [run_eq_finish hruns (by simp)] at hhalt
    cases (finish_of_finished hhalt).1
  · rw [run_eq_finish hruns (by simp)] at hhalt ⊢
    obtain ⟨-, value, last, hclosed, hfinish⟩ := finish_of_finished hhalt
    rw [hfinish]
    rcases hf.closes hheld with ⟨cause, hcrashed⟩ | ⟨_, closing, _, hdone, hmore, hclosing⟩
    · rw [hclosed] at hcrashed
      cases hcrashed
    · obtain ⟨-, rfl⟩ := Prod.mk.inj (hclosed.symm.trans hdone)
      exact ⟨segments, closing, hleads.trans hmore, hclosing, hran _ hmore.now⟩

end Outband
