import Outband.Proofs.BladeSession
import Outband.Proofs.Cues
/-! To name a blade by its serial number comes to the same as to name its slot. The lookup comes
right after the session was opened, and nothing else differs. -/

namespace Outband

/-- Two scenes of which the same can be said since their logs stood at these, and in which no lookup
was made since. -/
structure Mirrors (base base' : List Event) (s t : Scene Script) : Prop where
  world : Script.Agree s.world t.world
  log : ∃ events, s.log = base ++ events ∧ t.log = base' ++ events ∧
    About (fun call => call.isLookup = false) events

section Mirroring

variable {base base' : List Event} {s t : Scene Script}

theorem Mirrors.note (h : Mirrors base base' s t) (event : Event)
    (hcall : event.call.isLookup = false) : Mirrors base base' (s.note event) (t.note event) := by
  obtain ⟨events, hs, ht, habout⟩ := h.log
  refine ⟨h.world, events ++ [event], ?_, ?_, ?_⟩
  · simp [Scene.note, hs]
  · simp [Scene.note, ht]
  · intro other hmem
    rcases List.mem_append.mp hmem with hmem | hmem
    · exact habout other hmem
    · rw [List.mem_singleton.mp hmem]
      exact hcall

theorem Mirrors.moveTo (h : Mirrors base base' s t) (due due' : Time) :
    Mirrors base base' (s.moveTo due) (t.moveTo due') := ⟨h.world, h.log⟩

theorem Mirrors.after {call : Call} (h : Mirrors base base' s t) (hcall : call.isLookup = false) :
    Mirrors base base' (s.after Script.world call) (t.after Script.world call) := by
  obtain ⟨houtcome, hagree⟩ := h.world.world hcall
  have hasked : Mirrors base base' { s with world := (Script.world call s.world).2 }
      { t with world := (Script.world call t.world).2 } := ⟨hagree, h.log⟩
  have hcalled := hasked.note (.called call) hcall
  rw [Scene.after, Scene.after, houtcome]
  exact (hcalled.moveTo _ _).note (.ended call _) hcall

/-- A job without lookups comes to the same in both. -/
theorem Job.carry_mirrors {job : Job α} (honly : job.Only fun call => call.isLookup = false)
    (h : Mirrors base base' s t) :
    (job.carry Script.world none t).1 = (job.carry Script.world none s).1 ∧
      Mirrors base base' (job.carry Script.world none s).2 (job.carry Script.world none t).2 := by
  induction job generalizing s t with
  | done value => exact ⟨rfl, h⟩
  | crashed cause => exact ⟨rfl, h⟩
  | ask call next ih =>
    have hafter := h.after honly.1
    rw [Job.carry_ask_none, Job.carry_ask_none, (h.world.world honly.1).1]
    cases (Script.world call s.world).1.outcome with
    | returns answer => exact ih answer (honly.2 answer) hafter
    | crashes => exact ⟨rfl, hafter⟩
  | asked call due outcome next ih =>
    have hended := (h.moveTo due due).note (.ended call outcome) honly.1
    simp only [Job.carry, Job.allows_none, if_true]
    cases outcome with
    | returns answer => exact ih answer (honly.2 answer) hended
    | crashes => exact ⟨rfl, hended⟩
  | pause span next ih =>
    simp only [Job.carry, Job.allows_none, if_true]
    exact ih honly (h.moveTo _ _)
  | paused due next ih =>
    simp only [Job.carry, Job.allows_none, if_true]
    exact ih honly (h.moveTo _ _)

/-- Connections on which a plan goes on alike by the slot and by the serial number. -/
structure Alike (base base' : List Event) (serial : String) (slot : Slot)
    (c d : Connection Script ChassisSession) : Prop where
  link : d.link = c.link
  scene : Mirrors base base' c.scene d.scene
  lock : d.inventory.lock = {}
  known : d.inventory.slot? serial = some slot

/-- Both come to the same end, on connections of which `P` holds. -/
def Together (P : Connection σ H → Connection σ H → Prop) (r r' : Task H α × Connection σ H) :
    Prop :=
  (∃ value c d, r = (.done value, c) ∧ r' = (.done value, d) ∧ P c d) ∨
    ∃ cause c d, r = (.crashed cause, c) ∧ r' = (.crashed cause, d) ∧ P c d

variable {serial : String} {slot : Slot} {c d : Connection Script ChassisSession}

theorem Alike.work (h : Alike base base' serial slot c d) {job : Job β}
    (honly : job.Only fun call => call.isLookup = false) (f : β → α) :
    Together (fun c' d' => Alike base base' serial slot c' d' ∧ c'.link = c.link)
      ((Task.work job fun value => .done (f value)).carry Script.world 0 none c)
      ((Task.work job fun value => .done (f value)).carry Script.world 0 none d) := by
  have hjob := Job.carry_mirrors honly h.scene
  have hends := Job.carry_none Script.world job c.scene
  rw [Task.carry, Task.carry]
  generalize job.carry Script.world none c.scene = carried at hjob hends ⊢
  generalize job.carry Script.world none d.scene = carried' at hjob ⊢
  obtain ⟨job, s⟩ := carried
  obtain ⟨job', t⟩ := carried'
  obtain ⟨rfl, hscene⟩ := hjob
  rcases hends with ⟨value, rfl⟩ | ⟨cause, rfl⟩
  · exact Or.inl ⟨_, _, _, rfl, rfl, ⟨h.link, hscene, h.lock, h.known⟩, rfl⟩
  · refine Or.inr ⟨_, _, _, rfl, rfl, ⟨h.link, hscene, ?_, h.known⟩, rfl⟩
    simp [Connection.release, Connection.setLock, h.lock, Lock.leave, Lock.promote]

end Mirroring

section Refining

variable {e : Endpoint} {base base' : List Event} {serial : String} {slot : Slot}
  {c d : Connection Script ChassisSession}

/-- A step comes to the same on both. -/
theorem Alike.step (h : Alike base base' serial slot c d) {session : ChassisSession}
    (hphase : c.link.phase = .connected session) (step : Step BladeOp) :
    Together (fun c' d' => Alike base base' serial slot c' d' ∧ c'.link = c.link)
      ((step.task (.blade e (.position slot))).carry Script.world 0 none c)
      ((step.task (.blade e (.serial serial))).carry Script.world 0 none d) := by
  have hphase' : d.link.phase = .connected session := by rw [h.link, hphase]
  rw [Step.task, Step.task]
  cases step.work with
  | sleep nanos =>
    have hwait : (Job.pause (milliseconds nanos)
        (.done (ActionResult.succeeded step.token true))).Only fun call => call.isLookup = false :=
      trivial
    exact h.work hwait id
  | operate op =>
    dsimp only
    rw [serial_perform_known Script.world none hphase' h.lock h.known,
      position_perform Script.world none slot hphase,
      position_perform Script.world none slot hphase']
    exact h.work ((Job.asks_call (.blade session op slot)).only rfl) _

theorem Alike.runSteps (h : Alike base base' serial slot c d) {session : ChassisSession}
    (hphase : c.link.phase = .connected session) (steps : List (Step BladeOp)) :
    ∃ results halt c' d', halt ≠ .dropped ∧
      Outband.runSteps Script.world none (.blade e (.position slot)) steps c = (results, halt, c') ∧
      Outband.runSteps Script.world none (.blade e (.serial serial)) steps d = (results, halt, d') ∧
      Alike base base' serial slot c' d' ∧ c'.link.phase = .connected session := by
  -- The session stays on the link, whatever a step comes to, so that the next one enters again.
  induction steps generalizing c d with
  | nil => exact ⟨[], .finished, c, d, by simp, rfl, rfl, h, hphase⟩
  | cons step rest ih =>
    rcases h.step (e := e) hphase step with
      ⟨result, c', d', hc, hd, halike, hlink⟩ | ⟨cause, c', d', hc, hd, halike, hlink⟩
    · cases hfails : result.isFailure with
      | true =>
        exact ⟨[result], .finished, c', d', by simp, runSteps_failed hc hfails,
          runSteps_failed hd hfails, halike, by rw [hlink, hphase]⟩
      | false =>
        obtain ⟨results, halt, c'', d'', hhalt, hruns, hruns', hend, hopen⟩ :=
          ih halike (by rw [hlink, hphase])
        refine ⟨result :: results, halt, c'', d'', hhalt, ?_, ?_, hend, hopen⟩
        · rw [Outband.runSteps, hc]
          simp [hfails, hruns]
        · rw [Outband.runSteps, hd]
          simp [hfails, hruns']
    · exact ⟨[], .crashed cause, c', d', by simp, runSteps_crashed hc, runSteps_crashed hd, halike,
        by rw [hlink, hphase]⟩

theorem Alike.finish (h : Alike base base' serial slot c d) {session : ChassisSession}
    (hphase : c.link.phase = .connected session) (start : Time) (results : List ActionResult)
    (halt : Halt) :
    let ended := (Executor.blade e (.position slot)).finish Script.world none start results halt c
    let ended' := (Executor.blade e (.serial serial)).finish Script.world none start results halt d
    ended'.1.results = ended.1.results ∧ ended'.1.halt = ended.1.halt ∧
      ended'.1.cleanups = ended.1.cleanups ∧ Mirrors base base' ended.2 ended'.2 := by
  have hphase' : d.link.phase = .connected session := by rw [h.link, hphase]
  have hdetached : Alike base base' serial slot { c with link := c.link.detach.2 }
      { d with link := d.link.detach.2 } := ⟨by rw [h.link], h.scene, h.lock, h.known⟩
  have hclosed : Together
      (fun c' d' => Alike base base' serial slot c' d' ∧ c'.link = c.link.detach.2)
      (Chassis.close.carry Script.world 0 none c) (Chassis.close.carry Script.world 0 none d) := by
    rw [close_connected Script.world none hphase, close_connected Script.world none hphase']
    exact hdetached.work ((Job.asks_call (.closeChassis session)).only rfl) id
  have hclose : ∀ locator, (Executor.blade e locator).close = Chassis.close := fun _ => rfl
  simp only [Executor.finish, hclose]
  rcases hclosed with
    ⟨value, c', d', hc, hd, halike, hlink⟩ | ⟨cause, c', d', hc, hd, halike, hlink⟩
  · rw [hc, hd]
    exact ⟨rfl, rfl, rfl, halike.scene⟩
  · rw [hc, hd]
    dsimp only
    rw [release_of_idle (blade_keeps e _) Script.world (by rw [hlink]; rfl),
      release_of_idle (blade_keeps e _) Script.world (by rw [halike.link, hlink]; rfl)]
    exact ⟨rfl, rfl, rfl, halike.scene⟩

theorem alike_found {session : ChassisSession} (hfresh : c.inventory = {})
    (hfound : (Script.world (.findBlade session serial) c.scene.world).1.outcome =
      .returns (.ok slot)) :
    Alike c.scene.log (c.scene.log ++ [.called (.findBlade session serial),
        .ended (.findBlade session serial) (.returns (.ok slot))]) serial slot c
      ((c.lookedUp Script.world (.findBlade session serial)).remember serial slot) := by
  obtain ⟨hfree, hunknown⟩ := unknown_of_fresh hfresh serial
  obtain ⟨hlock, hknown⟩ :=
    known_of_remember hfree hunknown Script.world (.findBlade session serial) slot
  refine ⟨rfl, ⟨Script.agree_lookup _ _ _, [], by simp, ?_, by simp [About]⟩, hlock, hknown⟩
  simp [Connection.remember, Connection.lookedUp, hfound]

/-- A lookup that finds the slot is all that sets the two runs apart. -/
theorem run_found {sleeps : List (Step BladeOp)} (hsleeps : ∀ step ∈ sleeps, step.waits)
    (token : String) (op : BladeOp) (rest : List (Step BladeOp)) {scene : Scene Script}
    (hopens : (Script.world (.connectChassis e) scene.world).1.outcome = .returns (.ok ()))
    (hfound : (Script.world (.findBlade ⟨e⟩ serial) scene.world).1.outcome = .returns (.ok slot)) :
    let steps := sleeps ++ ⟨token, .operate op⟩ :: rest
    let ended := (Executor.blade e (.position slot)).run Script.world none steps scene
    let ended' := (Executor.blade e (.serial serial)).run Script.world none steps scene
    let opening : List Event :=
      [.called (.connectChassis e), .ended (.connectChassis e) (.returns (.ok ()))]
    let lookup : List Event :=
      [.called (.findBlade ⟨e⟩ serial), .ended (.findBlade ⟨e⟩ serial) (.returns (.ok slot))]
    ended'.1.results = ended.1.results ∧ ended'.1.halt = ended.1.halt ∧
      ended'.1.cleanups = ended.1.cleanups ∧
      Mirrors (scene.log ++ opening) (scene.log ++ opening ++ lookup) ended.2 ended'.2 := by
  obtain ⟨c, hphase, hfresh, hworld, hlog, hrun⟩ :=
    run_opens Script.world e hsleeps token op rest hopens
  have houtcome : (Script.world (.findBlade ⟨e⟩ serial) c.scene.world).1.outcome =
      .returns (.ok slot) := by
    rw [hworld, Script.lookup_outcome rfl, hfound]
  obtain ⟨results, halt, c', d', hhalt, hc, hd, hend, hopen⟩ :=
    (alike_found hfresh houtcome).runSteps (e := e) hphase (⟨token, .operate op⟩ :: rest)
  dsimp only
  have hserial : runSteps Script.world none (.blade e (.serial serial))
      (⟨token, .operate op⟩ :: rest) c = (results, halt, d') :=
    (runSteps_congr (serial_perform_found Script.world hphase hfresh houtcome)).trans hd
  rw [hrun (.position slot) results halt c' hhalt hc,
    hrun (.serial serial) results halt d' hhalt hserial, ← hlog]
  exact hend.finish hopen _ _ _

/-- A lookup that fails ends the run, before anything was asked of the blade. -/
theorem run_not_found {sleeps : List (Step BladeOp)} (hsleeps : ∀ step ∈ sleeps, step.waits)
    (token : String) (op : BladeOp) (rest : List (Step BladeOp)) {scene : Scene Script}
    {cause : DriverError}
    (hopens : (Script.world (.connectChassis e) scene.world).1.outcome = .returns (.ok ()))
    (hfails : (Script.world (.findBlade ⟨e⟩ serial) scene.world).1.outcome =
      .returns (.error cause)) :
    let ended := (Executor.blade e (.serial serial)).run Script.world none
      (sleeps ++ ⟨token, .operate op⟩ :: rest) scene
    ended.1.results = sleeps.map (fun step => .succeeded step.token true) ++
        [.failed token (.driver cause)] ∧
      ended.2.calls = scene.calls ++
        [.connectChassis e, .findBlade ⟨e⟩ serial, .closeChassis ⟨e⟩] := by
  obtain ⟨c, hphase, hfresh, hworld, hlog, hrun⟩ :=
    run_opens Script.world e hsleeps token op rest hopens
  have houtcome : (Script.world (.findBlade ⟨e⟩ serial) c.scene.world).1.outcome =
      .returns (.error cause) := by
    rw [hworld, Script.lookup_outcome rfl, hfails]
  have hsteps : runSteps Script.world none (.blade e (.serial serial))
      (⟨token, .operate op⟩ :: rest) c = ([.failed token (.driver cause)], .finished,
        c.lookedUp Script.world (.findBlade ⟨e⟩ serial)) :=
    runSteps_failed (serial_perform_not_found Script.world hphase hfresh houtcome) rfl
  dsimp only
  rw [hrun (.serial serial) _ _ _ (by simp) hsteps]
  obtain ⟨outcome, hresults, hclosed⟩ := finish_connected (e := e) Script.world (.serial serial)
    (c := c.lookedUp Script.world (.findBlade ⟨e⟩ serial)) hphase scene.now
    (sleeps.map (fun step => .succeeded step.token true) ++ [.failed token (.driver cause)])
    .finished
  refine ⟨hresults, ?_⟩
  rw [Scene.calls_eq, Scene.calls_eq, hclosed]
  simp [Connection.lookedUp, hlog]

end Refining

namespace Step

/-- The steps do not depend on the kind of the target, only the refusals do. -/
theorem ofToken_of_kind {kind : Kind} {supported : Action → Option ω} {token : String}
    {step : Step ω} (h : ofToken kind supported token = .ok step) (other : Kind) :
    ofToken other supported token = .ok step := by
  unfold ofToken at h ⊢
  cases hclass : classify token with
  | known action =>
    simp only [hclass] at h ⊢
    cases hop : supported action with
    | some op => simpa [hop] using h
    | none => simp [hop] at h
  | sleep outcome =>
    rw [hclass] at h
    cases outcome with
    | ok nanos => exact h
    | error cause => cases h
  | unknown =>
    rw [hclass] at h
    cases h

theorem ofTokens_of_kind {kind : Kind} {supported : Action → Option ω} {tokens : List String}
    {steps : List (Step ω)} (h : ofTokens kind supported tokens = .ok steps) (other : Kind) :
    ofTokens other supported tokens = .ok steps := by
  induction tokens generalizing steps with
  | nil => exact h
  | cons token rest ih =>
    simp only [ofTokens] at h ⊢
    cases hstep : ofToken kind supported token with
    | error cause =>
      rw [hstep] at h
      cases h
    | ok step =>
      rw [ofToken_of_kind hstep other]
      rw [hstep] at h
      cases hrest : ofTokens kind supported rest with
      | error cause =>
        rw [hrest] at h
        cases h
      | ok steps =>
        rw [ih hrest]
        rw [hrest] at h
        exact h

end Step

namespace Plan

theorem ofTarget_blade (address serial : String) (slot : Slot) (tokens : List String)
    (steps : List (Step BladeOp)) :
    ofTarget (.bladeByPosition address slot) tokens = .ok (.blade address (.position slot) steps) ↔
      ofTarget (.bladeBySerial address serial) tokens =
        .ok (.blade address (.serial serial) steps) := by
  have hmap : ∀ kind locator,
      blade address locator <$> Step.ofTokens kind Action.bladeOp? tokens =
          .ok (blade address locator steps) ↔
        Step.ofTokens kind Action.bladeOp? tokens = .ok steps := by
    intro kind locator
    cases Step.ofTokens kind Action.bladeOp? tokens <;> simp [Functor.map, Except.map]
  rw [ofTarget, ofTarget, hmap, hmap]
  exact ⟨fun h => Step.ofTokens_of_kind h _, fun h => Step.ofTokens_of_kind h _⟩

/-- A plan for a blade named by its serial number does what the plan by its slot does, if the lookup
finds that slot. The lookup comes right after the session was opened, and is the only one. If it
fails, so does the first action, and the blade is not asked. -/
theorem run_serial_refines_position (address serial : String) (slot : Slot)
    (steps : List (Step BladeOp)) (credentials : Credentials) (scene : Scene Script) :
    let endpoint : Endpoint := ⟨address, credentials⟩
    let connect := Call.connectChassis endpoint
    let lookup := Call.findBlade ⟨endpoint⟩ serial
    let byPosition :=
      (Plan.blade address (.position slot) steps).run Script.world credentials none scene
    let bySerial :=
      (Plan.blade address (.serial serial) steps).run Script.world credentials none scene
    let operates := ∃ step ∈ steps, step.waits = false
    let opens := (Script.world connect scene.world).1.outcome = .returns (.ok ())
    let found := (Script.world lookup scene.world).1.outcome
    (∀ tokens, ofTarget (.bladeByPosition address slot) tokens =
        .ok (.blade address (.position slot) steps) ↔
      ofTarget (.bladeBySerial address serial) tokens =
        .ok (.blade address (.serial serial) steps)) ∧
    (¬ (operates ∧ opens) → bySerial = byPosition) ∧
    (found = .returns (.ok slot) →
      bySerial.1.results = byPosition.1.results ∧ bySerial.1.halt = byPosition.1.halt ∧
      bySerial.1.cleanups = byPosition.1.cleanups ∧
      (operates ∧ opens → ∃ rest,
        byPosition.2.log =
          scene.log ++ [.called connect, .ended connect (.returns (.ok ()))] ++ rest ∧
        bySerial.2.log = scene.log ++ [.called connect, .ended connect (.returns (.ok ()))] ++
          [.called lookup, .ended lookup (.returns (.ok slot))] ++ rest ∧
        About (fun call => call.isLookup = false) rest)) ∧
    ∀ cause, found = .returns (.error cause) → operates ∧ opens →
      ∃ sleeps token op rest, steps = sleeps ++ ⟨token, .operate op⟩ :: rest ∧
        (∀ step ∈ sleeps, step.waits) ∧
        bySerial.1.results = sleeps.map (fun step => .succeeded step.token true) ++
          [.failed token (.driver cause)] ∧
        bySerial.2.calls = scene.calls ++ [connect, lookup, .closeChassis ⟨endpoint⟩] := by
  have hsplit : (∃ step ∈ steps, step.waits = false) →
      ∃ sleeps token op rest, steps = sleeps ++ ⟨token, .operate op⟩ :: rest ∧
        ∀ step ∈ sleeps, step.waits := by
    rintro ⟨step, hmem, hstep⟩
    rcases steps_split steps with hall | hsplit
    · rw [hall step hmem] at hstep
      cases hstep
    · exact hsplit
  have hunopened := run_unopened Script.world ⟨address, credentials⟩ (.position slot)
    (.serial serial) steps scene
  refine ⟨fun tokens => ofTarget_blade address serial slot tokens steps, hunopened, ?_, ?_⟩
  · intro hfound
    by_cases h : (∃ step ∈ steps, step.waits = false) ∧
        (Script.world (.connectChassis ⟨address, credentials⟩) scene.world).1.outcome =
          .returns (.ok ())
    · obtain ⟨sleeps, token, op, rest, rfl, hsleeps⟩ := hsplit h.1
      obtain ⟨hresults, hhalt, hcleanups, hmirrors⟩ := run_found hsleeps token op rest h.2 hfound
      exact ⟨hresults, hhalt, hcleanups, fun _ => hmirrors.log⟩
    · have hsame := hunopened h
      exact ⟨congrArg (·.1.results) hsame, congrArg (·.1.halt) hsame, congrArg (·.1.cleanups) hsame,
        fun hboth => absurd hboth h⟩
  · rintro cause hfails ⟨hoperates, hopens⟩
    obtain ⟨sleeps, token, op, rest, rfl, hsleeps⟩ := hsplit hoperates
    obtain ⟨hresults, hcalls⟩ := run_not_found hsleeps token op rest hopens hfails
    exact ⟨sleeps, token, op, rest, rfl, hsleeps, hresults, hcalls⟩

/-- The blade is looked up once, also when the call after that crashes. -/
example :
    let endpoint : Endpoint := ⟨"10.0.0.9", ⟨"admin", "secret"⟩⟩
    let slot : Slot := ⟨3, by decide, by decide⟩
    let steps : List (Step BladeOp) := [⟨"reseat", .operate .reseat⟩, ⟨"ison", .operate .isOn⟩]
    let script : Script := { blades := [("SN7", slot)], cues := [("blade.is_on", [.crash])] }
    ((Plan.blade endpoint.host (.serial "SN7") steps).run Script.world endpoint.credentials none
        { world := script }).2.calls =
      [.connectChassis endpoint, .findBlade ⟨endpoint⟩ "SN7", .blade ⟨endpoint⟩ .reseat slot,
        .blade ⟨endpoint⟩ .isOn slot, .closeChassis ⟨endpoint⟩] := by
  decide +kernel

end Plan

end Outband
