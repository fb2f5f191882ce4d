import Outband.Proofs.Repertoire
/-! How the run of a plan unfolds: what a call leaves behind, what a step leaves to the steps after
it, and that the sleeps before the first action leave nothing. -/

namespace Outband

/-- The scene when a call was waited for. -/
def Scene.after (world : World σ) (s : Scene σ) (call : Call) : Scene σ :=
  ((s.ask world call).2.moveTo (s.now + (world call s.world).1.delay)).note
    (.ended call (world call s.world).1.outcome)

section After

variable (world : World σ) (s : Scene σ) (call : Call)

@[simp] theorem Scene.after_log :
    (s.after world call).log =
      s.log ++ [.called call, .ended call (world call s.world).1.outcome] :=
  List.append_assoc s.log [_] [_]

theorem Job.carry_ask_none (next : call.Answer → Job α) :
    (Job.ask call next).carry world none s =
      match (world call s.world).1.outcome with
      | .returns answer => (next answer).carry world none (s.after world call)
      | .crashes => (.crashed (.call call), s.after world call) := by
  simp only [Job.carry, Job.allows_none, if_true]
  rfl

end After

/-- On an idle link the caller runs the attempt that it starts. -/
theorem carry_enter_idle (world : World σ) (limit : Limit) (owner : Nat)
    (connect : Job (Except DriverError H)) (next : Except DriverError H → Task H α)
    {c : Connection σ H} (h : c.link.phase = .idle) :
    (Task.enter connect next).carry world owner limit c =
      match connect.carry world limit c.scene with
      | (.done outcome, s) =>
        (next outcome).carry world owner limit
          { c with
            link := ⟨match outcome with | .ok session => .connected session | .error _ => .idle,
              c.link.attempts ++ [.ended outcome]⟩
            scene := s }
      | (.crashed cause, s) =>
        (.crashed cause,
          { c with
            link := ⟨.connecting c.link.attempts.length, c.link.attempts ++ [Attempt.crashed]⟩
            scene := s }.release owner)
      | (job, s) =>
        (.join c.link.attempts.length next,
          { c with
            link := ⟨.connecting c.link.attempts.length, c.link.attempts ++ [.running job]⟩
            scene := s }) := by
  rw [Task.carry, h]
  simp only [Link.start, Connection.advance, Link.advance, Link.record,
    List.getElem?_concat_length]
  rcases connect.carry world limit c.scene with ⟨job, s⟩
  cases job with
  | done outcome => cases outcome <;> simp [Connection.settle, Link.settle]
  | _ => simp

/-- Who finds the session open uses it. -/
theorem carry_enter_connected {world : World σ} {owner : Nat} {limit : Limit}
    (connect : Job (Except DriverError H)) (next : Except DriverError H → Task H α)
    {c : Connection σ H} {session : H} (hphase : c.link.phase = .connected session) :
    (Task.enter connect next).carry world owner limit c =
      (next (.ok session)).carry world owner limit c := by
  rw [Task.carry, hphase]

/-- The step waits, and does nothing to the device. -/
def Step.waits (step : Step ω) : Bool :=
  match step.work with
  | .sleep _ => true
  | .operate _ => false

section Running

variable {world : World σ} {limit : Limit} {ex : Executor H ω} {step : Step ω}
  {rest : List (Step ω)} {c d : Connection σ H}

theorem runSteps_congr
    (h : (step.task ex).carry world 0 limit c = (step.task ex).carry world 0 limit d) :
    runSteps world limit ex (step :: rest) c = runSteps world limit ex (step :: rest) d := by
  rw [runSteps, runSteps, h]

theorem runSteps_failed {result : ActionResult}
    (h : (step.task ex).carry world 0 limit c = (.done result, d)) (hfails : result.isFailure) :
    runSteps world limit ex (step :: rest) c = ([result], .finished, d) := by
  rw [runSteps, h]
  simp [hfails]

theorem runSteps_crashed {cause : Crash}
    (h : (step.task ex).carry world 0 limit c = (.crashed cause, d)) :
    runSteps world limit ex (step :: rest) c = ([], .crashed cause, d) := by
  rw [runSteps, h]

/-- The first step that is no sleep is an action. -/
theorem steps_split (steps : List (Step ω)) : (∀ step ∈ steps, step.waits) ∨
    ∃ sleeps token op rest, steps = sleeps ++ ⟨token, .operate op⟩ :: rest ∧
      ∀ step ∈ sleeps, step.waits := by
  induction steps with
  | nil => exact Or.inl (by simp)
  | cons step steps ih =>
    obtain ⟨token, work⟩ := step
    cases work with
    | sleep nanos =>
      rcases ih with hall | ⟨sleeps, other, op, rest, rfl, hsleeps⟩
      · exact Or.inl (List.forall_mem_cons.mpr ⟨rfl, hall⟩)
      · exact Or.inr ⟨⟨token, .sleep nanos⟩ :: sleeps, other, op, rest, rfl,
          List.forall_mem_cons.mpr ⟨rfl, hsleeps⟩⟩
    | operate op => exact Or.inr ⟨[], token, op, steps, rfl, by simp⟩

/-- Steps that sleep go well and leave nothing in the log. -/
theorem runSteps_sleeps (world : World σ) (sleeps : List (Step ω))
    (hsleeps : ∀ step ∈ sleeps, step.waits) (c : Connection σ H) :
    ∃ s : Scene σ, s.world = c.scene.world ∧ s.log = c.scene.log ∧
      ∀ (ex : Executor H ω) (rest : List (Step ω)),
        runSteps world none ex (sleeps ++ rest) c =
          let ran := runSteps world none ex rest { c with scene := s }
          (sleeps.map (fun step => .succeeded step.token true) ++ ran.1, ran.2) := by
  induction sleeps generalizing c with
  | nil => exact ⟨c.scene, rfl, rfl, fun ex rest => rfl⟩
  | cons step sleeps ih =>
    obtain ⟨hfirst, hlater⟩ := List.forall_mem_cons.mp hsleeps
    obtain ⟨token, work⟩ := step
    cases work with
    | operate op => cases hfirst
    | sleep nanos =>
      obtain ⟨s, hworld, hlog, hrest⟩ :=
        ih hlater { c with scene := c.scene.moveTo (c.scene.now + milliseconds nanos) }
      refine ⟨s, hworld, hlog, fun ex rest => ?_⟩
      have htask : (Step.task ex ⟨token, .sleep nanos⟩).carry world 0 none c =
          (.done (.succeeded token true),
            { c with scene := c.scene.moveTo (c.scene.now + milliseconds nanos) }) :=
        (carry_wait world 0 none _ _ c).trans (if_pos (Job.allows_none _ _))
      rw [List.cons_append, runSteps, htask]
      dsimp only
      rw [hrest]
      rfl

/-- Executors that release alike run alike when their steps do. -/
theorem run_congr {ex' : Executor H ω} {steps : List (Step ω)} {scene : Scene σ}
    (hclose : ex'.close = ex.close)
    (h : runSteps world limit ex' steps { scene := scene } =
      runSteps world limit ex steps { scene := scene }) :
    ex'.run world limit steps scene = ex.run world limit steps scene := by
  simp only [Executor.run, Executor.finish, Executor.cutOff, Executor.release, h, hclose]

theorem run_eq_finish {steps : List (Step ω)} {scene : Scene σ} {results : List ActionResult}
    {halt : Halt} (h : runSteps world limit ex steps { scene := scene } = (results, halt, c))
    (hhalt : halt ≠ .dropped) :
    ex.run world limit steps scene = ex.finish world limit scene.now results halt c := by
  rw [Executor.run, h]
  cases halt with
  | dropped => exact absurd rfl hhalt
  | _ => rfl

end Running

end Outband
