import Outband.Proofs.BladeSteps
import Outband.Proofs.Cleanup
import Outband.Proofs.ServerSteps
/-! How far a run gets: its results are those of the steps up to the first that fails, and the log
shows what these steps did, in their order, and nothing of the steps after them. -/

namespace Outband

/-- The results of steps with these tokens, up to the first that failed. -/
inductive Followed : List String → List ActionResult → Prop
  | finished : Followed [] []
  | failed {result : ActionResult} (failure : result.isFailure) (tokens : List String) :
      Followed (result.token :: tokens) [result]
  | next {result : ActionResult} {tokens : List String} {results : List ActionResult}
      (success : result.isFailure = false) (more : Followed tokens results) :
      Followed (result.token :: tokens) (result :: results)

theorem Ran.followed {m : Manner H M ω} {seconds : Int → Prop} {ground : Ground H M}
    {steps : List (Step ω)} {segments : List (List Event)} {results : List ActionResult}
    (h : Ran m seconds ground steps segments results) :
    Followed (steps.map (·.token)) results := by
  induction h with
  | finished ground => exact .finished
  | failed failure h later =>
    rw [List.map_cons, ← h.token_eq]
    exact .failed failure _
  | next success h more ih =>
    rw [List.map_cons, ← h.token_eq]
    exact .next success ih

section Following

variable {tokens : List String} {results : List ActionResult}

theorem Followed.length_le (h : Followed tokens results) : results.length ≤ tokens.length := by
  induction h with
  | finished => exact Nat.le_refl 0
  | failed => exact Nat.succ_le_succ (Nat.zero_le _)
  | next _ _ ih => exact Nat.succ_le_succ ih

theorem Followed.tokens_eq (h : Followed tokens results) :
    results.map (·.token) = tokens.take results.length := by
  induction h with
  | finished => rfl
  | failed => rfl
  | next _ _ ih => simp [ih]

theorem Followed.earlier (h : Followed tokens results) :
    ∀ result ∈ results.dropLast, result.error? = none := by
  induction h with
  | finished => simp
  | failed => simp
  | @next result _ results success _ ih =>
    intro other hmem
    cases results with
    | nil => cases hmem
    | cons second results =>
      rcases List.mem_cons.mp hmem with rfl | hmem
      · exact Option.not_isSome_iff_eq_none.mp (by simpa [ActionResult.isFailure] using success)
      · exact ih other hmem

theorem Followed.stopped (h : Followed tokens results) (hless : results.length < tokens.length) :
    ∃ last, results.getLast? = some last ∧ last.error?.isSome := by
  induction h with
  | finished => exact absurd hless (Nat.lt_irrefl 0)
  | failed failure => exact ⟨_, rfl, failure⟩
  | @next result _ results _ more ih =>
    obtain ⟨last, hlast, herror⟩ := ih (Nat.lt_of_succ_lt_succ hless)
    exact ⟨last, by simp [List.getLast?_cons, hlast], herror⟩

theorem Followed.goes_on (h : Followed tokens results) {i : Nat} {result : ActionResult}
    (hresult : results[i]? = some result) (hnone : result.error? = none)
    (hi : i + 1 < tokens.length) : i + 1 < results.length := by
  have hlt := (List.getElem?_eq_some_iff.mp hresult).1
  by_contra hge
  have hlast : results.length = i + 1 := by omega
  obtain ⟨last, hget, herror⟩ := h.stopped (by omega)
  rw [List.getLast?_eq_getElem?, hlast, Nat.add_sub_cancel, hresult] at hget
  cases hget
  rw [hnone] at herror
  cases herror

/-- There is a result for each step that comes after none but successes. -/
theorem Followed.reached (h : Followed tokens results) {i : Nat} (hi : i < tokens.length)
    (hearlier : ∀ j < i, ∃ earlier, results[j]? = some earlier ∧ earlier.isFailure = false) :
    i < results.length := by
  cases i with
  | zero =>
    by_contra hnone
    obtain ⟨last, hlast, -⟩ := h.stopped (by omega)
    have hpos := List.length_pos_of_mem (List.mem_of_getLast? hlast)
    exact hnone hpos
  | succ j =>
    obtain ⟨earlier, hresult, hsuccess⟩ := hearlier j (Nat.lt_succ_self j)
    have hnone := Option.not_isSome_iff_eq_none.mp (Bool.eq_false_iff.mp hsuccess)
    exact h.goes_on hresult hnone hi

theorem Followed.complete_or_failed (h : Followed tokens results) :
    results.length = tokens.length ∨
      ∃ last, results.getLast? = some last ∧ last.isFailure := by
  rcases Nat.lt_or_ge results.length tokens.length with hless | hge
  · exact Or.inr (h.stopped hless)
  · exact Or.inl (Nat.le_antisymm h.length_le hge)

theorem Followed.complete (h : Followed tokens results)
    (hall : ∀ result ∈ results, result.error? = none) : results.length = tokens.length := by
  by_contra hlength
  obtain ⟨last, hlast, herror⟩ := h.stopped (Nat.lt_of_le_of_ne h.length_le hlength)
  rw [hall last (List.mem_of_getLast? hlast)] at herror
  cases herror

/-- Only the last result can be a failure, so that the run went well if that one is none. -/
theorem Followed.success_iff (h : Followed tokens results) (halt : Halt)
    (elapsed cleanups : Nat) :
    (RunReport.mk results halt elapsed cleanups).isSuccess ↔
      ∀ result ∈ results, result.error? = none := by
  have hearlier := h.earlier
  rw [RunReport.isSuccess, RunReport.error?, Option.isNone_iff_eq_none]
  rcases List.eq_nil_or_concat' results with rfl | ⟨init, last, rfl⟩
  · simp
  · simp only [List.dropLast_concat] at hearlier
    simp only [List.getLast?_concat, Option.bind_some]
    constructor
    · intro hlast result hmem
      rcases List.mem_append.mp hmem with hmem | hmem
      · exact hearlier result hmem
      · rw [List.mem_singleton.mp hmem]
        exact hlast
    · intro hall
      exact hall last (by simp)

end Following

/-- The steps behind the last one that was done might as well not be there. -/
theorem runSteps_take {world : World σ} {limit : Limit} {ex : Executor H ω} {steps : List (Step ω)}
    {results : List ActionResult} {c d : Connection σ H}
    (h : runSteps world limit ex steps c = (results, .finished, d)) :
    runSteps world limit ex (steps.take results.length) c = (results, .finished, d) := by
  induction steps generalizing c results with
  | nil => simpa using h
  | cons step rest ih =>
    rw [runSteps] at h
    generalize hcarry : (step.task ex).carry world 0 limit c = carried at h
    obtain ⟨task, c'⟩ := carried
    cases task with
    | done result =>
      cases hfails : result.isFailure with
      | true =>
        simp only [hfails, if_true] at h
        cases h
        exact runSteps_failed hcarry hfails
      | false =>
        simp only [hfails, Bool.false_eq_true, if_false] at h
        generalize hrest : runSteps world limit ex rest c' = ran at h
        obtain ⟨later, halt, d'⟩ := ran
        cases h
        rw [List.length_cons, List.take_succ_cons, runSteps, hcarry]
        simp [hfails, ih hrest]
    | _ => cases h

theorem Executor.run_take {world : World σ} {limit : Limit} {ex : Executor H ω}
    {steps : List (Step ω)} {scene : Scene σ}
    (hhalt : (ex.run world limit steps scene).1.halt = .finished) :
    ex.run world limit (steps.take (ex.run world limit steps scene).1.results.length) scene =
      ex.run world limit steps scene := by
  rcases hsteps : runSteps world limit ex steps { scene := scene } with ⟨results, halt, c⟩
  cases halt with
  | dropped =>
    rw [Executor.run, hsteps] at hhalt
    cases hhalt
  | crashed cause =>
    rw [run_eq_finish hsteps (by simp)] at hhalt
    cases (finish_of_finished hhalt).1
  | finished =>
    have hrun := run_eq_finish hsteps (by simp)
    rw [hrun] at hhalt
    obtain ⟨-, value, d, -, hfinish⟩ := finish_of_finished hhalt
    have hresults : (ex.run world limit steps scene).1.results = results := by rw [hrun, hfinish]
    rw [hresults, run_eq_finish (runSteps_take hsteps) (by simp), hrun]

namespace Plan

/-- The plan without the steps after the first so many. -/
def take (n : Nat) : Plan → Plan
  | .server address steps => .server address (steps.take n)
  | .chassis address steps => .chassis address (steps.take n)
  | .blade address locator steps => .blade address locator (steps.take n)
  | .sleep steps => .sleep (steps.take n)

theorem run_take (plan : Plan) (world : World σ) (credentials : Credentials) (limit : Limit)
    (scene : Scene σ) (hhalt : (plan.run world credentials limit scene).1.halt = .finished) :
    (plan.take (plan.run world credentials limit scene).1.results.length).run world credentials
      limit scene = plan.run world credentials limit scene := by
  cases plan <;> exact Executor.run_take hhalt

/-- What the steps of the plan do and come to, one after another, up to the first that fails. -/
def Ran (credentials : Credentials) (seconds : Int → Prop) (plan : Plan)
    (segments : List (List Event)) (results : List ActionResult) : Prop :=
  match plan with
  | .server address steps =>
    Outband.Ran (Server.manner ⟨address, credentials⟩) seconds ⟨none, ()⟩ steps segments results
  | .chassis address steps =>
    Outband.Ran (Chassis.manner ⟨address, credentials⟩) seconds ⟨none, ()⟩ steps segments results
  | .blade address locator steps =>
    Outband.Ran (Blade.manner ⟨address, credentials⟩ locator) seconds ⟨none, locator.slot?⟩ steps
      segments results
  | .sleep steps => Outband.Ran Sleep.manner seconds ⟨none, ()⟩ steps segments results

theorem Ran.followed {credentials : Credentials} {seconds : Int → Prop} {plan : Plan}
    {segments : List (List Event)} {results : List ActionResult}
    (h : plan.Ran credentials seconds segments results) : Followed plan.tokens results := by
  cases plan <;> exact Outband.Ran.followed h

theorem Ran.length_eq {credentials : Credentials} {seconds : Int → Prop} {plan : Plan}
    {segments : List (List Event)} {results : List ActionResult}
    (h : plan.Ran credentials seconds segments results) : segments.length = results.length := by
  cases plan <;> exact Outband.Ran.length_eq h

theorem run_ran (plan : Plan) (world : World σ) (credentials : Credentials) (scene : Scene σ)
    (hhalt : (plan.run world credentials none scene).1.halt = .finished) :
    let ended := plan.run world credentials none scene
    ∃ segments closing, scene.Leads world (segments.flatten ++ closing) ended.2 ∧
      About (fun call => call.isClose) closing ∧
      plan.Ran credentials (SecondIn scene.origin scene.now ended.2.now) segments
        ended.1.results := by
  cases plan with
  | server address steps => exact (Server.follows world _).run_ran trivial steps scene hhalt
  | chassis address steps => exact (Chassis.follows world _).run_ran trivial steps scene hhalt
  | blade address locator steps =>
    exact (Blade.follows world _ locator).run_ran (Blade.knows_slot? locator) steps scene hhalt
  | sleep steps => exact (Sleep.follows world).run_ran trivial steps scene hhalt

theorem run_followed (plan : Plan) (world : World σ) (credentials : Credentials) (scene : Scene σ)
    (hhalt : (plan.run world credentials none scene).1.halt = .finished) :
    Followed plan.tokens (plan.run world credentials none scene).1.results := by
  obtain ⟨segments, closing, -, -, hran⟩ := plan.run_ran world credentials scene hhalt
  exact hran.followed

/-- A run without a crash has a result for each step up to the first that fails. What happens in it
is what these steps do one after another, as if there were no steps after them, and the release of
the session, with the answers that the world gives. The last result tells whether it went well. -/
theorem run_fails_fast (plan : Plan) (world : World σ) (credentials : Credentials)
    (scene : Scene σ) :
    let (report, after) := plan.run world credentials none scene
    let results := report.results
    ∃ events, after.log = scene.log ++ events ∧ (crashesOf events = [] →
      report.halt = .finished ∧ results.length ≤ plan.tokens.length ∧
      results.map (·.token) = plan.tokens.take results.length ∧
      (∀ result ∈ results.dropLast, result.error? = none) ∧
      (results.length < plan.tokens.length →
        ∃ last, results.getLast? = some last ∧ last.error?.isSome) ∧
      (∀ (i : Nat) (result : ActionResult), results[i]? = some result → result.error? = none →
        i + 1 < plan.tokens.length → i + 1 < results.length) ∧
      (∃ (segments : List (List Event)) (closing : List Event),
        events = segments.flatten ++ closing ∧ segments.length = results.length ∧
        About (fun call => call.isClose) closing ∧
        world.Heard scene.world events after.world ∧
        plan.Ran credentials (SecondIn scene.origin scene.now after.now) segments results) ∧
      (plan.take results.length).run world credentials none scene = (report, after) ∧
      (report.isSuccess ↔ ∀ result ∈ results, result.error? = none) ∧
      (report.isSuccess → results.length = plan.tokens.length)) := by
  obtain ⟨events, hlog, hfinishes⟩ := plan.run_finishes world credentials scene
  have hran := plan.run_ran world credentials scene
  have htake := plan.run_take world credentials none scene
  generalize plan.run world credentials none scene = ran at hlog hfinishes hran htake ⊢
  obtain ⟨⟨results, halt, elapsed, cleanups⟩, after⟩ := ran
  refine ⟨events, hlog, fun hnone => ?_⟩
  have hhalt := hfinishes hnone
  obtain ⟨segments, closing, hleads, hclosing, hran⟩ := hran hhalt
  obtain rfl : events = segments.flatten ++ closing :=
    List.append_cancel_left (hlog.symm.trans hleads.log)
  have hf := hran.followed
  have hsuccess := hf.success_iff halt elapsed cleanups
  refine ⟨hhalt, hf.length_le, hf.tokens_eq, hf.earlier, hf.stopped, ?_,
    ⟨segments, closing, rfl, hran.length_eq, hclosing, hleads.heard, hran⟩, htake hhalt, hsuccess,
    fun hok => hf.complete (hsuccess.mp hok)⟩
  intro i result hresult hnone hi
  exact hf.goes_on hresult hnone hi

end Plan

end Outband
