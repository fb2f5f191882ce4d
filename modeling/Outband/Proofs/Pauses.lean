import Outband.Proofs.SideBySide
import Outband.Proofs.FailFast
/-! Sleeps are invisible to the hardware: put between the actions of a plan they change nothing but
the time, and with it the second in the name of a screenshot. -/

namespace Outband

/-- The token is a sleep that says how long. -/
def Sleeps (token : String) : Prop := isSleep token ∧ ∃ nanos, sleepDuration token = .ok nanos

/-- The same call, but for the second in the name of a screenshot. -/
inductive Call.SameButSecond : Call → Call → Prop
  | same (call : Call) : SameButSecond call call
  | store (host hardware extension : String) (payload : Bytes) (seconds seconds' : Int) :
      SameButSecond (.store (Screenshot.fileName host hardware extension seconds) payload)
        (.store (Screenshot.fileName host hardware extension seconds') payload)

/-- Rehearsed references that differ at most in the second. -/
inductive ReferToSame : String → String → Prop
  | stored (host hardware extension : String) (seconds seconds' : Int) :
      ReferToSame ("mem://" ++ Screenshot.fileName host hardware extension seconds)
        ("mem://" ++ Screenshot.fileName host hardware extension seconds')

/-- The same result, but for the second in the reference to a screenshot. -/
inductive ActionResult.SameButSecond : ActionResult → ActionResult → Prop
  | same (result : ActionResult) : SameButSecond result result
  | stored (token : String) {reference reference' : String} (h : ReferToSame reference reference') :
      SameButSecond (.succeeded token true reference) (.succeeded token true reference')

/-- Runs of the same plan whose clocks may differ. -/
def untimed : Likeness where
  endpoint := Eq
  timed := False
  reference := ReferToSame
  host_eq := by
    rintro e _ rfl
    rfl

theorem ServerSession.Like.eq {s t : ServerSession} (h : s.Like untimed t) : t = s := by
  have hendpoint : s.endpoint = t.endpoint := h.endpoint
  cases s
  cases t
  cases h.backend
  cases h.driver
  cases hendpoint
  rfl

theorem ChassisSession.Like.eq {s t : ChassisSession} (h : s.Like untimed t) : t = s := by
  have hendpoint : s.endpoint = t.endpoint := h.endpoint
  cases s
  cases t
  cases hendpoint
  rfl

theorem Call.Like.sameButSecond {call call' : Call} {R : call.Answer → call'.Answer → Prop}
    (h : call.Like untimed call' R) : call.SameButSecond call' := by
  cases h with
  | store host hardware extension payload h => exact .store host hardware extension payload _ _
  | connectHost h | connectFallback h | connectChassis h =>
    cases h
    exact .same _
  | server h | capture h | closeServer h | chassis h | blade h | findBlade h | closeChassis h =>
    rw [h.eq]
    exact .same _

theorem ActionResult.Like.sameButSecond {r r' : ActionResult} (h : r.Like untimed r') :
    r.SameButSecond r' := by
  cases h with
  | same => exact .same _
  | stored token hreference => exact .stored token hreference

namespace Script

/-- Nothing in the script crashes. -/
def IsCalm (s : Script) : Prop := ∀ entry ∈ s.cues, Cue.crash ∉ entry.2

theorem calm_setCues {cues : List (String × List Cue)} (h : ∀ entry ∈ cues, Cue.crash ∉ entry.2)
    (key : String) {rest : List Cue} (hrest : Cue.crash ∉ rest) :
    ∀ entry ∈ setCues key rest cues, Cue.crash ∉ entry.2 := by
  induction cues with
  | nil => exact h
  | cons entry more ih =>
    obtain ⟨k, found⟩ := entry
    obtain ⟨hfirst, hmore⟩ := List.forall_mem_cons.mp h
    rw [setCues]
    by_cases hk : k = key
    · rw [if_pos hk]
      exact List.forall_mem_cons.mpr ⟨hrest, hmore⟩
    · rw [if_neg hk]
      exact List.forall_mem_cons.mpr ⟨hfirst, ih hmore⟩

theorem calm_lookup {cues : List (String × List Cue)} (h : ∀ entry ∈ cues, Cue.crash ∉ entry.2)
    {key : String} {found : List Cue} (hfound : cues.lookup key = some found) :
    Cue.crash ∉ found := by
  obtain ⟨before, after, rfl, -⟩ := List.lookup_eq_some_iff.mp hfound
  exact h (key, found) (by simp)

variable {s : Script}

theorem IsCalm.take (h : s.IsCalm) (key : String) :
    (s.take key).1 ≠ .crash ∧ (s.take key).2.IsCalm := by
  unfold Script.take
  split
  · exact ⟨by simp, h⟩
  · exact ⟨by simp, h⟩
  · rename_i cue hfound
    have hcue := calm_lookup h hfound
    refine ⟨?_, h⟩
    rintro rfl
    exact hcue List.mem_cons_self
  · rename_i cue rest _ hfound
    have hcues := calm_lookup h hfound
    refine ⟨?_, calm_setCues h key fun hmem => hcues (List.mem_cons_of_mem cue hmem)⟩
    rintro rfl
    exact hcues List.mem_cons_self

/-- A calm script answers every call, and stays calm. -/
theorem IsCalm.returns (h : s.IsCalm) (call : Call) :
    (world call s).1.outcome =
        .returns ((s.take call.key).2.answer (s.take call.key).1 call) ∧
      (world call s).2.IsCalm := by
  obtain ⟨hcue, hcalm⟩ := h.take call.key
  refine ⟨?_, hcalm⟩
  unfold world
  dsimp only
  generalize s.take call.key = taken at hcue ⊢
  obtain ⟨cue, rest⟩ := taken
  cases cue with
  | crash => exact absurd rfl hcue
  | _ => rfl

theorem respects : World.Respects untimed (fun s t => t = s ∧ s.IsCalm) world := by
  rintro call call' R _ s ⟨rfl, hcalm⟩ hcall
  obtain ⟨houtcome, hafter⟩ := hcalm.returns call
  cases hcall with
  | store host hardware extension payload hseconds =>
    refine ⟨⟨rfl, hafter⟩, False.elim, _, _, houtcome, (hcalm.returns _).1, ?_⟩
    -- Both stores have the one key, and so the same cue.
    show Matching ReferToSame
      ((s.take "store").2.answer (s.take "store").1 (.store _ payload))
      ((s.take "store").2.answer (s.take "store").1 (.store _ payload))
    cases (s.take "store").1 with
    | storeError cause => exact .error cause
    | _ => exact .ok (.stored host hardware extension _ _)
  | connectHost h | connectFallback h | connectChassis h =>
    cases h
    exact ⟨⟨rfl, hafter⟩, False.elim, _, _, houtcome, houtcome, rfl⟩
  | server h | capture h | closeServer h | chassis h | blade h | findBlade h | closeChassis h =>
    obtain rfl := h.eq
    exact ⟨⟨rfl, hafter⟩, False.elim, _, _, houtcome, houtcome, rfl⟩

end Script

namespace Step

variable {kind : Kind} {supported : Action → Option ω} {token : String}

/-- Every kind of target takes sleeps. -/
theorem ofToken_of_sleeps (kind : Kind) (supported : Action → Option ω) (h : Sleeps token) :
    ∃ step, ofToken kind supported token = .ok step ∧ step.Pauses Sleeps := by
  obtain ⟨hsleep, nanos, hnanos⟩ := h
  have hno : ∀ action : Action, action.token ≠ token := by
    rintro action rfl
    rw [action.isSleep_token] at hsleep
    cases hsleep
  refine ⟨⟨token, .sleep nanos⟩, ?_, rfl, hsleep, nanos, hnanos⟩
  unfold ofToken classify
  rw [Action.ofToken?_eq_none_iff.mpr hno]
  simp only [hsleep, if_true, hnanos]

theorem ofTokens_padded {tokens extended : List String} (hpad : Padded Sleeps Eq tokens extended)
    {steps : List (Step ω)} (h : ofTokens kind supported tokens = .ok steps) :
    ∃ steps', ofTokens kind supported extended = .ok steps' ∧
      Padded (Pauses Sleeps) Eq steps steps' := by
  induction hpad generalizing steps with
  | nil => exact ⟨steps, h, .refl steps⟩
  | keep hsame _ ih =>
    obtain rfl := hsame
    obtain ⟨step, more, hstep, hmore, rfl⟩ := ofTokens_cons_eq_ok.mp h
    obtain ⟨more', hmore', hpad⟩ := ih hmore
    exact ⟨step :: more', ofTokens_cons_eq_ok.mpr ⟨step, more', hstep, hmore', rfl⟩,
      .keep rfl hpad⟩
  | insert hsleeps _ ih =>
    obtain ⟨step, hstep, hpauses⟩ := ofToken_of_sleeps kind supported hsleeps
    obtain ⟨more, hmore, hpad⟩ := ih h
    exact ⟨step :: more, ofTokens_cons_eq_ok.mpr ⟨step, more, hstep, hmore, rfl⟩,
      .insert hpauses hpad⟩

/-- Plans that are made of their steps are padded as these are. -/
theorem plan_padded {make : List (Step ω) → Plan} {tokens extended : List String} {plan : Plan}
    (hmake : ∀ {steps steps'}, Padded (Pauses Sleeps) Eq steps steps' →
      (make steps).Padded Sleeps (make steps'))
    (hpad : Padded Sleeps Eq tokens extended)
    (h : make <$> ofTokens kind supported tokens = .ok plan) :
    ∃ plan', make <$> ofTokens kind supported extended = .ok plan' ∧ plan.Padded Sleeps plan' := by
  cases hsteps : ofTokens kind supported tokens with
  | error e =>
    rw [hsteps] at h
    cases h
  | ok steps =>
    rw [hsteps] at h
    cases h
    obtain ⟨steps', hsteps', hpadded⟩ := ofTokens_padded hpad hsteps
    rw [hsteps']
    exact ⟨make steps', rfl, hmake hpadded⟩

end Step

namespace Plan

variable {kind : Kind} {params : Params} {tokens extended : List String} {plan : Plan}

theorem compile_padded (hpad : Outband.Padded Sleeps Eq tokens extended)
    (h : compile kind params tokens = .ok plan) :
    ∃ plan', compile kind params extended = .ok plan' ∧ plan.Padded Sleeps plan' := by
  cases htarget : Target.ofParams kind params with
  | error e =>
    rw [compile_of_error htarget] at h
    cases h
  | ok target =>
    simp only [compile, htarget] at h ⊢
    cases target with
    | none => exact Step.plan_padded .sleep hpad h
    | some target =>
      cases target with
      | host address => exact Step.plan_padded (.server address) hpad h
      | chassis address => exact Step.plan_padded (.chassis address) hpad h
      | bladeByPosition address slot => exact Step.plan_padded (.blade address _) hpad h
      | bladeBySerial address serial => exact Step.plan_padded (.blade address _) hpad h

/-- What is left of a sequence without its sleeps is padded by them, if each says how long. -/
theorem padded_without_sleeps (hall : ∀ token ∈ tokens, Resolves kind token) :
    Outband.Padded Sleeps Eq (tokens.filter (!isSleep ·)) tokens := by
  induction tokens with
  | nil => exact .nil
  | cons token rest ih =>
    obtain ⟨hfirst, hrest⟩ := List.forall_mem_cons.mp hall
    rw [List.filter_cons]
    rcases hfirst with ⟨action, -, rfl⟩ | hsleeps
    · rw [action.isSleep_token]
      exact .keep rfl (ih hrest)
    · rw [hsleeps.1]
      exact .insert hsleeps (ih hrest)

theorem Padded.ends {plan' : Plan} (h : plan.Padded Sleeps plan') (credentials : Credentials)
    {s : Scene Script} (hcalm : s.world.IsCalm) :
    EndsLike untimed (fun s t => t = s ∧ s.IsCalm) s.calls Sleeps
      (plan.run Script.world credentials none s) (plan'.run Script.world credentials none s) :=
  h.run Script.respects (fun _ _ => id) (fun _ => rfl) (.refl ⟨rfl, hcalm⟩)

section Finished

variable {world : World σ} {credentials : Credentials} {s : Scene σ}
  (hhalt : (plan.run world credentials none s).1.halt = .finished)

include hhalt

theorem isSuccess_iff :
    (plan.run world credentials none s).1.isSuccess ↔
      ∀ result ∈ (plan.run world credentials none s).1.results, result.error? = none := by
  have hfollowed := plan.run_followed world credentials s hhalt
  exact hfollowed.success_iff _ _ _

theorem token_mem_of_result {result : ActionResult}
    (h : result ∈ (plan.run world credentials none s).1.results) : result.token ∈ plan.tokens := by
  have hfollowed := plan.run_followed world credentials s hhalt
  have hmem : result.token ∈
      (plan.run world credentials none s).1.results.map (·.token) := List.mem_map_of_mem h
  rw [hfollowed.tokens_eq] at hmem
  exact List.mem_of_mem_take hmem

end Finished

/-- Each sleep that is done goes well: no other action brings forth a result that reads like one. -/
theorem result_of_sleep (h : compile kind params tokens = .ok plan) (credentials : Credentials)
    {s : Scene Script} (hcalm : s.world.IsCalm) :
    ∀ result ∈ (plan.run Script.world credentials none s).1.results, isSleep result.token →
      result = ⟨result.token, true, "ok", none⟩ := by
  obtain ⟨⟨target, htarget⟩, hall, -⟩ := compile_eq_ok h
  have hawake : ∀ token ∈ tokens.filter (!isSleep ·), Resolves kind token :=
    fun token hmem => hall token (List.mem_filter.mp hmem).1
  obtain ⟨core, hcore⟩ := exists_compile htarget hawake
  obtain ⟨plan', hplan', hpadded⟩ := compile_padded (padded_without_sleeps hall) hcore
  obtain rfl : plan = plan' := Except.ok.inj (h.symm.trans hplan')
  have hends := hpadded.ends credentials hcalm
  intro result hmem hsleep
  rcases hends.results.mem result hmem with ⟨token, -, rfl⟩ | ⟨earlier, hearlier, hlike⟩
  · rfl
  · have htoken := token_mem_of_result hends.halt.1 hearlier
    rw [(compile_eq_ok hcore).2.2.1] at htoken
    have hawake := (List.mem_filter.mp htoken).2
    rw [← hlike.token_eq, hsleep] at hawake
    cases hawake

/-- Sleeps that are put anywhere into a sequence show neither in the calls of its run nor in its
outcome: whatever a script without crashes answers, the same calls are made in the same order, the
same actions are done with the same results, and each sleep among them goes well. -/
theorem sleeps_invisible {kind : Kind} {params : Params} {tokens extended : List String}
    {plan : Plan} (hplan : compile kind params tokens = .ok plan)
    (hextended : Outband.Padded Sleeps Eq tokens extended) (credentials : Credentials)
    {s : Scene Script} (hcalm : s.world.IsCalm) :
    ∃ plan', compile kind params extended = .ok plan' ∧
      let ended := plan.run Script.world credentials none s
      let ended' := plan'.run Script.world credentials none s
      ended.1.halt = .finished ∧ ended'.1.halt = .finished ∧
      (∃ calls calls', ended.2.calls = s.calls ++ calls ∧ ended'.2.calls = s.calls ++ calls' ∧
        List.Forall₂ Call.SameButSecond calls calls') ∧
      ended'.1.isSuccess = ended.1.isSuccess ∧
      List.Forall₂ ActionResult.SameButSecond
        (ended.1.results.filter fun result => !isSleep result.token)
        (ended'.1.results.filter fun result => !isSleep result.token) ∧
      ∀ result ∈ ended.1.results ++ ended'.1.results, isSleep result.token →
        result = ⟨result.token, true, "ok", none⟩ := by
  obtain ⟨plan', hplan', hpadded⟩ := compile_padded hextended hplan
  have hends := hpadded.ends credentials hcalm
  refine ⟨plan', hplan', hends.halt.1, hends.halt.2, ?_, ?_, ?_, ?_⟩
  · obtain ⟨calls, calls', hs, ht, hcalls⟩ := hends.scene.calls
    refine ⟨calls, calls', hs, ht, hcalls.imp ?_⟩
    rintro call call' ⟨R, hcall⟩
    exact hcall.sameButSecond
  · rw [Bool.eq_iff_iff, isSuccess_iff hends.halt.1, isSuccess_iff hends.halt.2]
    constructor
    · intro hall result hmem
      obtain ⟨result', hmem', hlike⟩ := hends.results.exists_of_mem result hmem
      exact hlike.error_eq.symm.trans (hall result' hmem')
    · intro hall result' hmem'
      rcases hends.results.mem result' hmem' with ⟨token, -, rfl⟩ | ⟨result, hmem, hlike⟩
      · rfl
      · exact hlike.error_eq.trans (hall result hmem)
  · have hresults := hends.results.filter (p := fun result => !isSleep result.token)
      (q := fun result => !isSleep result.token) ?_ ?_
    · exact hresults.imp fun _ _ hlike => hlike.sameButSecond
    · intro result result' hlike
      rw [hlike.token_eq]
    · rintro _ ⟨token, hsleeps, rfl⟩
      simp [ActionResult.succeeded, hsleeps.1]
  · intro result hmem
    rcases List.mem_append.mp hmem with hmem | hmem
    · exact result_of_sleep hplan credentials hcalm result hmem
    · exact result_of_sleep hplan' credentials hcalm result hmem

/-- A screenshot between two sleeps is taken as it is without them. -/
theorem sleeps_invisible_screenshot :
    let params : Params := [("host", .text "10.0.0.1")]
    let tokens := ["screenshot"]
    let extended := ["sleep 1s", "screenshot", "sleep 2.5s"]
    let plan := Plan.server "10.0.0.1" [⟨"screenshot", .operate .screenshot⟩]
    let credentials : Credentials := ⟨"admin", "secret"⟩
    let s : Scene Script := { world := { cues := [("native.screenshot", [.image ⟨[1], "png"⟩])] } }
    let ended := plan.run Script.world credentials none s
    compile .host params tokens = .ok plan ∧ Outband.Padded Sleeps Eq tokens extended ∧
      s.world.IsCalm ∧ ended.2.calls.length = 4 ∧
      ∃ plan', compile .host params extended = .ok plan' ∧
        let ended' := plan'.run Script.world credentials none s
        ended'.2.calls.length = 4 ∧ ended'.1.isSuccess = ended.1.isSuccess ∧
        ∀ result ∈ ended'.1.results, isSleep result.token →
          result = ⟨result.token, true, "ok", none⟩ := by
  intro params tokens extended plan credentials s ended
  have hplan : compile .host params tokens = .ok plan := by rfl
  have hfirst : Sleeps "sleep 1s" := ⟨by decide, 1000000000, by decide +kernel⟩
  have hsecond : Sleeps "sleep 2.5s" := ⟨by decide, 2500000000, by decide +kernel⟩
  have hextended : Outband.Padded Sleeps Eq tokens extended :=
    .insert hfirst (.keep rfl (.insert hsecond .nil))
  have hcalm : s.world.IsCalm := by
    intro entry hmem
    obtain rfl := List.mem_singleton.mp hmem
    simp
  have hlength : ended.2.calls.length = 4 := by decide +kernel
  obtain ⟨plan', hplan', -, -, ⟨calls, calls', hcalls, hcalls', hsame⟩, hsuccess, -, hsleeps⟩ :=
    sleeps_invisible hplan hextended credentials hcalm
  have hlength' : (plan'.run Script.world credentials none s).2.calls.length = 4 := by
    rw [hcalls', List.length_append, ← hsame.length_eq, ← List.length_append, ← hcalls]
    exact hlength
  refine ⟨hplan, hextended, hcalm, hlength, plan', hplan', hlength', hsuccess, ?_⟩
  intro result hmem
  exact hsleeps result (List.mem_append_right _ hmem)

end Plan

end Outband
