import Outband.Http.Response
import Outband.Proofs.Requests
import Outband.Proofs.ToolRuns
/-! The error text of an action in a response. It is empty for an action that went well, and for one
that failed without a word. -/

namespace Outband

open Ipmi (Trial Conducts Tried)

/-- Every message but that of an operation has words of its own. -/
theorem DriverError.message_eq_empty_iff {cause : DriverError} :
    cause.message = "" ↔ cause = .operation "" := by
  unfold message
  cases cause <;> simp

theorem Error.message_eq_empty_iff {e : Error} :
    e.message = "" ↔ e = .driver (.operation "") := by
  unfold message
  cases e <;> simp [DriverError.message_eq_empty_iff]

/-- The driver failed without a word. -/
def ActionResult.IsMute (r : ActionResult) : Prop := r.error? = some (.driver (.operation ""))

namespace ActionResult

variable (r : ActionResult)

/-- The results that a command prints tell an action that failed by a member of its own. -/
theorem toJson_error_iff : (r.toJson.member? "error").isSome ↔ r.isFailure := by
  cases herror : r.error? <;> simp [toJson, isFailure, herror, Json.member?]

theorem entry_error : (Http.entry r).member? "error" =
    some (.text ((r.error?.map (·.message)).getD "")) :=
  rfl

theorem entry_error_iff :
    (Http.entry r).member? "error" = some (.text "") ↔ r.isFailure = false ∨ r.IsMute := by
  rw [entry_error, IsMute]
  cases herror : r.error? <;> simp [isFailure, herror, Error.message_eq_empty_iff]

end ActionResult

namespace Ipmi

theorem mem_of_occurs {phrase chars : List Char} (h : occurs phrase chars) :
    ∀ c ∈ phrase, c ∈ chars := by
  induction chars with
  | nil =>
    rw [occurs, List.isEmpty_iff] at h
    simp [h]
  | cons first rest ih =>
    rw [occurs, Bool.or_eq_true, List.isPrefixOf_iff_prefix] at h
    intro c hc
    rcases h with hprefix | hoccurs
    · exact hprefix.subset hc
    · exact List.mem_cons_of_mem first (ih hoccurs c hc)

/-- A blank output holds no phrase. -/
theorem mentions_of_blank {output : String} (h : Text.isBlankText output) {c : Command}
    {phrase : String} (hphrase : phrase ∈ c.phrases) : mentions output phrase = false := by
  have hvisible : c.phrases.all fun phrase => !Text.isBlankText phrase := by
    cases c <;> decide +kernel
  by_contra hmentions
  have hletters := mem_of_occurs (by simpa [mentions] using hmentions)
  have hblank : Text.isBlankText phrase :=
    List.all_eq_true.mpr fun letter hmem => List.all_eq_true.mp h letter (hletters letter hmem)
  have hseen := List.all_eq_true.mp hvisible phrase hphrase
  rw [hblank] at hseen
  cases hseen

/-- The tool ended well, and what it printed is blank. -/
def Trial.IsSilent (t : Trial) : Prop :=
  ∃ execution, t.outcome = .ok execution ∧ execution.ending = .exited 0 ∧
    Text.isBlankText execution.output

theorem Trial.finding_mute_iff {t : Trial} :
    t.finding = .error (.operation "") ↔ t.IsSilent := by
  cases houtcome : t.outcome with
  | error reason =>
    rw [finding_of_unstarted houtcome, IsSilent]
    simp [houtcome]
  | ok execution =>
    rw [IsSilent, houtcome]
    by_cases well : execution.ending = .exited 0
    · rcases finding_of_wordless houtcome well with
        ⟨-, hfinding⟩ | ⟨⟨phrase, hmem, hword⟩, state, hstate⟩
      · rw [hfinding, unexpected]
        simp [well, Text.isBlankText_iff]
      · rw [hstate]
        refine iff_of_false (by simp) ?_
        rintro ⟨other, hother, -, hblank⟩
        cases hother
        rw [mentions_of_blank hblank hmem] at hword
        cases hword
    · rw [finding_of_badly_ended houtcome well]
      simp [well]

/-- An operation fails without a word just when the last of its commands had none. -/
theorem Conducts.mute_iff {op : ServerOp} {trials : List Trial} {answer : Except DriverError Bool}
    (h : Conducts op trials answer) :
    answer = .error (.operation "") ↔ ∃ last, trials.getLast? = some last ∧ last.IsSilent := by
  have hlast : ∀ t : Trial, t.finding = .error (.operation "") ↔
      ∃ last, some t = some last ∧ last.IsSilent := by
    intro t
    simp [Trial.finding_mute_iff]
  cases h with
  | @single t h => exact hlast t
  | @broken t c cause h failed => exact failed ▸ hlast t
  | @refused t c needed h needs told =>
    have hspeaks := told ▸ hlast t
    refine iff_of_false ?_ fun hsilent => ?_
    · cases needed <;> simp [refusal]
    · cases hspeaks.mpr hsilent
  | @pair t u state h told needs => exact hlast u

end Ipmi

theorem Handled.mute_iff {missing : Prop} {step : Step ServerWork} {trials : List Trial}
    {result : ActionResult} (h : Handled missing step trials result) :
    result.IsMute ↔ ∃ last, trials.getLast? = some last ∧ last.IsSilent := by
  cases h with
  | slept token nanos => simp [ActionResult.IsMute, ActionResult.succeeded]
  | imageless token what => simp [ActionResult.IsMute, ActionResult.failed]
  | unserved token work what _ => simp [ActionResult.IsMute, ActionResult.failed]
  | @operated token op trials answer h =>
    rw [← h.mute_iff, ActionResult.IsMute]
    cases answer <;> simp [ActionResult.ofStatus, ActionResult.succeeded, ActionResult.failed]

namespace Plan

/-- The error text of a response is empty for the actions that went well, and for those that failed
without a word of the driver's. The IPMI tool leaves an action without a word when it ends well and
what it printed is blank. -/
theorem run_error_text_iff (plan : Plan) (world : World σ) (credentials : Credentials)
    (limit : Limit) (s : Scene σ) :
    (∀ result ∈ (plan.run world credentials limit s).1.results,
      ((result.toJson.member? "error").isSome ↔ result.isFailure) ∧
      ((Http.entry result).member? "error" = some (.text "") ↔
        result.isFailure = false ∨ result.IsMute)) ∧
    ∀ {τ : Type} (config : Config) (searchPath : List String) (tool : Ipmi.Tool τ)
      (engine : Engine (Ipmi.Machine τ)) (params : Params) (tokens : List String) (plan : Plan)
      (s : Scene (Ipmi.Machine τ)),
      config.engine searchPath tool = .ok engine → compile .host params tokens = .ok plan →
      let ran := engine.run plan s
      ∃ (address : String) (segments : List (List Trial)),
        segments.length = ran.1.results.length ∧
        Tried (config.ipmiSettings searchPath) tool ⟨address, config.credentials⟩ s.world
          segments.flatten ran.2.world ∧
        ∀ (i : Nat) (trials : List Trial) (result : ActionResult),
          segments[i]? = some trials → ran.1.results[i]? = some result →
            (result.IsMute ↔ ∃ last, trials.getLast? = some last ∧ last.IsSilent) := by
  refine ⟨fun result _ => ⟨result.toJson_error_iff, result.entry_error_iff⟩, ?_⟩
  intro τ config searchPath tool engine params tokens plan s hengine hplan
  obtain ⟨address, steps, -, -, segments, hdriven, htried⟩ := run_on_engine hengine hplan s
  refine ⟨address, segments, hdriven.length_eq.1, htried, ?_⟩
  intro i trials result htrials hresult
  obtain ⟨hi, -⟩ := List.getElem?_eq_some_iff.mp hresult
  have hstep := List.getElem?_eq_getElem (hi.trans_le hdriven.length_eq.2)
  exact (hdriven.handled hstep htrials hresult).mute_iff

/-- Neither a driver whose error has no text nor a tool that prints nothing leaves an error text in
the response, though the action failed. -/
theorem run_fails_without_error_text :
    let credentials : Credentials := ⟨"admin", "secret"⟩
    let plan := Plan.server "10.0.0.1" [⟨"ison", .operate (.operate .isOn)⟩]
    let scripted : Scene Script :=
      { world := { cues := [("native.is_on", [.driverError (.operation "")])] } }
    let settings : Ipmi.Settings := { binary := some "/bin/ipmitool", interface := "lanplus" }
    let silent : Ipmi.Tool Unit := fun _ state => (.ok ⟨.exited 0, [], []⟩, state)
    let files : Files :=
      { entries := [(["bin"], .directory), (["bin", "ipmitool"], .file [] true)] }
    let machine : Scene (Ipmi.Machine Unit) := { world := ⟨files, (), []⟩ }
    let failed := ActionResult.failed "ison" (.driver (.operation ""))
    (plan.run Script.world credentials none scripted).1.results = [failed] ∧
      (plan.run (Ipmi.world settings ⟨"shots", "/screenshot"⟩ silent) credentials none
        machine).1.results = [failed] ∧
      failed.isFailure ∧ (failed.toJson.member? "error").isSome ∧
      (Http.entry failed).member? "error" = some (.text "") := by
  exact ⟨by decide +kernel, by decide +kernel, rfl, rfl, rfl⟩

end Plan

end Outband
