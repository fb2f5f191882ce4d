import Outband.CommandLine.Run
import Mathlib.Data.List.Basic
/-! Which token sequences compile for a kind of target, and which fault is reported for the others.
Compiling has no world to call: what does not compile leaves everything as it was. -/

namespace Outband

/-- The actions that targets of a kind perform. -/
def Kind.vocabulary : Kind → List Action
  | .host =>
    [.isOn, .powerOn, .powerOff, .powerCycle, .powerCycleBmc, .pxeOnce, .pxeOnceMbr, .pxeOnceEfi,
      .screenshot]
  | .chassis => [.isOn, .powerOn, .powerCycle]
  | .bladeByPosition | .bladeBySerial =>
    [.isOn, .powerOn, .powerOff, .powerCycle, .powerCycleBmc, .pxeOnce, .reseat]
  | .sleep => []

/-- The token is an action of the kind, or a sleep that says how long. -/
def Resolves (kind : Kind) (token : String) : Prop :=
  (∃ action ∈ kind.vocabulary, action.token = token) ∨
    isSleep token ∧ ∃ nanos, sleepDuration token = .ok nanos

/-- Why a token does not resolve, with the error that says so. -/
inductive Refused (kind : Kind) : String → Error → Prop
  | unknown {token : String} (action : ∀ action : Action, action.token ≠ token)
      (sleep : isSleep token = false) : Refused kind token (.unknownAction token)
  | unsupported {token : String} (action : Action) (reads : action.token = token)
      (h : action ∉ kind.vocabulary) : Refused kind token (.unsupportedAction token kind)
  | malformed {token : String} {cause : DurationError} (sleep : isSleep token)
      (duration : sleepDuration token = .error cause) :
      Refused kind token (.invalidAction token cause)

namespace Action

theorem ofToken?_token (action : Action) : ofToken? action.token = some action := by
  cases action <;> rfl

theorem ofToken?_eq_some_iff {token : String} {action : Action} :
    ofToken? token = some action ↔ action.token = token := by
  constructor
  · intro h
    simpa using List.find?_some h
  · rintro rfl
    exact ofToken?_token action

theorem ofToken?_eq_none_iff {token : String} :
    ofToken? token = none ↔ ∀ action : Action, action.token ≠ token := by
  constructor
  · intro h action htoken
    rw [ofToken?_eq_some_iff.mpr htoken] at h
    cases h
  · intro h
    cases haction : ofToken? token with
    | none => rfl
    | some action => exact absurd (ofToken?_eq_some_iff.mp haction) (h action)

/-- No action reads like a sleep. -/
theorem isSleep_token (action : Action) : isSleep action.token = false := by
  cases action <;> decide +kernel

end Action

theorem Refused.isCompileError {kind : Kind} {token : String} {e : Error}
    (h : Refused kind token e) : e.isCompileError := by
  cases h <;> rfl

/-- The operations of a family are those for the actions of the kind. -/
def Supports (kind : Kind) (supported : Action → Option ω) : Prop :=
  ∀ action, (supported action).isSome ↔ action ∈ kind.vocabulary

theorem Action.token_injective {a b : Action} (h : a.token = b.token) : a = b := by
  have hb := Action.ofToken?_token b
  rw [← h, Action.ofToken?_token] at hb
  exact Option.some.inj hb

/-- What resolves is not refused. -/
theorem Refused.not_resolves {kind : Kind} {token : String} {e : Error}
    (h : Refused kind token e) : ¬Resolves kind token := by
  rintro (⟨action, hmem, rfl⟩ | ⟨hsleep, nanos, hnanos⟩)
  · cases h with
    | unknown hno _ => exact hno action rfl
    | unsupported other hreads hother =>
      rw [Action.token_injective hreads] at hother
      exact hother hmem
    | malformed hsleep _ =>
      rw [action.isSleep_token] at hsleep
      cases hsleep
  · cases h with
    | unknown _ hawake =>
      rw [hsleep] at hawake
      cases hawake
    | unsupported other hreads _ =>
      rw [← hreads, other.isSleep_token] at hsleep
      cases hsleep
    | malformed _ hcause =>
      rw [hnanos] at hcause
      cases hcause

namespace Step

variable {kind : Kind} {supported : Action → Option ω} {token : String} {tokens : List String}

/-- A token has a step that carries it, or else it is refused. -/
theorem ofToken_cases (hs : Supports kind supported) (token : String) :
    (∃ step, ofToken kind supported token = .ok step ∧ step.token = token ∧ Resolves kind token) ∨
      ∃ e, ofToken kind supported token = .error e ∧ Refused kind token e := by
  unfold ofToken classify
  cases haction : Action.ofToken? token with
  | some action =>
    obtain rfl := Action.ofToken?_eq_some_iff.mp haction
    have hmem := hs action
    dsimp only
    cases hop : supported action with
    | some op => exact Or.inl ⟨_, rfl, rfl, Or.inl ⟨action, hmem.mp (by simp [hop]), rfl⟩⟩
    | none => exact Or.inr ⟨_, rfl, .unsupported action rfl fun h => by simp [hop, h] at hmem⟩
  | none =>
    cases hsleep : isSleep token with
    | true =>
      simp only [if_true]
      cases hduration : sleepDuration token with
      | ok nanos => exact Or.inl ⟨_, rfl, rfl, Or.inr ⟨hsleep, nanos, hduration⟩⟩
      | error cause => exact Or.inr ⟨_, rfl, .malformed hsleep hduration⟩
    | false => exact Or.inr ⟨_, rfl, .unknown (Action.ofToken?_eq_none_iff.mp haction) hsleep⟩

theorem ofToken_of_refused (hs : Supports kind supported) {e : Error} (h : Refused kind token e) :
    ofToken kind supported token = .error e := by
  unfold ofToken classify
  cases h with
  | unknown action sleep =>
    rw [Action.ofToken?_eq_none_iff.mpr action]
    simp only [sleep, Bool.false_eq_true, if_false]
  | unsupported action hreads hmem =>
    rw [Action.ofToken?_eq_some_iff.mpr hreads]
    dsimp only
    cases hop : supported action with
    | some op => exact absurd ((hs action).mp (by simp [hop])) hmem
    | none => rfl
  | malformed sleep duration =>
    have hno : ∀ action : Action, action.token ≠ token := by
      rintro action rfl
      rw [action.isSleep_token] at sleep
      cases sleep
    rw [Action.ofToken?_eq_none_iff.mpr hno]
    simp only [sleep, if_true, duration]

/-- What resolves is not refused. -/
theorem exists_ofToken_of_resolves (hs : Supports kind supported) (h : Resolves kind token) :
    ∃ step, ofToken kind supported token = .ok step := by
  rcases ofToken_cases hs token with ⟨step, hstep, -⟩ | ⟨e, -, hrefused⟩
  · exact ⟨step, hstep⟩
  · exact absurd h hrefused.not_resolves

/-- The tokens have steps that carry them, or one is refused after others that resolve. -/
theorem ofTokens_cases (hs : Supports kind supported) (tokens : List String) :
    (∃ steps, ofTokens kind supported tokens = .ok steps ∧ steps.map (·.token) = tokens ∧
      ∀ token ∈ tokens, Resolves kind token) ∨
    ∃ e before token after, ofTokens kind supported tokens = .error e ∧
      tokens = before ++ token :: after ∧ (∀ earlier ∈ before, Resolves kind earlier) ∧
      Refused kind token e := by
  induction tokens with
  | nil => exact Or.inl ⟨[], rfl, rfl, by simp⟩
  | cons token rest ih =>
    rcases ofToken_cases hs token with ⟨step, hstep, htoken, hresolves⟩ | ⟨e, he, hrefused⟩
    · rcases ih with ⟨steps, hsteps, htokens, hall⟩ |
        ⟨e, before, other, after, he, rfl, hbefore, hrefused⟩
      · refine Or.inl ⟨step :: steps, ?_, by simp [htoken, htokens], ?_⟩
        · simp only [ofTokens, hstep, hsteps]
          rfl
        · exact List.forall_mem_cons.mpr ⟨hresolves, hall⟩
      · refine Or.inr ⟨e, token :: before, other, after, ?_, rfl, ?_, hrefused⟩
        · simp only [ofTokens, hstep, he]
          rfl
        · exact List.forall_mem_cons.mpr ⟨hresolves, hbefore⟩
    · refine Or.inr ⟨e, [], token, rest, ?_, rfl, by simp, hrefused⟩
      simp only [ofTokens, he]
      rfl

/-- A sequence has steps when its first token and the rest of it have. -/
theorem ofTokens_cons_eq_ok {steps : List (Step ω)} :
    ofTokens kind supported (token :: tokens) = .ok steps ↔
      ∃ step more, ofToken kind supported token = .ok step ∧
        ofTokens kind supported tokens = .ok more ∧ steps = step :: more := by
  rw [ofTokens]
  constructor
  · intro h
    cases hstep : ofToken kind supported token with
    | error e =>
      rw [hstep] at h
      cases h
    | ok step =>
      rw [hstep] at h
      cases hmore : ofTokens kind supported tokens with
      | error e =>
        rw [hmore] at h
        cases h
      | ok more =>
        rw [hmore] at h
        cases h
        exact ⟨step, more, rfl, rfl, rfl⟩
  · rintro ⟨step, more, hstep, hmore, rfl⟩
    rw [hstep, hmore]
    rfl

/-- What follows a refused token makes no difference. -/
theorem ofTokens_of_refused (hs : Supports kind supported) {before after : List String} {e : Error}
    (hbefore : ∀ earlier ∈ before, Resolves kind earlier) (h : Refused kind token e) :
    ofTokens kind supported (before ++ token :: after) = .error e := by
  induction before with
  | nil =>
    simp only [List.nil_append, ofTokens, ofToken_of_refused hs h]
    rfl
  | cons first rest ih =>
    obtain ⟨hfirst, hrest⟩ := List.forall_mem_cons.mp hbefore
    obtain ⟨step, hstep⟩ := exists_ofToken_of_resolves hs hfirst
    simp only [List.cons_append, ofTokens, hstep, ih hrest]
    rfl

end Step

theorem supports_serverWork : Supports .host Action.serverWork? := by
  intro action
  cases action <;> decide

theorem supports_chassisOp : Supports .chassis Action.chassisOp? := by
  intro action
  cases action <;> decide

theorem supports_bladeOp {kind : Kind} (h : kind = .bladeByPosition ∨ kind = .bladeBySerial) :
    Supports kind Action.bladeOp? := by
  intro action
  rcases h with rfl | rfl <;> cases action <;> decide

theorem supports_sleep : Supports .sleep fun _ => (none : Option Empty) := by
  intro action
  simp [Kind.vocabulary]

/-- Whatever fails here fails with a compile error. -/
def Refusing (result : Except Error α) : Prop := ∀ e, result = .error e → e.isCompileError

theorem Refusing.ok (value : α) : Refusing (.ok value) := by
  intro e h
  cases h

theorem Refusing.error {e : Error} (h : e.isCompileError) :
    Refusing (.error e : Except Error α) := by
  intro other heq
  cases heq
  exact h

theorem Refusing.bind {result : Except Error α} {next : α → Except Error β} (h : Refusing result)
    (hnext : ∀ value, Refusing (next value)) : Refusing (result >>= next) := by
  cases result with
  | ok value => exact hnext value
  | error e => exact .error (h e rfl)

theorem Refusing.map {result : Except Error α} (h : Refusing result) (f : α → β) :
    Refusing (f <$> result) := by
  cases result with
  | ok value => exact .ok _
  | error e => exact .error (h e rfl)

namespace Target

theorem refusing_required (params : Params) (name : String) : Refusing (required params name) := by
  unfold required
  split
  · exact .ok _
  · exact .error rfl

theorem refusing_textParam (params : Params) (name : String) :
    Refusing (textParam params name) := by
  refine (refusing_required params name).bind fun value => ?_
  dsimp only
  split
  · exact .error rfl
  · exact .ok _

theorem refusing_slotOr (text : String) (read : Except Slot.Fault Slot) :
    Refusing (slotOr text read) := by
  cases read with
  | ok slot => exact .ok _
  | error fault => exact .error rfl

theorem refusing_slotParam (params : Params) : Refusing (slotParam params) := by
  refine (refusing_required params positionParam).bind fun value => ?_
  split
  · exact refusing_slotOr _ _
  · exact refusing_slotOr _ _

/-- What is wrong with the parameters is found before any device is contacted. -/
theorem refusing_ofParams (kind : Kind) (params : Params) : Refusing (ofParams kind params) := by
  have haddress := refusing_textParam params hostParam
  cases kind with
  | host => exact (haddress.bind fun _ => .ok _).map _
  | chassis => exact (haddress.bind fun _ => .ok _).map _
  | bladeByPosition =>
    exact (haddress.bind fun _ => (refusing_slotParam params).bind fun _ => .ok _).map _
  | bladeBySerial =>
    exact (haddress.bind fun _ => (refusing_textParam params serialParam).bind fun _ => .ok _).map _
  | sleep => exact .ok _

end Target

namespace Plan

variable {kind : Kind} {params : Params} {tokens : List String}

theorem compile_of_error {e : Error} (h : Target.ofParams kind params = .error e)
    (tokens : List String) : compile kind params tokens = .error e := by
  unfold compile
  rw [h]
  rfl

/-- The parameters describe a target of the kind asked for, or none for a plan without one. -/
theorem kind_of_ofParams {target : Option Target} (h : Target.ofParams kind params = .ok target) :
    target.elim Kind.sleep Target.kind = kind := by
  cases kind with
  | host =>
    unfold Target.ofParams Target.hostOf at h
    cases haddress : Target.textParam params Target.hostParam <;> rw [haddress] at h <;> cases h
    rfl
  | chassis =>
    unfold Target.ofParams Target.chassisOf at h
    cases haddress : Target.textParam params Target.hostParam <;> rw [haddress] at h <;> cases h
    rfl
  | bladeByPosition =>
    unfold Target.ofParams Target.bladeByPositionOf at h
    cases haddress : Target.textParam params Target.hostParam <;> rw [haddress] at h
    · cases h
    · cases hslot : Target.slotParam params <;> rw [hslot] at h <;> cases h
      rfl
  | bladeBySerial =>
    unfold Target.ofParams Target.bladeBySerialOf at h
    cases haddress : Target.textParam params Target.hostParam <;> rw [haddress] at h
    · cases h
    · cases hserial : Target.textParam params Target.serialParam <;> rw [hserial] at h <;> cases h
      rfl
  | sleep =>
    cases h
    rfl

/-- Of parameters that describe a target, the tokens are compiled for the operations of the kind. -/
theorem compile_of_target {target : Option Target} (h : Target.ofParams kind params = .ok target) :
    ∃ (ω : Type) (supported : Action → Option ω) (plan : List (Step ω) → Plan),
      Supports kind supported ∧
      (∀ steps, (plan steps).kind = kind ∧ (plan steps).tokens = steps.map (·.token)) ∧
      ∀ tokens, compile kind params tokens = plan <$> Step.ofTokens kind supported tokens := by
  have hkind := kind_of_ofParams h
  have hcompile : ∀ tokens, compile kind params tokens = Option.elim target
      (.sleep <$> Step.ofTokens .sleep (fun _ => none) tokens) (ofTarget · tokens) := by
    intro tokens
    simp only [compile, h]
    cases target <;> rfl
  cases target with
  | none =>
    cases hkind
    exact ⟨Empty, _, .sleep, supports_sleep, fun _ => ⟨rfl, rfl⟩, hcompile⟩
  | some target =>
    cases hkind
    cases target with
    | host address =>
      exact ⟨_, _, .server address, supports_serverWork, fun _ => ⟨rfl, rfl⟩, hcompile⟩
    | chassis address =>
      exact ⟨_, _, .chassis address, supports_chassisOp, fun _ => ⟨rfl, rfl⟩, hcompile⟩
    | bladeByPosition address slot =>
      exact ⟨_, _, .blade address (.position slot), supports_bladeOp (Or.inl rfl),
        fun _ => ⟨rfl, rfl⟩, hcompile⟩
    | bladeBySerial address serial =>
      exact ⟨_, _, .blade address (.serial serial), supports_bladeOp (Or.inr rfl),
        fun _ => ⟨rfl, rfl⟩, hcompile⟩

/-- A plan carries the tokens it was compiled from, which all resolve. -/
theorem compile_eq_ok {plan : Plan} (h : compile kind params tokens = .ok plan) :
    (∃ target, Target.ofParams kind params = .ok target) ∧ (∀ token ∈ tokens, Resolves kind token) ∧
      plan.tokens = tokens ∧ plan.kind = kind := by
  cases htarget : Target.ofParams kind params with
  | error e =>
    rw [compile_of_error htarget] at h
    cases h
  | ok target =>
    obtain ⟨ω, supported, make, hs, hmake, hcompile⟩ := compile_of_target htarget
    rw [hcompile] at h
    rcases Step.ofTokens_cases hs tokens with
      ⟨steps, hsteps, htokens, hall⟩ | ⟨e, -, -, -, he, -⟩
    · rw [hsteps] at h
      cases h
      exact ⟨⟨target, rfl⟩, hall, (hmake steps).2.trans htokens, (hmake steps).1⟩
    · rw [he] at h
      cases h

theorem compile_eq_error_iff {e : Error} :
    compile kind params tokens = .error e ↔
      Target.ofParams kind params = .error e ∨
        (∃ target, Target.ofParams kind params = .ok target) ∧
          ∃ before token after, tokens = before ++ token :: after ∧
            (∀ earlier ∈ before, Resolves kind earlier) ∧ Refused kind token e := by
  constructor
  · intro h
    cases htarget : Target.ofParams kind params with
    | error other =>
      rw [compile_of_error htarget] at h
      cases h
      exact Or.inl rfl
    | ok target =>
      obtain ⟨ω, supported, make, hs, -, hcompile⟩ := compile_of_target htarget
      rw [hcompile] at h
      rcases Step.ofTokens_cases hs tokens with
        ⟨steps, hsteps, -⟩ | ⟨other, before, token, after, he, htokens, hbefore, hrefused⟩
      · rw [hsteps] at h
        cases h
      · rw [he] at h
        cases h
        exact Or.inr ⟨⟨target, rfl⟩, before, token, after, htokens, hbefore, hrefused⟩
  · rintro (htarget | ⟨⟨target, htarget⟩, before, token, after, rfl, hbefore, hrefused⟩)
    · exact compile_of_error htarget tokens
    · obtain ⟨ω, supported, make, hs, -, hcompile⟩ := compile_of_target htarget
      rw [hcompile, Step.ofTokens_of_refused hs hbefore hrefused]
      rfl

theorem exists_compile {target : Option Target} (h : Target.ofParams kind params = .ok target)
    (hall : ∀ token ∈ tokens, Resolves kind token) :
    ∃ plan, compile kind params tokens = .ok plan := by
  cases hcompile : compile kind params tokens with
  | ok plan => exact ⟨plan, rfl⟩
  | error e =>
    rcases compile_eq_error_iff.mp hcompile with
      htarget | ⟨-, before, token, after, rfl, -, hrefused⟩
    · rw [h] at htarget
      cases htarget
    · exact absurd (hall token (by simp)) hrefused.not_resolves

theorem isCompileError_of_compile {e : Error} (h : compile kind params tokens = .error e) :
    e.isCompileError := by
  rcases compile_eq_error_iff.mp h with htarget | ⟨-, -, token, -, -, -, hrefused⟩
  · exact Target.refusing_ofParams kind params e htarget
  · exact hrefused.isCompileError

/-- A sequence compiles to all of its tokens or to nothing: the parameters are at fault, or the
first token that does not resolve, whatever comes after it. What a command or a request does to the
world is done by the run alone, and nothing at all where nothing compiles. -/
theorem compile_all_or_nothing (kind : Kind) (params : Params) (tokens : List String) :
    ((∃ plan, compile kind params tokens = .ok plan) ↔
      (∃ target, Target.ofParams kind params = .ok target) ∧
        ∀ token ∈ tokens, Resolves kind token) ∧
    (∀ plan, compile kind params tokens = .ok plan → plan.tokens = tokens ∧ plan.kind = kind) ∧
    (∀ e, compile kind params tokens = .error e ↔
      Target.ofParams kind params = .error e ∨
        (∃ target, Target.ofParams kind params = .ok target) ∧
          ∃ before token after, tokens = before ++ token :: after ∧
            (∀ earlier ∈ before, Resolves kind earlier) ∧ Refused kind token e) ∧
    (∀ e, compile kind params tokens = .error e → e.isCompileError) ∧
    (∀ {σ : Type} (engine : Engine σ) (selection : CommandLine.Selection) (err : String)
      (s : Scene σ), selection.kind = kind → selection.params = params →
      (CommandLine.execute engine selection tokens err s).2 =
        match compile kind params tokens with
        | .ok plan => (engine.run plan s).2
        | .error _ => s) ∧
    ∀ {σ : Type} (service : Http.Service σ) (device : Http.Device)
      (respond : Bool → List ActionResult → Http.Response) (s : Scene σ),
      device.kind = kind → device.params = params →
      (service.perform device tokens respond s).2 =
        match compile kind params tokens with
        | .ok plan => (plan.run service.world service.credentials none s).2
        | .error _ => s := by
  refine ⟨⟨?_, ?_⟩, ?_, fun e => compile_eq_error_iff, ?_, ?_, ?_⟩
  · rintro ⟨plan, hplan⟩
    obtain ⟨htarget, hall, -⟩ := compile_eq_ok hplan
    exact ⟨htarget, hall⟩
  · rintro ⟨⟨target, htarget⟩, hall⟩
    exact exists_compile htarget hall
  · intro plan hplan
    exact (compile_eq_ok hplan).2.2
  · intro e he
    rcases compile_eq_error_iff.mp he with htarget | ⟨-, -, token, -, -, -, hrefused⟩
    · exact Target.refusing_ofParams kind params e htarget
    · exact hrefused.isCompileError
  · rintro σ engine selection err s rfl rfl
    unfold CommandLine.execute
    split <;> rename_i hcompile <;> rw [hcompile]
  · rintro σ service device respond s rfl rfl
    unfold Http.Service.perform
    split <;> rename_i hcompile <;> rw [hcompile]
    dsimp only
    split <;> rfl

example :
    compile .chassis [("host", .text "c1")] ["ison", "reseat", "dance"] =
      .error (.unsupportedAction "reseat" .chassis) := by
  rfl

end Plan

end Outband
