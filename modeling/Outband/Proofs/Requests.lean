import Outband.Proofs.Compilation
import Outband.Proofs.FailFast
import Outband.Proofs.SlotText
import Mathlib.Data.List.TakeWhile
/-! How requests for actions on a device are answered: which are refused, and what the answer to the
others tells about the run. -/

namespace Outband

namespace Text

/-- A text is blank when trimming leaves nothing of it. -/
theorem isBlankText_iff {s : String} : isBlankText s ↔ trim s = "" := by
  rw [isBlankText, trim, List.all_eq_true]
  constructor
  · intro h
    have hnone : s.toList.dropWhile isBlank = [] := List.dropWhile_eq_nil_iff.mpr h
    simp [hnone]
  · intro h
    have hnone : ((s.toList.dropWhile isBlank).reverse.dropWhile isBlank).reverse = [] := by
      simpa using congrArg String.toList h
    have hblank : ∀ c ∈ s.toList.dropWhile isBlank, isBlank c := by
      simpa using List.dropWhile_eq_nil_iff.mp (List.reverse_eq_nil_iff.mp hnone)
    -- What is left in front would start with a character that is not blank.
    cases hleft : s.toList.dropWhile isBlank with
    | nil => exact List.dropWhile_eq_nil_iff.mp hleft
    | cons c rest =>
      have hfirst := List.head?_dropWhile_not isBlank s.toList
      rw [hleft] at hfirst hblank
      have hc := hblank c List.mem_cons_self
      simp [hc] at hfirst

end Text

namespace Target

theorem textParam_of_text {params : Params} {name s : String}
    (h : params.lookup name = some (.text s)) :
    (∃ text, textParam params name = .ok text) ↔ Text.trim s ≠ "" := by
  rw [ne_eq, ← Text.isBlankText_iff]
  unfold textParam required
  rw [h]
  simp only [Json.plain]
  cases hblank : Text.isBlankText s <;> simp [bind, Except.bind, hblank]

theorem slotParam_of_text {params : Params} {s : String}
    (h : params.lookup positionParam = some (.text s)) :
    (∃ slot, slotParam params = .ok slot) ↔ Slot.IsText s := by
  rw [← Slot.exists_ofText_iff]
  unfold slotParam required
  rw [h]
  simp only [Json.signed?, Json.plain]
  cases hslot : Slot.ofText s <;> simp [bind, Except.bind, slotOr, hslot]

end Target

theorem RunReport.exists_last_of_failed {r : RunReport} (h : r.isSuccess ≠ true) :
    ∃ last, r.results.getLast? = some last ∧ last.error?.isSome := by
  rw [isSuccess, error?] at h
  cases hlast : r.results.getLast? with
  | none => simp [hlast] at h
  | some last => exact ⟨last, rfl, by simpa [hlast, Option.isSome_iff_ne_none] using h⟩

namespace Http

namespace Device

def address : Device → String
  | .host address | .chassis address | .bladeByPosition address _ | .bladeBySerial address _ =>
    address

/-- It is said which blade of the chassis is meant. -/
def IsPlaced : Device → Prop
  | .host _ | .chassis _ => True
  | .bladeByPosition _ position => Slot.IsText position
  | .bladeBySerial _ serial => Text.trim serial ≠ ""

/-- The path names an address and, for a blade, where it is. -/
def IsNamed (device : Device) : Prop := Text.trim device.address ≠ "" ∧ device.IsPlaced

theorem lookup_host_params (device : Device) :
    device.params.lookup Target.hostParam = some (.text device.address) := by
  cases device <;> rfl

/-- What a path names is a target, and nothing else is. -/
theorem exists_target_iff (device : Device) :
    (∃ target, Target.ofParams device.kind device.params = .ok target) ↔ device.IsNamed := by
  have haddress := Target.textParam_of_text device.lookup_host_params
  have hmap : ∀ {α β : Type} {result : Except Error α} {f : α → β},
      (∃ b, f <$> result = .ok b) ↔ ∃ a, result = .ok a := by
    intro α β result f
    cases result <;> simp [Functor.map, Except.map]
  have hbind : ∀ {α β : Type} {result : Except Error α} {next : α → Except Error β},
      (∃ b, (result >>= next) = .ok b) ↔ ∃ a, result = .ok a ∧ ∃ b, next a = .ok b := by
    intro α β result next
    cases result <;> simp [bind, Except.bind]
  rw [IsNamed, ← haddress]
  cases device with
  | host address => simp [kind, IsPlaced, Target.ofParams, hmap, Target.hostOf]
  | chassis address => simp [kind, IsPlaced, Target.ofParams, hmap, Target.chassisOf]
  | bladeByPosition address position =>
    have hslot : (params (.bladeByPosition address position)).lookup Target.positionParam =
        some (.text position) := rfl
    rw [IsPlaced, ← Target.slotParam_of_text hslot]
    simp [kind, Target.ofParams, hmap, Target.bladeByPositionOf, hbind]
  | bladeBySerial address serial =>
    have hserial : (params (.bladeBySerial address serial)).lookup Target.serialParam =
        some (.text serial) := rfl
    rw [IsPlaced, ← Target.textParam_of_text hserial]
    simp [kind, Target.ofParams, hmap, Target.bladeBySerialOf, hbind]

/-- A path whose target is in order has passed the checks that are made of it. -/
theorem check_of_isNamed {device : Device} (h : device.IsNamed) : device.check = .ok () := by
  have hfull : ∀ {text : String}, Text.trim text ≠ "" → text.isEmpty = false := by
    intro text htext
    by_contra hempty
    obtain rfl : text = "" := by simpa using hempty
    exact htext rfl
  obtain ⟨haddress, hplace⟩ := h
  have hhost : checkHost device.address = .ok () := by
    rw [checkHost, hfull haddress]
    rfl
  cases device with
  | host address => exact hhost
  | chassis address => exact hhost
  | bladeByPosition address position =>
    obtain ⟨slot, hslot⟩ := Slot.exists_ofText_iff.mpr hplace
    have hposition : checkPosition position = .ok () := by rw [checkPosition, hslot]
    rw [check, show checkHost address = .ok () from hhost]
    exact hposition
  | bladeBySerial address serial =>
    have hserial : checkSerial serial = .ok () := by
      rw [checkSerial, hfull hplace]
      rfl
    rw [check, show checkHost address = .ok () from hhost]
    exact hserial

end Device

/-- What can be wrong with a request for actions: the device that it names, its body, or one of the
tokens in it. -/
inductive AtFault (device : Device) (request : Request) : Prop
  | path (h : ¬ device.IsNamed)
  | body {fault : BodyFault}
      (h : ActionRequest.read request.contentType request.body = .error fault)
  | token {body : ActionRequest}
      (h : ActionRequest.read request.contentType request.body = .ok body) (token : String)
      (hmem : token ∈ body.actions) (refused : ¬ Resolves device.kind token)

/-- What the answer to a request for actions tells, and what was done before it was given. -/
structure Answers (service : Service σ) (device : Device) (request : Request) (s after : Scene σ)
    (response : Response) : Prop where
  refused : response.status = .badRequest ↔ AtFault device request
  untouched : AtFault device request → after = s
  performed : ¬ AtFault device request → ∃ body plan,
    ActionRequest.read request.contentType request.body = .ok body ∧
    Plan.compile device.kind device.params body.actions = .ok plan ∧
    let ran := plan.run service.world service.credentials none s
    let results := ran.1.results
    after = ran.2 ∧ response.body = .json (.array (results.map entry)) ∧
    (response.status = .ok ↔
      results.length = body.actions.length ∧ ∀ result ∈ results, result.error? = none) ∧
    (response.status = .ok → results.map (·.token) = body.actions) ∧
    (response.status ≠ .ok → response.status = .expectationFailed ∧
      results.map (·.token) = body.actions.take results.length ∧
      (∀ result ∈ results.dropLast, result.error? = none) ∧
      ∃ last, results.getLast? = some last ∧ last.error?.isSome)

namespace Service

variable {service : Service σ} {device : Device} {request : Request} {s : Scene σ}
  {response : Response}

/-- What is refused is answered at once. -/
theorem answers_of_atFault (h : AtFault device request) (hstatus : response.status = .badRequest) :
    Answers service device request s s response :=
  ⟨iff_of_true hstatus h, fun _ => rfl, fun hsound => absurd h hsound⟩

variable (service s) in
theorem respond_of_route (hmethod : request.method = .get ∨ request.method = .post)
    (hroute : Route.ofPath service.gallery.mountPath request.path = .device device) :
    service.respond request s = service.onDevice device request s := by
  rcases hmethod with h | h <;> simp [respond, dispatch, hroute, h]

/-- Actions that do not compile are refused. -/
theorem perform_of_error {tokens : List String} {e : Error}
    {respond : Bool → List ActionResult → Response} {reaction : Reaction σ}
    (hplan : Plan.compile device.kind device.params tokens = .error e)
    (h : service.perform device tokens respond s = reaction) :
    reaction = (some (.ofError e), s) := by
  rw [← h, perform, hplan]

/-- Actions that compile are run, and answered from their results when the run comes to its end. -/
theorem perform_of_plan {tokens : List String} {plan : Plan}
    {respond : Bool → List ActionResult → Response} {reaction : Reaction σ}
    (hplan : Plan.compile device.kind device.params tokens = .ok plan)
    (h : service.perform device tokens respond s = reaction) :
    let ran := plan.run service.world service.credentials none s
    reaction.2 = ran.2 ∧ (ran.1.halt = .finished →
      reaction.1 = some (respond ran.1.isSuccess ran.1.results)) := by
  rw [← h, perform, hplan]
  dsimp only
  cases (plan.run service.world service.credentials none s).1.halt <;> simp

/-- A request that names a device and can be read compiles unless a token is at fault. -/
theorem compile_iff_sound {body : ActionRequest} (hnamed : device.IsNamed)
    (hread : ActionRequest.read request.contentType request.body = .ok body) :
    (∃ plan, Plan.compile device.kind device.params body.actions = .ok plan) ↔
      ¬ AtFault device request := by
  obtain ⟨target, htarget⟩ := device.exists_target_iff.mpr hnamed
  constructor
  · rintro ⟨plan, hplan⟩ hfault
    cases hfault with
    | path h => exact h hnamed
    | body h =>
      rw [hread] at h
      cases h
    | token h token hmem refused =>
      rw [hread] at h
      cases h
      exact refused ((Plan.compile_eq_ok hplan).2.1 token hmem)
  · intro hsound
    refine Plan.exists_compile htarget fun token hmem => ?_
    by_contra hrefused
    exact hsound (.token hread token hmem hrefused)

variable (service) in
/-- What a run without a crash tells when it has come to its end. -/
theorem answers_of_run {body : ActionRequest} {plan : Plan} (hsound : ¬ AtFault device request)
    (hread : ActionRequest.read request.contentType request.body = .ok body)
    (hplan : Plan.compile device.kind device.params body.actions = .ok plan)
    (hhalt : (plan.run service.world service.credentials none s).1.halt = .finished) :
    let ran := plan.run service.world service.credentials none s
    Answers service device request s ran.2
      ⟨outcome ran.1.isSuccess, .json (.array (ran.1.results.map entry))⟩ := by
  have hf := plan.run_followed service.world service.credentials s hhalt
  obtain ⟨-, -, htokens, -⟩ := Plan.compile_eq_ok hplan
  rw [htokens] at hf
  dsimp only
  generalize hran : plan.run service.world service.credentials none s = ran at hf
  obtain ⟨⟨results, halt, elapsed, cleanups⟩, after⟩ := ran
  have hsuccess := hf.success_iff halt elapsed cleanups
  have hlast := RunReport.exists_last_of_failed (r := ⟨results, halt, elapsed, cleanups⟩)
  have hplanned : (plan.run service.world service.credentials none s) =
      (⟨results, halt, elapsed, cleanups⟩, after) := hran
  cases hok : (RunReport.mk results halt elapsed cleanups).isSuccess with
  | true =>
    have hall := hsuccess.mp hok
    refine ⟨iff_of_false (by simp [outcome]) hsound, fun h => absurd h hsound, fun _ => ?_⟩
    refine ⟨body, plan, hread, hplan, ?_⟩
    rw [hplanned]
    refine ⟨rfl, rfl, iff_of_true rfl ⟨hf.complete hall, hall⟩, fun _ => ?_, fun h => absurd rfl h⟩
    rw [hf.tokens_eq, hf.complete hall, List.take_length]
  | false =>
    have hnot : ¬ ∀ result ∈ results, result.error? = none := by
      rw [← hsuccess, hok]
      exact Bool.false_ne_true
    refine ⟨iff_of_false (by simp [outcome]) hsound, fun h => absurd h hsound, fun _ => ?_⟩
    refine ⟨body, plan, hread, hplan, ?_⟩
    rw [hplanned]
    refine ⟨rfl, rfl, iff_of_false (by simp [outcome]) fun h => hnot h.2, fun h => ?_, fun _ => ?_⟩
    · cases h
    · exact ⟨rfl, hf.tokens_eq, hf.earlier, hlast (by simp [hok])⟩

variable (service) in
/-- A request for a device that its path names in full is answered by what is at fault with it, or
else by the run. -/
theorem answers_onDevice {segments : Device} (hpost : request.method = .post)
    (hdecode : segments.decode = .ok device) (s : Scene σ) :
    ∃ events, (service.onDevice segments request s).2.log = s.log ++ events ∧
      (crashesOf events = [] → ∃ response,
        (service.onDevice segments request s).1 = some response ∧
        Answers service device request s (service.onDevice segments request s).2 response) := by
  have hrefuse : ∀ message, AtFault device request →
      ∃ events, s.log = s.log ++ events ∧ (crashesOf events = [] → ∃ response,
        some (Response.badRequest message) = some response ∧
        Answers service device request s s response) :=
    fun message h => ⟨[], by simp, fun _ => ⟨_, rfl, answers_of_atFault h rfl⟩⟩
  rw [onDevice, hdecode]
  dsimp only
  cases hcheck : device.check with
  | error fault =>
    refine hrefuse _ (.path fun hnamed => ?_)
    rw [Device.check_of_isNamed hnamed] at hcheck
    cases hcheck
  | ok _ =>
    dsimp only
    rw [if_pos hpost]
    cases hread : ActionRequest.read request.contentType request.body with
    | error fault => exact hrefuse _ (.body hread)
    | ok body =>
      dsimp only
      rw [execute, perform]
      cases hplan : Plan.compile device.kind device.params body.actions with
      | error e =>
        have hcompile := Plan.isCompileError_of_compile hplan
        have hfault : AtFault device request := by
          by_contra hsound
          have hnamed : device.IsNamed := by
            by_contra hnamed
            exact hsound (.path hnamed)
          obtain ⟨plan, hok⟩ := (compile_iff_sound hnamed hread).mpr hsound
          rw [hplan] at hok
          cases hok
        dsimp only
        rw [Response.ofError, if_pos hcompile]
        exact hrefuse _ hfault
      | ok plan =>
        have hnamed := device.exists_target_iff.mp (Plan.compile_eq_ok hplan).1
        have hsound := (compile_iff_sound hnamed hread).mp ⟨plan, hplan⟩
        obtain ⟨events, hlog, hfinishes⟩ :=
          plan.run_finishes service.world service.credentials s
        have hanswers := answers_of_run (s := s) service hsound hread hplan
        refine ⟨events, ?_, fun hnone => ?_⟩
        · dsimp only
          split <;> exact hlog
        · have hhalt := hfinishes hnone
          dsimp only
          rw [hhalt]
          exact ⟨_, rfl, hanswers hhalt⟩

/-- A request for actions is refused just when it is at fault, before anything is done. Otherwise
its answer lists the results of the actions that were done, and tells whether all went well. A path
that is no encoded text is refused as well. -/
theorem respond_answers (service : Service σ) (request : Request) (segments : Device) (s : Scene σ)
    (hpost : request.method = .post)
    (hroute : Route.ofPath service.gallery.mountPath request.path = .device segments) :
    ∃ events, (service.respond request s).2.log = s.log ++ events ∧ (crashesOf events = [] →
      ∃ response, (service.respond request s).1 = some response ∧
        (∀ fault, segments.decode = .error fault →
          response.status = .badRequest ∧ (service.respond request s).2 = s) ∧
        ∀ device, segments.decode = .ok device →
          Answers service device request s (service.respond request s).2 response) := by
  have hrespond : service.respond request s = service.onDevice segments request s := by
    simp [respond, dispatch, hroute, hpost]
  rw [hrespond]
  cases hdecode : segments.decode with
  | error fault =>
    rw [onDevice, hdecode]
    refine ⟨[], by simp, fun _ => ⟨_, rfl, fun _ _ => ⟨rfl, rfl⟩, fun device h => ?_⟩⟩
    cases h
  | ok device =>
    obtain ⟨events, hlog, hanswers⟩ := answers_onDevice service hpost hdecode s
    refine ⟨events, hlog, fun hnone => ?_⟩
    obtain ⟨response, hresponse, h⟩ := hanswers hnone
    refine ⟨response, hresponse, fun fault hfault => ?_, fun other hother => ?_⟩
    · cases hfault
    · cases hother
      exact h

/-- Of three actions one fails. It is the last in the answer. -/
theorem respond_answers_of_failed :
    let service : Service Script :=
      ⟨Script.world, ⟨"admin", "secret"⟩, ⟨"shots", "/screenshot"⟩, fun _ => {}⟩
    let body := "\x7b\"action-sequence\": [\"ison\", \"powercycle\", \"poweroff\"]\x7d"
    let request : Request :=
      ⟨.post, "/host/10.0.0.1", some "application/json", Text.bytesOf body⟩
    let s : Scene Script :=
      { world := { cues := [("native.power_cycle", [.driverError .notActive])] } }
    request.method = .post ∧
      Route.ofPath service.gallery.mountPath request.path = .device (.host "10.0.0.1") ∧
      ∃ response, (service.respond request s).1 = some response ∧
        response.status = .expectationFailed ∧
        ∃ results : List ActionResult, response.body = .json (.array (results.map entry)) ∧
          (∀ result ∈ results.dropLast, result.error? = none) ∧
          ∃ last, results.getLast? = some last ∧ last.error?.isSome := by
  intro service body request s
  have hroute : Route.ofPath service.gallery.mountPath request.path =
      .device (.host "10.0.0.1") := by
    decide +kernel
  have hdecode : (Device.host "10.0.0.1").decode = .ok (.host "10.0.0.1") := by decide +kernel
  obtain ⟨events, hlog, hanswers⟩ :=
    respond_answers service request (.host "10.0.0.1") s rfl hroute
  have hnone : crashesOf (service.respond request s).2.log = [] := by decide +kernel
  rw [hlog] at hnone
  obtain ⟨response, hresponse, -, hanswer⟩ := hanswers hnone
  have h := hanswer _ hdecode
  have hstatus : (service.respond request s).1.map (·.status) = some .expectationFailed := by
    decide +kernel
  rw [hresponse] at hstatus
  have hfailed : response.status = .expectationFailed := Option.some.inj hstatus
  have hsound : ¬ AtFault (.host "10.0.0.1") request := fun hfault => by
    rw [h.refused.mpr hfault] at hfailed
    cases hfailed
  obtain ⟨body, plan, -, -, -, hjson, -, -, hrest⟩ := h.performed hsound
  obtain ⟨-, -, hearlier, hlast⟩ := hrest (by rw [hfailed]; decide)
  exact ⟨rfl, hroute, response, hresponse, hfailed, _, hjson, hearlier, hlast⟩

end Service

end Http

end Outband
