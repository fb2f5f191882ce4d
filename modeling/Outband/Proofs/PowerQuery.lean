import Outband.Proofs.Requests
/-! A query of a power state is answered as a request for that one action is. -/

namespace Outband

/-- A run of one step that comes to its end has one result. -/
theorem Plan.run_single (plan : Plan) (world : World σ) (credentials : Credentials)
    (s : Scene σ) {token : String} (htokens : plan.tokens = [token])
    (hhalt : (plan.run world credentials none s).1.halt = .finished) :
    ∃ result, (plan.run world credentials none s).1.results = [result] := by
  have hf := plan.run_followed world credentials s hhalt
  rw [htokens] at hf
  generalize (plan.run world credentials none s).1.results = results at hf
  cases hf with
  | failed => exact ⟨_, rfl⟩
  | next _ more =>
    cases more
    exact ⟨_, rfl⟩

theorem RunReport.isSuccess_of_single {r : RunReport} {result : ActionResult}
    (h : r.results = [result]) : r.isSuccess = !result.isFailure := by
  rw [isSuccess, error?, h, ActionResult.isFailure]
  simp

namespace Http

/-- The answer to a query, and the answer to a request for the one action that it is. Both are
refused in the same words, or the one shows the result that is the only one in the other's list. -/
inductive SameAnswer : Response → Response → Prop
  | refused {response : Response} (h : response.status = .badRequest) :
      SameAnswer response response
  | performed (result : ActionResult) :
      SameAnswer ⟨Service.outcome (!result.isFailure), .json (entry result)⟩
        ⟨Service.outcome (!result.isFailure), .json (.array [entry result])⟩

/-- There always is a result to show. -/
theorem SameAnswer.status {response response' : Response} (h : SameAnswer response response') :
    response'.status = response.status ∧ response.status ≠ .internalError := by
  cases h with
  | refused h => exact ⟨rfl, by simp [h]⟩
  | performed result =>
    refine ⟨rfl, ?_⟩
    cases hfails : result.isFailure <;> simp [Service.outcome]

namespace Service

variable {service : Service σ} {s : Scene σ}

/-- The reactions to a query and to a request for the one action that it is: the same was done, and
unless it crashed both are answered. -/
structure SameReaction (s : Scene σ) (queried asked : Reaction σ) : Prop where
  scene : queried.2 = asked.2
  answers : ∃ events, queried.2.log = s.log ++ events ∧ (crashesOf events = [] →
    ∃ response response', queried.1 = some response ∧ asked.1 = some response' ∧
      response'.status = response.status ∧ response.status ≠ .internalError ∧
      SameAnswer response response')

theorem SameReaction.refused {response : Response} (h : response.status = .badRequest) :
    SameReaction s (some response, s) (some response, s) :=
  ⟨rfl, [], by simp, fun _ => ⟨response, response, rfl, rfl, rfl, by simp [h], .refused h⟩⟩

theorem query_like_execute (service : Service σ) (device : Device) (s : Scene σ) :
    SameReaction s (service.query device s) (service.execute device [Action.isOn.token] s) := by
  have hquery : service.perform device [Action.isOn.token] _ s = service.query device s := rfl
  have hexecute : service.perform device [Action.isOn.token] _ s =
      service.execute device [Action.isOn.token] s := rfl
  cases hplan : Plan.compile device.kind device.params [Action.isOn.token] with
  | error e =>
    rw [perform_of_error hplan hquery, perform_of_error hplan hexecute]
    refine .refused ?_
    rw [Response.ofError, if_pos (Plan.isCompileError_of_compile hplan)]
    rfl
  | ok plan =>
    obtain ⟨-, -, htokens, -⟩ := Plan.compile_eq_ok hplan
    obtain ⟨events, hlog, hfinishes⟩ := plan.run_finishes service.world service.credentials s
    obtain ⟨hscene, hqueried⟩ := perform_of_plan hplan hquery
    obtain ⟨hscene', hexecuted⟩ := perform_of_plan hplan hexecute
    refine ⟨hscene.trans hscene'.symm, events, hscene ▸ hlog, fun hnone => ?_⟩
    have hhalt := hfinishes hnone
    obtain ⟨result, hresults⟩ :=
      plan.run_single service.world service.credentials s htokens hhalt
    have hsame := SameAnswer.performed result
    refine ⟨_, _, hqueried hhalt, hexecuted hhalt, ?_⟩
    rw [hresults, RunReport.isSuccess_of_single hresults]
    exact ⟨hsame.status.1, hsame.status.2, hsame⟩

/-- To query a power state does the same as to ask for that one action, and is answered alike: by
the same refusal, or by the one result there is. -/
theorem respond_query_like_action (service : Service σ) {get post : Request} {segments : Device}
    {body : ActionRequest} (hget : get.method = .get) (hpost : post.method = .post)
    (hpath : get.path = post.path)
    (hroute : Route.ofPath service.gallery.mountPath get.path = .device segments)
    (hread : ActionRequest.read post.contentType post.body = .ok body)
    (hactions : body.actions = [Action.isOn.token]) (s : Scene σ) :
    SameReaction s (service.respond get s) (service.respond post s) := by
  have hroute' : Route.ofPath service.gallery.mountPath post.path = .device segments := by
    rw [← hpath, hroute]
  rw [respond_of_route service s (Or.inl hget) hroute,
    respond_of_route service s (Or.inr hpost) hroute', onDevice, onDevice]
  cases segments.decode with
  | error fault => exact .refused rfl
  | ok device =>
    dsimp only
    cases device.check with
    | error fault => exact .refused rfl
    | ok _ =>
      dsimp only
      rw [if_neg (by simp [hget]), if_pos hpost, hread]
      dsimp only
      rw [hactions]
      exact query_like_execute service device s

/-- The driver fails to tell the state, and both answers say so. -/
theorem respond_query_like_action_of_failure :
    let service : Service Script :=
      ⟨Script.world, ⟨"admin", "secret"⟩, ⟨"shots", "/screenshot"⟩, fun _ => {}⟩
    let path := "/host/10.0.0.1"
    let get : Request := ⟨.get, path, none, []⟩
    let post : Request := ⟨.post, path, some "application/json",
      Text.bytesOf "\x7b\"action-sequence\": [\"ison\"]\x7d"⟩
    let s : Scene Script :=
      { world := { cues := [("native.is_on", [.driverError .notActive])] } }
    get.path = post.path ∧
      Route.ofPath service.gallery.mountPath get.path = .device (.host "10.0.0.1") ∧
      ActionRequest.read post.contentType post.body = .ok { actions := ["ison"] } ∧
      (service.respond get s).2 = (service.respond post s).2 ∧
      ∃ response response', (service.respond get s).1 = some response ∧
        (service.respond post s).1 = some response' ∧
        response.status = .expectationFailed ∧ SameAnswer response response' := by
  intro service path get post s
  have hpost : post.method = .post := rfl
  have hpath : get.path = post.path := rfl
  have hroute : Route.ofPath service.gallery.mountPath get.path = .device (.host "10.0.0.1") := by
    decide +kernel
  have hread : ActionRequest.read post.contentType post.body = .ok { actions := ["ison"] } := by
    decide +kernel
  obtain ⟨hscene, events, hlog, hanswers⟩ :=
    respond_query_like_action service rfl hpost hpath hroute hread rfl s
  have hnone : crashesOf (service.respond get s).2.log = [] := by decide +kernel
  rw [hlog] at hnone
  obtain ⟨response, response', hresponse, hresponse', -, -, hsame⟩ := hanswers hnone
  have hstatus : (service.respond get s).1.map (·.status) = some .expectationFailed := by
    decide +kernel
  rw [hresponse] at hstatus
  exact ⟨hpath, hroute, hread, hscene, response, response', hresponse, hresponse',
    Option.some.inj hstatus, hsame⟩

end Service

end Http

end Outband
