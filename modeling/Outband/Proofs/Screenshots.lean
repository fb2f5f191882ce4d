import Outband.Proofs.FailFast
/-! What becomes of the screenshots of a run: the native driver alone is asked for an image, each
image that it gives is stored at once under the name of its host, and nothing else is stored. -/

namespace Outband

theorem mem_callsOf {events : List Event} {call : Call} :
    call ∈ callsOf events ↔ .called call ∈ events := by
  induction events with
  | nil => simp
  | cons event rest ih => cases event <;> simp [ih]

/-- Each image is stored as soon as it is there, and nothing else is: a call to store comes directly
after the capture that it stores, with its image and the name for that, and no capture that went
well is without one. -/
inductive Filed (e : Endpoint) (seconds : Int → Prop) : List Event → Prop
  | nothing : Filed e seconds []
  | other (event : Event) {rest : List Event}
      (hstore : ∀ call, event = .called call → call.isStore = false)
      (hcapture : ∀ session shot, event ≠ .ended (.capture session) (.returns (.ok shot)))
      (h : Filed e seconds rest) : Filed e seconds (event :: rest)
  | stored (session : ServerSession) (shot : Capture) {n : Int} (hn : seconds n) {rest : List Event}
      (h : Filed e seconds rest) :
    Filed e seconds (.called (.capture session) ::
      .ended (.capture session) (.returns (.ok shot)) ::
      .called (.keep e session shot n) :: rest)

section Filing

variable {e : Endpoint} {seconds : Int → Prop} {events more : List Event} {session : ServerSession}

theorem Filed.append (h : Filed e seconds events) (hmore : Filed e seconds more) :
    Filed e seconds (events ++ more) := by
  induction h with
  | nothing => exact hmore
  | other event hstore hcapture _ ih => exact .other event hstore hcapture ih
  | stored session shot hn _ ih => exact .stored session shot hn ih

theorem filed_of_about (h : About (fun call => call.isConnect ∨ call.isClose) events) :
    Filed e seconds events := by
  induction events with
  | nil => exact .nothing
  | cons event rest ih =>
    obtain ⟨hfirst, hrest⟩ := List.forall_mem_cons.mp h
    refine .other event ?_ ?_ (ih hrest)
    · rintro call rfl
      cases call <;> simp_all [Event.call, Call.isConnect, Call.isClose, Call.isStore]
    · rintro session shot rfl
      simp [Event.call, Call.isConnect, Call.isClose] at hfirst

end Filing

/-- The error with which a call ended, if it did. -/
def Event.error? : Event → Option Error
  | .ended (.connectHost _) (.returns (.error cause))
  | .ended (.connectFallback _) (.returns (.error cause))
  | .ended (.capture _) (.returns (.error cause)) => some (.driver cause)
  | .ended (.store ..) (.returns (.error cause)) => some (.store cause)
  | _ => none

/-- Nothing happened but that a session was opened, if it was. -/
structure JustOpens (events : List Event) : Prop where
  connects : About (fun call => call.isConnect) events
  nothing : sessionsOf events = [] → events = []

/-- What a screenshot came to, by what happened in its step and the sessions opened until then. -/
structure Pictured (sessions : List OpenSession) (token : String) (events : List Event)
    (result : ActionResult) : Prop where
  kept : ∀ reference, result = .succeeded token true reference ↔
    ∃ session shot name payload, .ended (.capture session) (.returns (.ok shot)) ∈ events ∧
      .ended (.store name payload) (.returns (.ok reference)) ∈ events
  lost : (∀ reference, result ≠ .succeeded token true reference) →
    ∃ cause, result = .failed token cause ∧
      ((∃ session, .server session ∈ sessions ∧ session.backend = .fallback) ∨
        events.getLast?.bind Event.error? = some cause)
  fallback : ∀ session, .server session ∈ sessions → session.backend = .fallback →
    result = .failed token (.driver Server.noScreenshot) ∧ JustOpens events

namespace Server

variable {e : Endpoint} {seconds : Int → Prop} {session : ServerSession} {token : String}
  {work : ServerWork} {events : List Event} {result : ActionResult}

theorem Attempted.about {outcome : Except DriverError ServerSession}
    (h : Attempted e events outcome) : About (fun call => call.isConnect) events := by
  cases h <;> simp [About, Event.call, Call.isConnect]

/-- The session that an attempt ended with, and no other, was opened by it. -/
theorem Attempted.sessions {outcome : Except DriverError ServerSession}
    (h : Attempted e events outcome) :
    sessionsOf events = outcome.toOption.toList.map OpenSession.server := by
  cases h <;> rfl

theorem Attempted.error {cause : DriverError} (h : Attempted e events (.error cause)) :
    events.getLast?.bind Event.error? = some (.driver cause) := by
  cases h <;> rfl

theorem Serving.filed (h : Serving e seconds session token work events result) :
    Filed e seconds events := by
  cases h with
  | refused => exact .nothing
  | operated op answer =>
    exact .other _ (by simp [Call.isStore]) (by simp) (.other _ (by simp) (by simp) .nothing)
  | unpictured h => exact .nothing
  | uncaptured h cause =>
    exact .other _ (by simp [Call.isStore]) (by simp) (.other _ (by simp) (by simp) .nothing)
  | unstored h shot hn cause =>
    exact .stored session shot hn (.other _ (by simp) (by simp [Call.keep]) .nothing)
  | stored h shot hn reference =>
    exact .stored session shot hn (.other _ (by simp) (by simp [Call.keep]) .nothing)

theorem Serving.sessions (h : Serving e seconds session token work events result) :
    sessionsOf events = [] := by
  cases h <;> rfl

theorem Serving.captures (h : Serving e seconds session token work events result)
    {other : ServerSession} (hmem : .capture other ∈ callsOf events) :
    other = session ∧ session.backend = .native := by
  cases h <;> simp_all [Call.keep]

theorem not_mem_of_about (h : About (fun call => call.isConnect) events) {event : Event}
    (hevent : event.call.isConnect = false) : event ∉ events := by
  intro hmem
  rw [h event hmem] at hevent
  cases hevent

theorem failed_ne_succeeded (token reference : String) (cause : Error) :
    ActionResult.failed token cause ≠ .succeeded token true reference := by
  simp [ActionResult.failed, ActionResult.succeeded]

/-- What fails with an error has no image in the store to refer to. -/
theorem pictured_failed {sessions : List OpenSession} {cause : Error}
    (hno : ∀ session shot name payload reference,
      .ended (.capture session) (.returns (.ok shot)) ∈ events →
        .ended (.store name payload) (.returns (.ok reference)) ∉ events)
    (hlost : (∃ session, .server session ∈ sessions ∧ session.backend = .fallback) ∨
      events.getLast?.bind Event.error? = some cause)
    (hfallback : ∀ session, .server session ∈ sessions → session.backend = .fallback →
      cause = .driver noScreenshot ∧ JustOpens events) :
    Pictured sessions token events (.failed token cause) where
  kept reference := by
    refine iff_of_false (failed_ne_succeeded token reference cause) ?_
    rintro ⟨session, shot, name, payload, hcapture, hstore⟩
    exact hno session shot name payload reference hcapture hstore
  lost _ := ⟨cause, rfl, hlost⟩
  fallback session hmem hbackend := by
    obtain ⟨rfl, hopens⟩ := hfallback session hmem hbackend
    exact ⟨rfl, hopens⟩

theorem Attempted.pictured {cause : DriverError} (h : Attempted e events (.error cause)) :
    Pictured [] token events (.failed token (.driver cause)) := by
  refine pictured_failed (fun session shot _ _ _ hcapture => ?_) (Or.inr h.error) (by simp)
  have hconnect := h.about _ hcapture
  cases hconnect

theorem Attempted.justOpens (h : Attempted e events (.ok session)) : JustOpens events := by
  refine ⟨h.about, fun hnone => ?_⟩
  rw [h.sessions] at hnone
  cases hnone

theorem Serving.pictured {opening : List Event} (ho : JustOpens opening)
    (h : Serving e seconds session token .screenshot events result) :
    Pictured [.server session] token (opening ++ events) result := by
  have hcapture : ∀ other shot, .ended (.capture other) (.returns (.ok shot)) ∉ opening :=
    fun _ _ => not_mem_of_about ho.connects rfl
  have hstore : ∀ name payload reference,
      .ended (.store name payload) (.returns (.ok reference)) ∉ opening :=
    fun _ _ _ => not_mem_of_about ho.connects rfl
  cases h with
  | unpictured h =>
    refine pictured_failed ?_ (Or.inl ⟨session, by simp, h⟩) fun _ _ _ => ⟨rfl, by simpa using ho⟩
    simp [hcapture]
  | uncaptured h cause =>
    refine pictured_failed ?_ (Or.inr (by simp [Event.error?])) ?_
    · simp [hcapture]
    · simp [h]
  | unstored h shot hn cause =>
    refine pictured_failed ?_ (Or.inr (by simp [Call.keep, Event.error?])) ?_
    · simp [hstore, Call.keep]
    · simp [h]
  | stored h shot hn reference =>
    refine ⟨fun other => ?_, fun hno => absurd rfl (hno reference), by simp [h]⟩
    simpa [Call.keep, ActionResult.succeeded, hcapture, hstore] using eq_comm

section Steps

variable {ground left : Ground ServerSession Unit} {step : Step ServerWork}
  {other : ServerSession}

theorem filed_of_doing (h : Doing (manner e) seconds ground step events result left) :
    Filed e seconds events := by
  have hconnects : ∀ {outcome events}, Attempted e events outcome → Filed e seconds events :=
    fun h => filed_of_about fun event hmem => Or.inl (h.about event hmem)
  cases h with
  | slept ground token nanos => exact .nothing
  | unopened token work h => exact hconnects h
  | opened h serving => exact (hconnects h).append (Serving.filed serving)
  | held serving => exact Serving.filed serving

/-- The sessions that were opened are the one that is held. -/
theorem sessions_of_doing (h : Doing (manner e) seconds ground step events result left) :
    ground.session.toList.map OpenSession.server ++ sessionsOf events =
      left.session.toList.map .server := by
  cases h with
  | slept ground token nanos => simp
  | unopened token work h => exact Attempted.sessions h
  | opened h serving =>
    simp [Attempted.sessions h, Serving.sessions serving, Except.toOption]
  | held serving => simp [Serving.sessions serving]

theorem captures_of_doing (h : Doing (manner e) seconds ground step events result left)
    (hmem : .capture other ∈ callsOf events) :
    left.session = some other ∧ other.backend = .native := by
  have hconnects : ∀ {outcome events}, Attempted e events outcome →
      .capture other ∉ callsOf events := by
    intro outcome events h hmem
    have hcalled : .called (.capture other) ∈ events := mem_callsOf.mp hmem
    exact not_mem_of_about h.about rfl hcalled
  cases h with
  | slept ground token nanos => cases hmem
  | unopened token work h => exact absurd hmem (hconnects h)
  | opened h serving =>
    rw [callsOf_append, List.mem_append, or_iff_right (hconnects h)] at hmem
    obtain ⟨rfl, hnative⟩ := Serving.captures serving hmem
    exact ⟨rfl, hnative⟩
  | held serving =>
    obtain ⟨rfl, hnative⟩ := Serving.captures serving hmem
    exact ⟨rfl, hnative⟩

theorem pictured_of_doing
    (h : Doing (manner e) seconds ground ⟨token, .operate .screenshot⟩ events result left) :
    Pictured (left.session.toList.map .server) token events result := by
  cases h with
  | unopened token work h => exact Attempted.pictured h
  | opened h serving => exact Serving.pictured (Attempted.justOpens h) serving
  | held serving =>
    have hnothing : JustOpens [] := ⟨by simp [About], fun _ => rfl⟩
    exact Serving.pictured hnothing serving

variable {steps : List (Step ServerWork)} {segments : List (List Event)}
  {results : List ActionResult}

theorem filed_of_ran (h : Ran (manner e) seconds ground steps segments results) :
    Filed e seconds segments.flatten := by
  induction h with
  | finished ground => exact .nothing
  | failed failure h later => simpa using filed_of_doing h
  | next success h more ih => exact (filed_of_doing h).append ih

/-- The console is captured on the session of the run only, and by the native driver. -/
theorem captures_of_ran (h : Ran (manner e) seconds ground steps segments results)
    (hmem : .capture other ∈ callsOf segments.flatten) : other.backend = .native ∧
      .server other ∈ ground.session.toList.map .server ++ sessionsOf segments.flatten := by
  induction h with
  | finished ground => cases hmem
  | failed failure h later =>
    rw [List.flatten_singleton] at hmem ⊢
    obtain ⟨hleft, hnative⟩ := captures_of_doing h hmem
    rw [sessions_of_doing h, hleft]
    exact ⟨hnative, List.mem_singleton_self _⟩
  | @next _ left _ events _ _ segments _ success h more ih =>
    rw [List.flatten_cons, sessionsOf_append, ← List.append_assoc, sessions_of_doing h]
    rw [List.flatten_cons, callsOf_append] at hmem
    rcases List.mem_append.mp hmem with hmem | hmem
    · obtain ⟨hleft, hnative⟩ := captures_of_doing h hmem
      rw [hleft]
      exact ⟨hnative, by simp⟩
    · exact ih hmem

/-- What one step of a run did, on the session that was opened until its end. -/
theorem step_at_of_ran (h : Ran (manner e) seconds ground steps segments results) {i : Nat}
    (hstep : steps[i]? = some step) (hevents : segments[i]? = some events)
    (hresult : results[i]? = some result) :
    ∃ before left, Doing (manner e) seconds before step events result left ∧
      ground.session.toList.map .server ++ sessionsOf (segments.take (i + 1)).flatten =
        left.session.toList.map .server ∧
      (result.isFailure → results.length = i + 1) := by
  induction h generalizing i with
  | finished ground => cases hstep
  | @failed ground left _ _ _ failure h later =>
    cases i with
    | zero =>
      cases hstep
      cases hevents
      cases hresult
      exact ⟨ground, left, h, by simpa using sessions_of_doing h, fun _ => rfl⟩
    | succ i => cases hresult
  | @next ground left _ _ _ _ segments _ success h more ih =>
    cases i with
    | zero =>
      cases hstep
      cases hevents
      cases hresult
      refine ⟨ground, left, h, by simpa using sessions_of_doing h, fun hfails => ?_⟩
      rw [success] at hfails
      cases hfails
    | succ i =>
      obtain ⟨before, last, hdoing, hsessions, hlast⟩ := ih hstep hevents hresult
      refine ⟨before, last, hdoing, ?_, fun hfails => congrArg Nat.succ (hlast hfails)⟩
      rw [List.take_succ_cons, List.flatten_cons, sessionsOf_append, ← List.append_assoc,
        sessions_of_doing h]
      exact hsessions

end Steps

end Server

/-- Which key is that of an image from the fallback driver. -/
theorem Call.isCapture_of_key {call : Call} (h : call.key = "fallback.screenshot") :
    ∃ session, call = .capture session ∧ session.backend = .fallback := by
  cases call with
  | capture session =>
    refine ⟨session, rfl, ?_⟩
    cases hbackend : session.backend with
    | fallback => rfl
    | native => simp [key, hbackend, Backend.key] at h
  | server session op =>
    cases hbackend : session.backend <;> cases op <;>
      simp [key, hbackend, Backend.key, ServerOp.key] at h
  | closeServer session =>
    cases hbackend : session.backend <;> simp [key, hbackend, Backend.key] at h
  | chassis session op => cases op <;> simp [key, ChassisOp.key] at h
  | blade session op slot => cases op <;> simp [key, BladeOp.key] at h
  | _ => simp [key] at h

/-- A run on a server without a crash never asks the fallback driver for an image. Each image that
the native driver gives is stored at once, under the name for its server, and nothing else is. Each
step that is reached has a result. That of a screenshot is a success, and refers to where its image
is, just when both calls go well. Otherwise it is the last one, with the error of the last call, or
the one that says that the fallback driver has no images, with no call but to connect. -/
theorem Plan.run_files_screenshots (address : String) (steps : List (Step ServerWork))
    (world : World σ) (credentials : Credentials) (scene : Scene σ) :
    let (report, after) := (Plan.server address steps).run world credentials none scene
    ∃ events, after.log = scene.log ++ events ∧ (crashesOf events = [] →
      report.halt = .finished ∧
      (∀ call ∈ callsOf events, call.key ≠ "fallback.screenshot") ∧
      (∀ session, .capture session ∈ callsOf events →
        session.backend = .native ∧ .server session ∈ sessionsOf events) ∧
      Filed ⟨address, credentials⟩ (SecondIn scene.origin scene.now after.now) events ∧
      world.Heard scene.world events after.world ∧
      (report.results.length = steps.length ∨
        ∃ last, report.results.getLast? = some last ∧ last.isFailure) ∧
      (∀ i < steps.length,
        (∀ j < i, ∃ earlier, report.results[j]? = some earlier ∧ earlier.isFailure = false) →
          i < report.results.length) ∧
      ∃ (segments : List (List Event)) (closing : List Event),
        events = segments.flatten ++ closing ∧ About (fun call => call.isClose) closing ∧
        segments.length = report.results.length ∧
        (Plan.server address steps).Ran credentials
          (SecondIn scene.origin scene.now after.now) segments report.results ∧
        ∀ (i : Nat) (token : String) (segment : List Event) (result : ActionResult),
          steps[i]? = some ⟨token, .operate .screenshot⟩ → segments[i]? = some segment →
          report.results[i]? = some result →
            Pictured (sessionsOf (segments.take (i + 1)).flatten) token segment result ∧
            (result.isFailure → report.results.length = i + 1)) := by
  obtain ⟨events, hlog, hfinishes⟩ :=
    (Plan.server address steps).run_finishes world credentials scene
  have hran := (Plan.server address steps).run_ran world credentials scene
  generalize (Plan.server address steps).run world credentials none scene = ran
    at hlog hfinishes hran ⊢
  obtain ⟨report, after⟩ := ran
  refine ⟨events, hlog, fun hnone => ?_⟩
  have hhalt := hfinishes hnone
  obtain ⟨segments, closing, hleads, hclosing, hran⟩ := hran hhalt
  have htokens : (Plan.server address steps).tokens.length = steps.length := List.length_map _
  obtain rfl : events = segments.flatten ++ closing :=
    List.append_cancel_left (hlog.symm.trans hleads.log)
  have hcaptures : ∀ session, .capture session ∈ callsOf (segments.flatten ++ closing) →
      session.backend = .native ∧ .server session ∈ sessionsOf (segments.flatten ++ closing) := by
    intro session hmem
    rw [callsOf_append] at hmem
    rw [sessionsOf_append]
    rcases List.mem_append.mp hmem with hmem | hmem
    · obtain ⟨hnative, hopened⟩ := Server.captures_of_ran hran hmem
      exact ⟨hnative, List.mem_append_left _ (by simpa using hopened)⟩
    · cases hclosing _ (mem_callsOf.mp hmem)
  have hfiled := (Server.filed_of_ran hran).append
    (filed_of_about fun event hmem => Or.inr (hclosing event hmem))
  refine ⟨hhalt, fun call hmem hkey => ?_, hcaptures, hfiled, hleads.heard, ?_,
    fun i hi hearlier => ?_, segments, closing, rfl, hclosing, hran.length_eq, hran,
    fun i token segment result hstep hsegment hresult => ?_⟩
  · obtain ⟨session, rfl, hfallback⟩ := Call.isCapture_of_key hkey
    rw [(hcaptures session hmem).1] at hfallback
    cases hfallback
  · rw [← htokens]
    exact hran.followed.complete_or_failed
  · exact hran.followed.reached (htokens ▸ hi) hearlier
  · obtain ⟨before, left, hdoing, hsessions, hlast⟩ :=
      Server.step_at_of_ran hran hstep hsegment hresult
    rw [Option.toList_none, List.map_nil, List.nil_append] at hsessions
    rw [hsessions]
    exact ⟨Server.pictured_of_doing hdoing, hlast⟩

end Outband
