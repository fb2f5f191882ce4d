import Outband.Proofs.BladeSession
import Outband.Proofs.Compilation
import Outband.Proofs.Cues
/-! The fallback driver stands in for the native one. Two servers that differ only in the driver
that serves them, and answer alike, are handled alike. -/

namespace Outband

/-- The session as the fallback driver would have opened it. -/
def ServerSession.onFallback (session : ServerSession) : ServerSession :=
  { session with backend := .fallback }

namespace Call

def onFallback : Call → Call
  | .server session op => .server session.onFallback op
  | .capture session => .capture session.onFallback
  | .closeServer session => .closeServer session.onFallback
  | call => call

/-- Either driver does this for a server, so that it does not matter which one serves it. An image
is not among it. -/
inductive Shared : Call → Prop
  | operate {session : ServerSession} (op : ServerOp) (h : session.backend = .native) :
    Shared (.server session op)
  | close {session : ServerSession} (h : session.backend = .native) : Shared (.closeServer session)

/-- What the keys of these calls say after the name of the driver. -/
def sharedNames : List String := "close" :: ServerOp.all.map ServerOp.key

theorem Shared.keys {call : Call} (h : call.Shared) :
    ∃ name ∈ sharedNames, call.key = "native." ++ name ∧
      call.onFallback.key = "fallback." ++ name := by
  cases h with
  | operate op h =>
    refine ⟨op.key, ?_, ?_, rfl⟩
    · cases op <;> decide
    · rw [key, h]
      rfl
  | close h =>
    refine ⟨"close", by decide, ?_, rfl⟩
    rw [key, h]
    rfl

/-- In a trace the two differ in the name of the driver. -/
theorem Shared.lines {call : Call} (h : call.Shared) :
    ∃ name, call.line = "native." ++ name ∧ call.onFallback.line = "fallback." ++ name := by
  obtain ⟨name, -, hnative, hfallback⟩ := h.keys
  have hline : ∀ call : Call, call.details = [] → call.line = call.key := by
    intro call hnone
    rw [line, hnone]
    rfl
  refine ⟨name, ?_, ?_⟩
  · rw [hline call (by cases h <;> rfl), hnative]
  · rw [hline _ (by cases h <;> rfl), hfallback]

end Call

namespace Script

/-- The fallback driver of the one script has the cues that the native driver of the other has. -/
structure Follows (s t : Script) : Prop where
  cues : ∀ name ∈ Call.sharedNames,
    t.cues.lookup ("fallback." ++ name) = s.cues.lookup ("native." ++ name)
  driver : t.driver = s.driver

variable {s t : Script} {call : Call}

theorem Follows.take (h : Follows s t) {name : String} (hname : name ∈ Call.sharedNames) :
    (t.take ("fallback." ++ name)).1 = (s.take ("native." ++ name)).1 ∧
      Follows (s.take ("native." ++ name)).2 (t.take ("fallback." ++ name)).2 := by
  obtain ⟨hcue, hself⟩ := take_eq_of_lookup_eq (h.cues name hname)
  refine ⟨hcue, fun other hother => ?_, ?_⟩
  · by_cases hsame : other = name
    · rw [hsame, hself]
    · have hne : ∀ driver : String, driver ++ other ≠ driver ++ name := by
        intro driver heq
        have hlist := congrArg String.toList heq
        rw [String.toList_append, String.toList_append] at hlist
        exact hsame (String.toList_injective (List.append_cancel_left hlist))
      rw [lookup_take_of_ne (hne _), lookup_take_of_ne (hne _), h.cues other hother]
  · rw [take_driver, take_driver, h.driver]

/-- To connect uses up no cue that a driver answers by. -/
theorem lookup_of_connect {call : Call} (h : call.isConnect) (s : Script) (backend : Backend)
    (name : String) :
    (world call s).2.cues.lookup (backend.key ++ "." ++ name) =
      s.cues.lookup (backend.key ++ "." ++ name) := by
  refine lookup_take_of_ne fun heq => ?_
  have hlist := congrArg String.toList heq
  cases call <;> simp only [Call.isConnect, Bool.false_eq_true] at h
  all_goals cases backend <;> simp [Call.key, Backend.key] at hlist

theorem Follows.native_connects (h : Follows s t) (hcall : call.isConnect) :
    Follows (world call s).2 t where
  cues name hname := (h.cues name hname).trans (lookup_of_connect hcall s .native name).symm
  driver := h.driver.trans (take_driver s _).symm

theorem Follows.fallback_connects (h : Follows s t) (hcall : call.isConnect) :
    Follows s (world call t).2 where
  cues name hname := (lookup_of_connect hcall t .fallback name).trans (h.cues name hname)
  driver := (take_driver t _).trans h.driver

theorem Follows.shared (h : Follows s t) (hcall : call.Shared) :
    (t.take call.onFallback.key).1 = (s.take call.key).1 ∧
      Follows (world call s).2 (world call.onFallback t).2 := by
  obtain ⟨name, hname, hnative, hfallback⟩ := hcall.keys
  have htake := h.take hname
  rw [← hnative, ← hfallback] at htake
  exact htake

/-- Either driver says of itself what the script says. -/
theorem driver_of_connect {e : Endpoint} {driver : Driver} :
    ((world (.connectHost e) s).1.outcome = .returns (.ok driver) → driver = s.driver) ∧
      ((world (.connectFallback e) s).1.outcome = .returns (.ok driver) → driver = s.driver) := by
  have hdriver := take_driver s
  constructor <;> intro h <;> simp only [world, answer, hdriver] at h
  · cases hcue : (s.take (Call.connectHost e).key).1 <;> simp_all
  · cases hcue : (s.take (Call.connectFallback e).key).1 <;> simp_all

section Answering

variable {session : ServerSession} (hnative : session.backend = .native)

include hnative

theorem Follows.operate (h : Follows s t) (op : ServerOp) :
    (world (.server session.onFallback op) t).1.outcome =
      (world (.server session op) s).1.outcome := by
  have hcue := (h.shared (.operate op hnative)).1
  rw [Call.onFallback] at hcue
  simp only [world, hcue]
  cases (s.take (Call.server session op).key).1 <;> rfl

theorem Follows.close (h : Follows s t) :
    (world (.closeServer session.onFallback) t).1.outcome =
      (world (.closeServer session) s).1.outcome := by
  have hcue := (h.shared (.close hnative)).1
  rw [Call.onFallback] at hcue
  simp only [world, hcue]
  cases (s.take (Call.closeServer session).key).1 <;> rfl

end Answering

end Script

/-- Since these calls the same was asked in both scenes, of the native driver in the one and of the
fallback driver in the other. -/
structure Twins (base base' : List Call) (s t : Scene Script) : Prop where
  world : s.world.Follows t.world
  calls : ∃ calls, s.calls = base ++ calls ∧ t.calls = base' ++ calls.map Call.onFallback ∧
    ∀ call ∈ calls, call.Shared

@[simp] theorem Scene.after_calls (world : World σ) (s : Scene σ) (call : Call) :
    (s.after world call).calls = s.calls ++ [call] := by
  simp [Scene.calls_eq]

/-- What became of a job in one scene and of its like in the other: the same value, or a crash in
the same call. -/
def SameEnd (base base' : List Call) (r r' : Job α × Scene Script) : Prop :=
  Twins base base' r.2 r'.2 ∧
    ((∃ value, r.1 = .done value ∧ r'.1 = .done value) ∨
      ∃ call : Call, call.Shared ∧ r.1 = .crashed (.call call) ∧
        r'.1 = .crashed (.call call.onFallback))

section Asking

variable {base base' : List Call} {s t : Scene Script} {session : ServerSession}

theorem Twins.after {call : Call} (h : Twins base base' s t) (hcall : call.Shared) :
    Twins base base' (s.after Script.world call) (t.after Script.world call.onFallback) := by
  obtain ⟨calls, hs, ht, hshared⟩ := h.calls
  refine ⟨(h.world.shared hcall).2, calls ++ [call], ?_, ?_, ?_⟩
  · rw [Scene.after_calls, hs, List.append_assoc]
  · simp [ht]
  · intro other hmem
    rcases List.mem_append.mp hmem with hmem | hmem
    · exact hshared other hmem
    · rw [List.mem_singleton.mp hmem]
      exact hcall

theorem Twins.pause (h : Twins base base' s t) (span : Time) (value : α) :
    SameEnd base base' ((Job.pause span (.done value)).carry Script.world none s)
      ((Job.pause span (.done value)).carry Script.world none t) := by
  simp only [Job.carry, Job.allows_none, if_true]
  exact ⟨⟨h.world, h.calls⟩, Or.inl ⟨value, rfl, rfl⟩⟩

theorem Twins.operate (h : Twins base base' s t) (hnative : session.backend = .native)
    (op : ServerOp) :
    SameEnd base base' ((Job.call (.server session op)).carry Script.world none s)
      ((Job.call (.server session.onFallback op)).carry Script.world none t) := by
  have hafter := h.after (.operate op hnative)
  rw [Job.call, Job.call, Job.carry_ask_none, Job.carry_ask_none, h.world.operate hnative op]
  cases (Script.world (.server session op) s.world).1.outcome with
  | returns answer => exact ⟨hafter, Or.inl ⟨answer, rfl, rfl⟩⟩
  | crashes => exact ⟨hafter, Or.inr ⟨_, .operate op hnative, rfl, rfl⟩⟩

theorem Twins.close (h : Twins base base' s t) (hnative : session.backend = .native) :
    SameEnd base base' ((Job.call (.closeServer session)).carry Script.world none s)
      ((Job.call (.closeServer session.onFallback)).carry Script.world none t) := by
  have hafter := h.after (.close hnative)
  rw [Job.call, Job.call, Job.carry_ask_none, Job.carry_ask_none, h.world.close hnative]
  cases (Script.world (.closeServer session) s.world).1.outcome with
  | returns answer => exact ⟨hafter, Or.inl ⟨answer, rfl, rfl⟩⟩
  | crashes => exact ⟨hafter, Or.inr ⟨_, .close hnative, rfl, rfl⟩⟩

/-- What the driver refuses without a call is refused by either. -/
theorem Twins.perform (h : Twins base base' s t) (hnative : session.backend = .native)
    (op : ServerOp) :
    SameEnd base base' ((session.perform op).carry Script.world none s)
      ((session.onFallback.perform op).carry Script.world none t) := by
  have hrefused : ∀ err : DriverError,
      SameEnd base base' (Job.done (.error err : Except DriverError Bool), s)
        (.done (.error err), t) :=
    fun err => ⟨h, Or.inl ⟨_, rfl, rfl⟩⟩
  have hdriver : session.onFallback.driver = session.driver := rfl
  rw [ServerSession.perform, ServerSession.perform, hdriver]
  cases session.driver.refusal? op with
  | none => exact h.operate hnative op
  | some cause => exact hrefused cause

end Asking

/-- Two connections of the same making, but that the one session is with the native driver and the
other with the fallback driver. -/
structure Paired (base base' : List Call) (session : ServerSession)
    (c d : Connection Script ServerSession) : Prop where
  native : c.link.phase = .connected session
  fallback : d.link.phase = .connected session.onFallback
  scene : Twins base base' c.scene d.scene

/-- Both tasks come to the same value, or to a crash in the same call, on connections of which `P`
holds. -/
def Alongside (P : Connection σ H → Connection σ H → Prop) (r r' : Task H α × Connection σ H) :
    Prop :=
  (∃ value c d, r = (.done value, c) ∧ r' = (.done value, d) ∧ P c d) ∨
    ∃ call c d, call.Shared ∧ r = (.crashed (.call call), c) ∧
      r' = (.crashed (.call call.onFallback), d) ∧ P c d

/-- How the run on the fallback driver halts. -/
def Halt.onFallback : Halt → Halt
  | .crashed (.call call) => .crashed (.call call.onFallback)
  | halt => halt

section Pairing

variable {e : Endpoint} {base base' : List Call} {session : ServerSession}
  {c d : Connection Script ServerSession}

theorem SameEnd.work {job job' : Job β} (f : β → α)
    (h : SameEnd base base' (job.carry Script.world none c.scene)
      (job'.carry Script.world none d.scene)) :
    Alongside (fun c' d' => Twins base base' c'.scene d'.scene ∧ c'.link = c.link ∧
        d'.link = d.link)
      ((Task.work job fun value => .done (f value)).carry Script.world 0 none c)
      ((Task.work job' fun value => .done (f value)).carry Script.world 0 none d) := by
  rw [Task.carry, Task.carry]
  generalize job.carry Script.world none c.scene = carried at h ⊢
  generalize job'.carry Script.world none d.scene = carried' at h ⊢
  obtain ⟨job, s⟩ := carried
  obtain ⟨job', t⟩ := carried'
  obtain ⟨hscene, ⟨value, rfl, rfl⟩ | ⟨call, hcall, rfl, rfl⟩⟩ := h
  · exact Or.inl ⟨_, _, _, rfl, rfl, hscene, rfl, rfl⟩
  · exact Or.inr ⟨call, _, _, hcall, rfl, rfl, hscene, rfl, rfl⟩

theorem Alongside.mono {P Q : Connection σ H → Connection σ H → Prop}
    {r r' : Task H α × Connection σ H} (h : Alongside P r r') (hPQ : ∀ c d, P c d → Q c d) :
    Alongside Q r r' := by
  rcases h with ⟨value, c, d, hr, hr', hP⟩ | ⟨call, c, d, hcall, hr, hr', hP⟩
  · exact Or.inl ⟨value, c, d, hr, hr', hPQ c d hP⟩
  · exact Or.inr ⟨call, c, d, hcall, hr, hr', hPQ c d hP⟩

/-- Whatever is to be done with a server needs its session, and fails for want of one. -/
theorem server_perform_enters (e : Endpoint) (token : String) (work : ServerWork) :
    ∃ next, (Executor.server e).perform token work = .enter (Server.connect e) next ∧
      ∀ cause, next (.error cause) = .done (.failed token (.driver cause)) := by
  cases work <;> exact ⟨_, rfl, fun _ => rfl⟩

/-- What is to be done with a server once its session is open. -/
theorem server_perform (world : World σ) (limit : Limit) (token : String) (op : ServerOp)
    {c : Connection σ ServerSession} (hphase : c.link.phase = .connected session) :
    ((Executor.server e).perform token (.operate op)).carry world 0 limit c =
      (Task.work (session.perform op) fun r =>
        .done (ActionResult.ofStatus token r)).carry world 0 limit c :=
  carry_enter_connected (Server.connect e) _ hphase

/-- A step comes to the same on both, unless it captures the console. -/
theorem Paired.step (h : Paired base base' session c d) (hnative : session.backend = .native)
    {step : Step ServerWork} (hstep : step.work ≠ .operate .screenshot) :
    Alongside (Paired base base' session) ((step.task (.server e)).carry Script.world 0 none c)
      ((step.task (.server e)).carry Script.world 0 none d) := by
  have hpaired : ∀ c' d' : Connection Script ServerSession,
      Twins base base' c'.scene d'.scene ∧ c'.link = c.link ∧ d'.link = d.link →
        Paired base base' session c' d' := by
    rintro c' d' ⟨hscene, hc, hd⟩
    exact ⟨by rw [hc, h.native], by rw [hd, h.fallback], hscene⟩
  obtain ⟨token, work⟩ := step
  cases work with
  | sleep nanos =>
    exact ((h.scene.pause (milliseconds nanos) (ActionResult.succeeded token true)).work id).mono
      hpaired
  | operate work =>
    cases work with
    | screenshot => exact absurd rfl hstep
    | operate op =>
      simp only [Step.task]
      rw [server_perform Script.world none token op h.native,
        server_perform Script.world none token op h.fallback]
      exact ((h.scene.perform hnative op).work _).mono hpaired

theorem Paired.runSteps (h : Paired base base' session c d) (hnative : session.backend = .native)
    {steps : List (Step ServerWork)} (hsteps : ∀ step ∈ steps, step.work ≠ .operate .screenshot) :
    ∃ results halt c' d', halt ≠ .dropped ∧
      Outband.runSteps Script.world none (.server e) steps c = (results, halt, c') ∧
      Outband.runSteps Script.world none (.server e) steps d = (results, halt.onFallback, d') ∧
      Paired base base' session c' d' := by
  induction steps generalizing c d with
  | nil => exact ⟨[], .finished, c, d, by simp, rfl, rfl, h⟩
  | cons step rest ih =>
    obtain ⟨hfirst, hlater⟩ := List.forall_mem_cons.mp hsteps
    rcases h.step (e := e) hnative hfirst with
      ⟨result, c', d', hc, hd, hpaired⟩ | ⟨call, c', d', -, hc, hd, hpaired⟩
    · cases hfails : result.isFailure with
      | true =>
        exact ⟨[result], .finished, c', d', by simp, runSteps_failed hc hfails,
          runSteps_failed hd hfails, hpaired⟩
      | false =>
        obtain ⟨results, halt, c'', d'', hhalt, hruns, hruns', hend⟩ := ih hpaired hlater
        refine ⟨result :: results, halt, c'', d'', hhalt, ?_, ?_, hend⟩
        · rw [Outband.runSteps, hc]
          simp [hfails, hruns]
        · rw [Outband.runSteps, hd]
          simp [hfails, hruns']
    · exact ⟨[], .crashed (.call call), c', d', by simp, runSteps_crashed hc, runSteps_crashed hd,
        hpaired⟩

/-- The session is taken off the link before it is closed. -/
theorem server_close (world : World σ) (limit : Limit) {c : Connection σ ServerSession}
    (hphase : c.link.phase = .connected session) :
    Server.close.carry world 0 limit c =
      (Task.work (Job.call (.closeServer session)) .done).carry world 0 limit
        { c with link := c.link.detach.2 } := by
  simp only [Server.close, Task.carry, Link.detach, hphase]

theorem Paired.finish (h : Paired base base' session c d) (hnative : session.backend = .native)
    (start start' : Time) (results : List ActionResult) (halt : Halt) :
    let ended := (Executor.server e).finish Script.world none start results halt c
    let ended' :=
      (Executor.server e).finish Script.world none start' results halt.onFallback d
    ended'.1.results = ended.1.results ∧ ended'.1.halt = ended.1.halt.onFallback ∧
      ended'.1.cleanups = ended.1.cleanups ∧ Twins base base' ended.2 ended'.2 := by
  have hclosed : Alongside (fun c' d' => Twins base base' c'.scene d'.scene ∧
        c'.link = c.link.detach.2 ∧ d'.link = d.link.detach.2)
      (Server.close.carry Script.world 0 none c) (Server.close.carry Script.world 0 none d) := by
    rw [server_close Script.world none h.native, server_close Script.world none h.fallback]
    exact (h.scene.close hnative).work (c := { c with link := c.link.detach.2 })
      (d := { d with link := d.link.detach.2 }) id
  have hclose : (Executor.server e).close = Server.close := rfl
  simp only [Executor.finish, hclose]
  rcases hclosed with
    ⟨value, c', d', hc, hd, hscene, -, -⟩ | ⟨call, c', d', -, hc, hd, hscene, hlink, hlink'⟩
  · rw [hc, hd]
    exact ⟨rfl, rfl, rfl, hscene⟩
  · rw [hc, hd]
    dsimp only
    -- The second release finds no session on the link.
    rw [release_of_idle (server_keeps e) Script.world (by rw [hlink]; rfl),
      release_of_idle (server_keeps e) Script.world (by rw [hlink']; rfl)]
    exact ⟨rfl, rfl, rfl, hscene⟩

/-- Whoever opens the session goes on as if it had been open. -/
theorem carry_enter_opens {world : World σ} (connect : Job (Except DriverError H))
    (next : Except DriverError H → Task H α) {c : Connection σ H} (hidle : c.link.phase = .idle)
    {session : H} {s : Scene σ}
    (hconnect : connect.carry world none c.scene = (.done (.ok session), s)) :
    (Task.enter connect next).carry world 0 none c =
      (Task.enter connect next).carry world 0 none
        { c with
          link := ⟨.connected session, c.link.attempts ++ [.ended (.ok session)]⟩
          scene := s } := by
  rw [carry_enter_idle world none 0 connect next hidle, hconnect]
  exact (carry_enter_connected connect next rfl).symm

/-- To connect from this scene makes these calls, opens this session and leaves the world in this
state. -/
def Opens (world : World σ) (e : Endpoint) (scene : Scene σ) (session : ServerSession) (after : σ)
    (calls : List Call) : Prop :=
  ∀ s : Scene σ, s.world = scene.world → s.log = scene.log →
    ∃ s' : Scene σ, (Server.connect e).carry world none s = (.done (.ok session), s') ∧
      s'.world = after ∧ s'.calls = scene.calls ++ calls

/-- The first action that is no sleep opens the session. From there on the run goes as on an open
connection. -/
theorem Opens.run {world : World σ} {scene : Scene σ} {after : σ} {calls : List Call}
    (h : Opens world e scene session after calls) {sleeps : List (Step ServerWork)}
    (hsleeps : ∀ step ∈ sleeps, step.waits) (token : String) (op : ServerOp)
    (rest : List (Step ServerWork)) :
    ∃ c : Connection σ ServerSession, c.link.phase = .connected session ∧ c.scene.world = after ∧
      c.scene.calls = scene.calls ++ calls ∧ ∀ results halt d, halt ≠ .dropped →
        runSteps world none (.server e) (⟨token, .operate (.operate op)⟩ :: rest) c =
          (results, halt, d) →
        (Executor.server e).run world none
            (sleeps ++ ⟨token, .operate (.operate op)⟩ :: rest) scene =
          (Executor.server e).finish world none scene.now
            (sleeps.map (fun step => .succeeded step.token true) ++ results) halt d := by
  obtain ⟨s, hworld, hlog, hrun⟩ := runSteps_sleeps world sleeps hsleeps { scene := scene }
  obtain ⟨s', hconnect, hafter, hcalls⟩ := h s hworld hlog
  refine ⟨{ link := ⟨.connected session, [.ended (.ok session)]⟩, scene := s' }, rfl, hafter,
    hcalls, fun results halt d hhalt hruns => run_eq_finish ?_ hhalt⟩
  have hstep : runSteps world none (.server e) (⟨token, .operate (.operate op)⟩ :: rest)
      { scene := s } = (results, halt, d) :=
    (runSteps_congr
      (carry_enter_opens (c := { scene := s }) (Server.connect e) _ rfl hconnect)).trans hruns
  rw [hrun, hstep]

theorem opens_native {world : World σ} {scene : Scene σ} {driver : Driver}
    (h : (world (.connectHost e) scene.world).1.outcome = .returns (.ok driver)) :
    Opens world e scene ⟨.native, e, driver⟩ (world (.connectHost e) scene.world).2
      [.connectHost e] := by
  intro s hworld hlog
  rw [← hworld] at h
  refine ⟨s.after world (.connectHost e), ?_, ?_, ?_⟩
  · rw [Server.connect, Job.carry_ask_none, h]
    rfl
  · exact congrArg (fun w => (world (.connectHost e) w).2) hworld
  · rw [Scene.after_calls, Scene.calls_eq, Scene.calls_eq, hlog]

theorem opens_fallback {world : World σ} {scene : Scene σ} {driver : Driver} {cause : DriverError}
    (hunknown : (world (.connectHost e) scene.world).1.outcome = .returns (.error cause))
    (hcause : cause.isUnsupported)
    (h : (world (.connectFallback e) (world (.connectHost e) scene.world).2).1.outcome =
      .returns (.ok driver)) :
    Opens world e scene ⟨.fallback, e, driver⟩
      (world (.connectFallback e) (world (.connectHost e) scene.world).2).2
      [.connectHost e, .connectFallback e] := by
  intro s hworld hlog
  rw [← hworld] at hunknown h
  refine ⟨(s.after world (.connectHost e)).after world (.connectFallback e), ?_, ?_, ?_⟩
  · rw [Server.connect, Job.carry_ask_none, hunknown]
    simp only [hcause, if_true]
    rw [Job.carry_ask_none]
    have hasked : (world (.connectFallback e) (s.after world (.connectHost e)).world).1.outcome =
        .returns (.ok driver) := h
    rw [hasked]
    rfl
  · exact congrArg (fun w => (world (.connectFallback e) (world (.connectHost e) w).2).2) hworld
  · simp [Scene.calls_eq, hlog]

end Pairing

namespace Step

variable {kind : Kind} {token : String} {tokens : List String}

/-- Every step of a sequence is the step for one of its tokens. -/
theorem exists_token {supported : Action → Option ω} {steps : List (Step ω)}
    (h : ofTokens kind supported tokens = .ok steps) :
    ∀ step ∈ steps, ∃ token ∈ tokens, ofToken kind supported token = .ok step := by
  induction tokens generalizing steps with
  | nil =>
    cases h
    simp
  | cons token rest ih =>
    obtain ⟨step, more, hstep, hmore, rfl⟩ := ofTokens_cons_eq_ok.mp h
    refine List.forall_mem_cons.mpr ⟨⟨token, List.mem_cons_self, hstep⟩, fun other hmem => ?_⟩
    obtain ⟨token', hmem', htoken'⟩ := ih hmore other hmem
    exact ⟨token', List.mem_cons_of_mem _ hmem', htoken'⟩

/-- Only its own token asks for a screenshot. -/
theorem token_of_screenshot {step : Step ServerWork}
    (h : ofToken kind Action.serverWork? token = .ok step)
    (hwork : step.work = .operate .screenshot) : token = Action.screenshot.token := by
  unfold ofToken classify at h
  cases haction : Action.ofToken? token with
  | some action =>
    rw [haction] at h
    rw [← Action.ofToken?_eq_some_iff.mp haction]
    cases action <;> cases h <;> first | rfl | cases hwork
  | none =>
    rw [haction] at h
    cases hsleep : isSleep token with
    | true =>
      simp only [hsleep, if_true] at h
      cases hduration : sleepDuration token <;> rw [hduration] at h <;> cases h
      cases hwork
    | false =>
      simp only [hsleep] at h
      cases h

end Step

namespace Plan

variable {params : Params} {tokens : List String} {plan : Plan}

/-- A host plan acts on a server, and captures its console only where a token says so. -/
theorem server_of_compile (h : compile .host params tokens = .ok plan) :
    ∃ address steps, plan = .server address steps ∧
      (Action.screenshot.token ∉ tokens → ∀ step ∈ steps, step.work ≠ .operate .screenshot) := by
  unfold compile Target.ofParams Target.hostOf at h
  cases haddress : Target.textParam params Target.hostParam with
  | error cause =>
    rw [haddress] at h
    cases h
  | ok address =>
    rw [haddress] at h
    cases hsteps : Step.ofTokens .host Action.serverWork? tokens with
    | error cause =>
      have hplan :
          (server address <$> Step.ofTokens .host Action.serverWork? tokens) = .ok plan := h
      rw [hsteps] at hplan
      cases hplan
    | ok steps =>
      have hplan :
          (server address <$> Step.ofTokens .host Action.serverWork? tokens) = .ok plan := h
      rw [hsteps] at hplan
      cases hplan
      refine ⟨address, steps, rfl, fun hno step hmem hwork => ?_⟩
      obtain ⟨token, htoken, hstep⟩ := Step.exists_token hsteps step hmem
      rw [Step.token_of_screenshot hstep hwork] at htoken
      exact hno htoken

/-- Without an action to do, no driver is asked for anything. -/
theorem run_waits (world : World σ) (e : Endpoint) {steps : List (Step ServerWork)}
    (hsteps : ∀ step ∈ steps, step.waits) (scene : Scene σ) :
    let ended := (Executor.server e).run world none steps scene
    ended.1.results = steps.map (fun step => .succeeded step.token true) ∧
      ended.1.halt = .finished ∧ ended.1.cleanups = 1 ∧ ended.2.calls = scene.calls := by
  obtain ⟨s, -, hlog, hrun⟩ := runSteps_sleeps world steps hsteps { scene := scene }
  have hruns := hrun (.server e) []
  rw [List.append_nil] at hruns
  intro ended
  have hended : ended = (Executor.server e).finish world none scene.now
      (steps.map (fun step => .succeeded step.token true) ++ []) .finished { scene := s } :=
    run_eq_finish hruns (by simp)
  rw [hended, Executor.finish, close_of_idle (server_keeps e) world none rfl, List.append_nil]
  exact ⟨rfl, rfl, rfl, by simp [Scene.calls_eq, hlog]⟩

/-- A plan without screenshots comes to the same on a server that only the fallback driver knows as
on one that the native driver knows, if both answer alike: the same results, or a crash in the same
call. The calls differ in the one that opens the session with the fallback driver, and in the driver
that all calls after it are made to. -/
theorem run_fallback_like_native (hplan : compile .host params tokens = .ok plan)
    (hscreenshot : Action.screenshot.token ∉ tokens) (credentials : Credentials)
    (s t : Scene Script) (hfollows : s.world.Follows t.world) :
    ∃ address steps, plan = .server address steps ∧
      let e : Endpoint := ⟨address, credentials⟩
      let native := plan.run Script.world credentials none s
      let fallback := plan.run Script.world credentials none t
      ∀ driver driver' cause,
        (Script.world (.connectHost e) s.world).1.outcome = .returns (.ok driver) →
        (Script.world (.connectHost e) t.world).1.outcome = .returns (.error cause) →
        cause.isUnsupported →
        (Script.world (.connectFallback e) (Script.world (.connectHost e) t.world).2).1.outcome =
          .returns (.ok driver') →
        fallback.1.results = native.1.results ∧ fallback.1.halt = native.1.halt.onFallback ∧
          fallback.1.cleanups = native.1.cleanups ∧
          ((∃ step ∈ steps, step.waits = false) → ∃ calls,
            native.2.calls = s.calls ++ .connectHost e :: calls ∧
            fallback.2.calls =
              t.calls ++ .connectHost e :: .connectFallback e :: calls.map Call.onFallback ∧
            ∀ call ∈ calls, ∃ name, call.line = "native." ++ name ∧
              call.onFallback.line = "fallback." ++ name) ∧
          ((∀ step ∈ steps, step.waits) →
            native.2.calls = s.calls ∧ fallback.2.calls = t.calls) := by
  obtain ⟨address, steps, rfl, hsteps⟩ := server_of_compile hplan
  refine ⟨address, steps, rfl, ?_⟩
  intro e native fallback driver driver' cause hopens hunknown hcause hopens'
  rcases steps_split steps with hall | ⟨sleeps, token, work, rest, rfl, hsleeps⟩
  · obtain ⟨hresults, hhalt, hcleanups, hcalls⟩ := run_waits Script.world e hall s
    obtain ⟨hresults', hhalt', hcleanups', hcalls'⟩ := run_waits Script.world e hall t
    refine ⟨hresults'.trans hresults.symm, ?_, hcleanups'.trans hcleanups.symm, ?_,
      fun _ => ⟨hcalls, hcalls'⟩⟩
    · exact hhalt'.trans (congrArg Halt.onFallback hhalt).symm
    · rintro ⟨step, hmem, hstep⟩
      rw [hall step hmem] at hstep
      cases hstep
  · have hworks := hsteps hscreenshot
    cases work with
    | screenshot => exact absurd rfl (hworks _ (List.mem_append_right sleeps List.mem_cons_self))
    | operate op =>
      have hdriver : driver = s.world.driver := Script.driver_of_connect.1 hopens
      have hdriver' : driver' = s.world.driver :=
        (Script.driver_of_connect.2 hopens').trans (hfollows.fallback_connects rfl).driver
      subst hdriver hdriver'
      obtain ⟨c, hphase, hworld, hcalls, hrun⟩ :=
        (opens_native hopens).run hsleeps token op rest
      obtain ⟨d, hphase', hworld', hcalls', hrun'⟩ :=
        (opens_fallback hunknown hcause hopens').run hsleeps token op rest
      have hscene : Twins (s.calls ++ [.connectHost e])
          (t.calls ++ [.connectHost e, .connectFallback e]) c.scene d.scene := by
        refine ⟨?_, [], by simp [hcalls], by simp [hcalls'], by simp⟩
        rw [hworld, hworld']
        exact ((hfollows.native_connects rfl).fallback_connects rfl).fallback_connects rfl
      have hpaired : Paired _ _ _ c d := ⟨hphase, hphase', hscene⟩
      have hrest := fun step hmem => hworks step (List.mem_append_right sleeps hmem)
      obtain ⟨results, halt, c', d', hhalt, hruns, hruns', hend⟩ :=
        hpaired.runSteps (e := e) rfl hrest
      have hhalt' : halt.onFallback ≠ .dropped := by
        rcases halt with _ | (_ | _) | _ <;> first | exact absurd rfl hhalt | simp [Halt.onFallback]
      have hfinish := hend.finish (e := e) rfl s.now t.now
        (sleeps.map (fun step => .succeeded step.token true) ++ results) halt
      have hnative : native = _ := hrun results halt c' hhalt hruns
      have hfallback : fallback = _ := hrun' results halt.onFallback d' hhalt' hruns'
      rw [← hnative, ← hfallback] at hfinish
      obtain ⟨hresults, hhalts, hcleanups, htwins⟩ := hfinish
      obtain ⟨calls, hs, ht, hshared⟩ := htwins.calls
      refine ⟨hresults, hhalts, hcleanups, fun _ => ⟨calls, ?_, ?_, ?_⟩, fun hwaits => ?_⟩
      · rw [hs, List.append_assoc]
        rfl
      · rw [ht, List.append_assoc]
        rfl
      · exact fun call hmem => (hshared call hmem).lines
      · cases hwaits _ (List.mem_append_right sleeps List.mem_cons_self)

/-- The second action crashes, whichever driver it is asked of. -/
theorem run_fallback_like_native_crash :
    let e : Endpoint := ⟨"10.0.0.1", ⟨"admin", "secret"⟩⟩
    let params : Params := [("host", .text e.host)]
    let plan := Plan.server e.host
      [⟨"ison", .operate (.operate .isOn)⟩, ⟨"poweroff", .operate (.operate .powerOff)⟩]
    let cause : DriverError := .unsupportedHardware "X11"
    let known : Scene Script := { world := { cues := [("native.power_off", [.crash])] } }
    let unknown : Scene Script := { world :=
      { cues := [("connect_host", [.driverError cause]), ("fallback.power_off", [.crash])] } }
    compile .host params ["ison", "poweroff"] = .ok plan ∧
      Action.screenshot.token ∉ ["ison", "poweroff"] ∧ known.world.Follows unknown.world ∧
      (Script.world (.connectHost e) known.world).1.outcome = .returns (.ok known.world.driver) ∧
      (Script.world (.connectHost e) unknown.world).1.outcome = .returns (.error cause) ∧
      cause.isUnsupported ∧
      (Script.world (.connectFallback e)
          (Script.world (.connectHost e) unknown.world).2).1.outcome =
        .returns (.ok known.world.driver) ∧
      (plan.run Script.world e.credentials none unknown).1.results =
        (plan.run Script.world e.credentials none known).1.results ∧
      (plan.run Script.world e.credentials none unknown).1.halt =
        (plan.run Script.world e.credentials none known).1.halt.onFallback := by
  intro e params plan cause known unknown
  have hplan : compile .host params ["ison", "poweroff"] = .ok plan := by
    dsimp only [params, plan, e]
    rfl
  have hscreenshot : Action.screenshot.token ∉ ["ison", "poweroff"] := by decide
  have hfollows : known.world.Follows unknown.world := ⟨by decide, rfl⟩
  obtain ⟨address, steps, heq, h⟩ :=
    run_fallback_like_native hplan hscreenshot e.credentials known unknown hfollows
  obtain ⟨rfl, rfl⟩ := Plan.server.inj heq
  obtain ⟨hresults, hhalt, -⟩ := h known.world.driver known.world.driver cause rfl rfl rfl rfl
  exact ⟨hplan, hscreenshot, hfollows, rfl, rfl, rfl, rfl, hresults, hhalt⟩

end Plan

end Outband
