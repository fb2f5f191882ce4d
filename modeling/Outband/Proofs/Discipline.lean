import Outband.Proofs.Orderly
/-! What a run does with the session of its target: it opens one at most, uses no other, and
releases it in the end, however the run ends. -/

namespace Outband

variable {t : Trade H} {base : List Event}

/-- How things stand when the steps of a run have stopped. -/
def Stopped (t : Trade H) (base : List Event) (limit : Limit) : Halt → Connection σ H → Prop
  | .finished, c => Ready t base c none ∨ GaveUp t base c
  | .crashed cause, c => ∃ call, cause = .call call ∧ Broken t base c call
  | .dropped, c => limit.isSome ∧ (Ready t base c none ∨ Connecting t base c)

theorem Executor.Keeps.task {ex : Executor H ω} (hk : ex.Keeps t) (step : Step ω) :
    Orderly t (fun r : ActionResult => r.isFailure) none false (step.task ex) := by
  unfold Step.task
  cases step.work with
  | sleep nanos => exact .pause _ _ (.done _)
  | operate op => exact hk.perform step.token op

theorem runSteps_stopped {ex : Executor H ω} (hk : ex.Keeps t) (world : World σ) (limit : Limit)
    (steps : List (Step ω)) {c : Connection σ H} (hr : Ready t base c none)
    (hl : c.inventory.lock = {}) :
    Stopped t base limit (runSteps world limit ex steps c).2.1
      (runSteps world limit ex steps c).2.2 := by
  induction steps generalizing c with
  | nil => exact Or.inl hr
  | cons step rest ih =>
    have hstep := (hk.task step).carried world limit hr hl
    rw [runSteps]
    generalize (step.task ex).carry world 0 limit c = carried at hstep ⊢
    obtain ⟨task, c⟩ := carried
    cases task with
    | done result =>
      obtain ⟨hl, hr⟩ := hstep
      dsimp only
      split
      · exact hr.imp id And.right
      · rename_i hok
        exact ih (hr.resolve_right fun hf => hok hf.1) hl
    | crashed cause => exact hstep
    | _ => exact hstep

/-- The calls came in the order of a session's life: there was none, or it was opened, used and in
the end closed once. -/
inductive Settled (connects crashed : List Call) (events : List Event) : Prop
  | unopened (h : Unopened connects crashed events)
  | closed (s : OpenSession) (h : Used connects crashed [s.close] s events)

theorem Settled.crashes {connects crashed : List Call} {events : List Event}
    (h : Settled connects crashed events) : crashesOf events = crashed := by
  cases h with
  | unopened h => exact h.crashes
  | closed _ h => exact h.crashes

/-- How a run may end, how often it begins to release the session, and which calls crashed. -/
inductive Account (limit : Limit) : Halt → Nat → List Call → Prop
  | finished : Account limit .finished 1 []
  | step {call : Call} (hconnect : call.isConnect = false) (hclose : call.isClose = false) :
      Account limit (.crashed (.call call)) 1 [call]
  | connect {call : Call} (hconnect : call.isConnect) :
      Account limit (.crashed (.attempt 0)) 2 [call]
  | close {call : Call} {crashed : List Call} (hclose : call.isClose)
      (hsteps : ∀ other ∈ crashed, other.isConnect = false) :
      Account limit (.crashed (.call call)) 2 (crashed ++ [call])
  | dropped {cleanups : Nat} {crashed : List Call} (hlimit : limit.isSome) :
      Account limit .dropped cleanups crashed

/-- The report of a run accounts for what the log shows. -/
def Accounted (connects : List Call) (base : List Event) (limit : Limit)
    (r : RunReport × Scene σ) : Prop :=
  ∃ crashed, Account limit r.1.halt r.1.cleanups crashed ∧
    Since base (Settled connects crashed) r.2.log

/-- What the release of a session leaves, by how it stopped. -/
def Closed (t : Trade H) (base : List Event) (limit : Limit) (crashed : List Call) :
    Task H α × Connection σ H → Prop
  | (.done _, c) => Since base (Settled t.connects crashed) c.scene.log
  | (.crashed cause, c) => c.link.phase = .idle ∧ ∃ call, cause = .call call ∧ call.isClose ∧
      Since base (Settled t.connects (crashed ++ [call])) c.scene.log
  | (_, c) => limit.isSome ∧ c.link.phase = .idle ∧ Since base (Settled t.connects crashed) c.scene.log

theorem Closed.settled {limit : Limit} {crashed : List Call} {r : Task H α × Connection σ H}
    (h : Closed t base limit crashed r) :
    ∃ crashed, Since base (Settled t.connects crashed) r.2.scene.log := by
  obtain ⟨task, c⟩ := r
  cases task with
  | done _ => exact ⟨crashed, h⟩
  | crashed _ =>
    obtain ⟨-, call, -, -, hs⟩ := h
    exact ⟨crashed ++ [call], hs⟩
  | _ => exact ⟨crashed, h.2.2⟩

theorem OpenSession.isClose_close (s : OpenSession) : s.close.isClose := by
  cases s <;> rfl

theorem OpenSession.isConnect_close (s : OpenSession) : s.close.isConnect = false := by
  cases s <;> rfl

/-- Closing a session that was taken off its link. -/
theorem closed_work (world : World σ) (limit : Limit) {crashed : List Call} {h : H}
    {c : Connection σ H} (hidle : c.link.phase = .idle)
    (hused : Since base (Used t.connects crashed [] (t.session h)) c.scene.log) :
    Closed t base limit crashed
      ((Task.work (t.close h) (fun r => .done r)).carry world 0 limit c) := by
  have hkeeps := calling_keeps (t.close_asks h) (t.session h).isConnect_close
    (fun _ _ hu => hu.close) hused
  have hjob := Job.carry_holds world limit (s := c.scene) hkeeps
  have hsettled : ∀ {crashed log},
      Since base (Used t.connects crashed [(t.session h).close] (t.session h)) log →
      Since base (Settled t.connects crashed) log := by
    rintro crashed log ⟨events, hlog, hu⟩
    exact ⟨events, hlog, .closed _ hu⟩
  rw [Task.carry]
  generalize (t.close h).carry world limit c.scene = carried at hjob ⊢
  obtain ⟨job, s⟩ := carried
  cases job with
  | done value => exact hsettled hjob
  | crashed cause =>
    obtain ⟨call, rfl, rfl, hu⟩ := hjob
    exact ⟨hidle, _, rfl, (t.session h).isClose_close, hsettled hu⟩
  | _ => exact ⟨hjob.1, hidle, hsettled hjob.2.1⟩

section Release

variable {ex : Executor H ω} (hk : ex.Keeps t) (world : World σ) (limit : Limit)
  {c : Connection σ H}

include hk

theorem close_of_idle (h : c.link.phase = .idle) :
    ex.close.carry world 0 limit c = (.done (.ok ()), c) := by
  obtain ⟨scene, ⟨phase, attempts⟩, inventory⟩ := c
  cases h
  rw [hk.close]
  rfl

theorem close_of_session {crashed : List Call} {h : H} (hs : HasSession t base c crashed h) :
    Closed t base limit crashed (ex.close.carry world 0 limit c) := by
  rw [hk.close, Task.carry, Link.detach, hs.1]
  exact closed_work world limit rfl hs.2

/-- Whoever releases a link waits for its attempt, and crashes when that has crashed. -/
theorem close_of_stranded {call : Call} (hs : Stranded t base c call) :
    ∃ d : Connection σ H, ex.close.carry world 0 limit c = (.crashed (.attempt 0), d) ∧
      d.link.phase = .idle ∧ d.scene = c.scene := by
  obtain ⟨hphase, hattempts, -, -⟩ := hs
  rw [hk.close, Task.carry, Link.detach, hphase]
  simp only [Connection.advance, Link.advance, hattempts, List.getElem?_cons_zero]
  exact ⟨_, rfl, rfl, rfl⟩

/-- Whoever releases a link while it connects brings the attempt to its end and closes what comes
of it. -/
theorem close_of_connecting (hc : Connecting t base c) :
    ∃ crashed, Since base (Settled t.connects crashed) (ex.close.carry world 0 none c).2.scene.log := by
  obtain ⟨job, hphase, hattempts, hkeeps⟩ := hc
  have hjob := Job.carry_holds world none (s := c.scene) hkeeps
  rw [hk.close, Task.carry, Link.detach, hphase]
  simp only [Connection.advance, Link.advance, hattempts, List.getElem?_cons_zero]
  generalize job.carry world none c.scene = carried at hjob ⊢
  obtain ⟨job, s⟩ := carried
  cases job with
  | done outcome =>
    cases outcome with
    | ok h =>
      have hused : Since base (Used t.connects [] [] (t.session h)) s.log := hjob
      exact (closed_work world none rfl hused).settled
    | error err =>
      obtain ⟨events, hlog, hun⟩ := hjob
      exact ⟨[], events, hlog, .unopened hun⟩
  | crashed cause =>
    obtain ⟨call, -, events, hlog, -, hun⟩ := hjob
    exact ⟨[call], events, hlog, .unopened hun⟩
  | _ => cases hjob.1

theorem release_of_idle (h : c.link.phase = .idle) : ex.release world c = c.scene := by
  rw [Executor.release, close_of_idle hk world none (c := c.release 0) h]
  rfl

theorem Executor.Keeps.finish_account {start : Time} {results : List ActionResult} {halt : Halt}
    {crashed : List Call} (ha : Account limit halt 1 crashed)
    (hsteps : ∀ call ∈ crashed, call.isConnect = false)
    (hc : Closed t base limit crashed (ex.close.carry world 0 limit c)) :
    Accounted t.connects base limit (ex.finish world limit start results halt c) := by
  rw [Executor.finish]
  generalize ex.close.carry world 0 limit c = carried at hc ⊢
  obtain ⟨task, c⟩ := carried
  cases task with
  | done _ => exact ⟨crashed, ha, hc⟩
  | crashed cause =>
    obtain ⟨hidle, call, rfl, hclose, hs⟩ := hc
    refine ⟨crashed ++ [call], .close hclose hsteps, ?_⟩
    dsimp only
    -- The session is off the link by now, and the second release finds nothing.
    rwa [release_of_idle hk world hidle]
  | _ =>
    refine ⟨crashed, .dropped hc.1, ?_⟩
    dsimp only [Executor.cutOff]
    rw [release_of_idle hk world (by exact hc.2.1)]
    exact hc.2.2

theorem Executor.Keeps.cutOff_account {start : Time} {cleanups : Nat} {results : List ActionResult}
    (hl : limit.isSome) (hc : Ready t base c none ∨ Connecting t base c) :
    Accounted t.connects base limit (ex.cutOff world limit start cleanups results c) := by
  rw [Executor.cutOff]
  rcases hc with (⟨hlink, hlog⟩ | ⟨h, hs⟩) | hc
  · refine ⟨[], .dropped hl, ?_⟩
    rw [release_of_idle hk world (by simp [hlink])]
    exact ⟨[], by simp [Scene.moveTo, hlog], .unopened ⟨rfl, by simp, rfl⟩⟩
  · obtain ⟨crashed, hsettled⟩ := (close_of_session hk world none (c := Connection.release
      { c with scene := c.scene.moveTo (limit.getD start) } 0) hs).settled
    exact ⟨crashed, .dropped hl, hsettled⟩
  · obtain ⟨crashed, hsettled⟩ := close_of_connecting hk world (c := Connection.release
      { c with scene := c.scene.moveTo (limit.getD start) } 0) hc
    exact ⟨crashed, .dropped hl, hsettled⟩

/-- Every run opens one session at most and settles with it. -/
theorem Executor.Keeps.run_account (steps : List (Step ω)) (scene : Scene σ) :
    Accounted t.connects scene.log limit (ex.run world limit steps scene) := by
  have hready : Ready t scene.log ({ scene := scene } : Connection σ H) none := Or.inl ⟨rfl, rfl⟩
  have hstop := runSteps_stopped hk world limit steps hready rfl
  rw [Executor.run]
  generalize runSteps world limit ex steps { scene := scene } = stopped at hstop ⊢
  obtain ⟨results, halt, c⟩ := stopped
  change Stopped t scene.log limit halt c at hstop
  cases halt with
  | finished =>
    refine hk.finish_account world limit .finished (by simp) ?_
    rcases hstop with (⟨hlink, hlog⟩ | ⟨h, hs⟩) | ⟨hidle, events, hlog, hun⟩
    · rw [close_of_idle hk world limit (by simp [hlink])]
      exact ⟨[], by simp [hlog], .unopened ⟨rfl, by simp, rfl⟩⟩
    · exact close_of_session hk world limit hs
    · rw [close_of_idle hk world limit hidle]
      exact ⟨events, hlog, .unopened hun⟩
  | crashed cause =>
    obtain ⟨call, rfl, ⟨hconnect, hclose, h, hs⟩ | hs⟩ := hstop
    · exact hk.finish_account world limit (.step hconnect hclose) (by simpa using hconnect)
        (close_of_session hk world limit hs)
    · obtain ⟨d, hd, hidle, hscene⟩ := close_of_stranded hk world limit hs
      obtain ⟨-, -, hconnect, events, hlog, hun⟩ := hs
      refine ⟨[call], ?_, ?_⟩
      · simp only [Executor.finish, hd]
        exact .connect hconnect
      · simp only [Executor.finish, hd, release_of_idle hk world hidle, hscene]
        exact ⟨events, hlog, .unopened hun⟩
  | dropped => exact hk.cutOff_account world limit hstop.1 hstop.2

end Release

theorem carry_wait (world : World σ) (owner : Nat) (limit : Limit) (span : Time) (value : α)
    (c : Connection σ H) :
    (Task.wait span value).carry world owner limit c =
      if limit.allows c.scene.now (c.scene.now + span) then
        (.done value, { c with scene := c.scene.moveTo (c.scene.now + span) })
      else (.work (.paused (c.scene.now + span) (.done value)) .done, c) := by
  simp only [Task.wait, Task.carry, Job.carry]
  by_cases hdue : limit.allows c.scene.now (c.scene.now + span)
  · rw [if_pos hdue, if_pos hdue]
  · rw [if_neg hdue, if_neg hdue]

theorem sleep_task (step : Step Empty) :
    ∃ span, step.task Executor.sleep = .wait span (.succeeded step.token true) := by
  obtain ⟨token, work⟩ := step
  cases work with
  | sleep nanos => exact ⟨milliseconds nanos, rfl⟩
  | operate op => exact op.elim

/-- Without a device there is nothing to open and nothing to release. -/
theorem runSteps_sleep (world : World σ) (limit : Limit) (steps : List (Step Empty))
    (c : Connection σ Unit) :
    ∃ d : Connection σ Unit, d.scene.log = c.scene.log ∧
      (runSteps world limit Executor.sleep steps c).2.2 = d ∧
      ((runSteps world limit Executor.sleep steps c).2.1 = .finished ∨
        (runSteps world limit Executor.sleep steps c).2.1 = .dropped ∧ limit.isSome) := by
  induction steps generalizing c with
  | nil => exact ⟨c, rfl, rfl, Or.inl rfl⟩
  | cons step rest ih =>
    obtain ⟨span, htask⟩ := sleep_task step
    rw [runSteps, htask, carry_wait]
    by_cases hdue : limit.allows c.scene.now (c.scene.now + span)
    · rw [if_pos hdue]
      exact ih { c with scene := c.scene.moveTo (c.scene.now + span) }
    · rw [if_neg hdue]
      exact ⟨_, rfl, rfl, Or.inr ⟨rfl, Job.isSome_of_not_allows hdue⟩⟩

theorem Executor.sleep_account (world : World σ) (limit : Limit) (steps : List (Step Empty))
    (scene : Scene σ) :
    Accounted [] scene.log limit (Executor.sleep.run world limit steps scene) := by
  obtain ⟨d, hlog, hd, hhalt⟩ :=
    runSteps_sleep world limit steps ({ scene := scene } : Connection σ Unit)
  rw [Executor.run]
  generalize runSteps world limit Executor.sleep steps { scene := scene } = stopped at hd hhalt ⊢
  obtain ⟨results, halt, c⟩ := stopped
  obtain rfl : c = d := hd
  have hsettled : Since scene.log (Settled [] []) c.scene.log :=
    ⟨[], by simp [hlog], .unopened ⟨rfl, by simp, rfl⟩⟩
  rcases hhalt with hhalt | ⟨hhalt, hlimit⟩ <;> cases hhalt
  · exact ⟨[], .finished, hsettled⟩
  · exact ⟨[], .dropped hlimit, hsettled⟩

namespace Plan

/-- The calls with which the session of a plan may be opened, in the order in which they come. -/
def connects (credentials : Credentials) : Plan → List Call
  | .server address _ =>
    [.connectHost ⟨address, credentials⟩, .connectFallback ⟨address, credentials⟩]
  | .chassis address _ | .blade address _ _ => [.connectChassis ⟨address, credentials⟩]
  | .sleep _ => []

theorem run_account (plan : Plan) (world : World σ) (credentials : Credentials) (limit : Limit)
    (scene : Scene σ) :
    Accounted (plan.connects credentials) scene.log limit
      (plan.run world credentials limit scene) := by
  cases plan with
  | server address steps => exact (server_keeps _).run_account world limit steps scene
  | chassis address steps => exact (chassis_keeps _).run_account world limit steps scene
  | blade address locator steps => exact (blade_keeps _ _).run_account world limit steps scene
  | sleep steps => exact Executor.sleep_account world limit steps scene

/-- Whatever the world answers and however a run ends, it opens one session at most, uses no other,
and closes the one that it opened exactly once, after its last use. -/
theorem run_settles (plan : Plan) (world : World σ) (credentials : Credentials) (limit : Limit)
    (scene : Scene σ) :
    let after := (plan.run world credentials limit scene).2
    ∃ events, after.log = scene.log ++ events ∧ after.calls = scene.calls ++ callsOf events ∧
      Settled (plan.connects credentials) (crashesOf events) events := by
  obtain ⟨crashed, -, events, hlog, hsettled⟩ := plan.run_account world credentials limit scene
  refine ⟨events, hlog, ?_, ?_⟩
  · rw [Scene.calls_eq, Scene.calls_eq, hlog, callsOf_append]
  · rw [hsettled.crashes]
    exact hsettled

end Plan

end Outband
