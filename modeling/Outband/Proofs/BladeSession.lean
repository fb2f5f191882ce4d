import Outband.Proofs.StepByStep
/-! What an action on a blade comes to for the one caller there is: it opens the session unless it
is open, and looks the slot up unless it is known. -/

namespace Outband

section Performing

variable {e : Endpoint} {token : String} {op : BladeOp}

/-- What is to be done with a blade once its slot is known. -/
theorem position_perform (world : World σ) (limit : Limit) (slot : Slot)
    {c : Connection σ ChassisSession} {session : ChassisSession}
    (hphase : c.link.phase = .connected session) :
    ((Executor.blade e (.position slot)).perform token op).carry world 0 limit c =
      (Task.work (Job.call (.blade session op slot)) fun r =>
        .done (ActionResult.ofStatus token r)).carry world 0 limit c :=
  carry_enter_connected (Chassis.connect e) _ hphase

/-- Whoever is alone gets the lock at once. -/
theorem carry_lock_free (world : World σ) (limit : Limit) (access : Access) (next : Task H α)
    {c : Connection σ H} (h : c.inventory.lock = {}) :
    (Task.lock access next).carry world 0 limit c =
      next.carry world 0 limit (c.setLock ⟨[(0, access)], []⟩) := by
  simp only [Task.carry, allows_lock h access]
  rfl

theorem release_held {c : Connection σ H} (h : c.inventory.lock = {}) (access : Access) :
    (c.setLock ⟨[(0, access)], []⟩).release 0 = c := by
  obtain ⟨scene, link, slots, lookups, lock⟩ := c
  obtain rfl : lock = {} := h
  rfl

theorem carry_unlock_held (world : World σ) (limit : Limit) (access : Access) (next : Task H α)
    {c : Connection σ H} (h : c.inventory.lock = {}) :
    (Task.unlock next).carry world 0 limit (c.setLock ⟨[(0, access)], []⟩) =
      next.carry world 0 limit c := by
  rw [Task.carry, release_held h]

/-- A slot that is known is used without a lookup. -/
theorem serial_perform_known (world : World σ) (limit : Limit) {serial : String} {slot : Slot}
    {c : Connection σ ChassisSession} {session : ChassisSession}
    (hphase : c.link.phase = .connected session) (hlock : c.inventory.lock = {})
    (hknown : c.inventory.slot? serial = some slot) :
    ((Executor.blade e (.serial serial)).perform token op).carry world 0 limit c =
      ((Executor.blade e (.position slot)).perform token op).carry world 0 limit c := by
  have hslot : (c.setLock ⟨[(0, .shared)], []⟩).inventory.slot? serial = some slot := hknown
  refine (carry_enter_connected (Chassis.connect e) _ hphase).trans ?_
  simp only [Inventory.resolve, Task.bind]
  rw [carry_lock_free world limit .shared _ hlock, Task.carry, hslot]
  exact carry_unlock_held world limit .shared _ hlock

/-- The connection after a lookup, of which nothing is remembered yet. -/
def Connection.lookedUp (world : World σ) (c : Connection σ H) (call : Call) : Connection σ H :=
  { c with
    scene := c.scene.after world call
    inventory := { c.inventory with lookups := c.inventory.lookups + 1 } }

def Connection.remember (c : Connection σ H) (serial : String) (slot : Slot) : Connection σ H :=
  { c with inventory := c.inventory.remember serial slot }

/-- A slot that is not known is looked up first. -/
theorem serial_perform_unknown (world : World σ) {serial : String}
    {c : Connection σ ChassisSession} {session : ChassisSession}
    (hphase : c.link.phase = .connected session) (hlock : c.inventory.lock = {})
    (hunknown : c.inventory.slot? serial = none) :
    ((Executor.blade e (.serial serial)).perform token op).carry world 0 none c =
      let lookup := Call.findBlade session serial
      match (world lookup c.scene.world).1.outcome with
      | .returns (.ok slot) =>
        ((Executor.blade e (.position slot)).perform token op).carry world 0 none
          ((c.lookedUp world lookup).remember serial slot)
      | .returns (.error cause) => (.done (.failed token (.driver cause)), c.lookedUp world lookup)
      | .crashes => (.crashed (.call lookup), c.lookedUp world lookup) := by
  have hshared : (c.setLock ⟨[(0, .shared)], []⟩).inventory.slot? serial = none := hunknown
  have hexclusive : (c.setLock ⟨[(0, .exclusive)], []⟩).inventory.slot? serial = none := hunknown
  have hafter : (c.lookedUp world (.findBlade session serial)).inventory.lock = {} := hlock
  -- The slot is not found as a reader, nor again with the lock to itself.
  refine (carry_enter_connected (Chassis.connect e) _ hphase).trans ?_
  simp only [Inventory.resolve, Task.bind]
  rw [carry_lock_free world none .shared _ hlock, Task.carry, hshared]
  refine (carry_unlock_held world none .shared _ hlock).trans ?_
  refine (carry_lock_free world none .exclusive _ hlock).trans ?_
  rw [Task.bind.eq_def]
  dsimp only
  rw [Task.carry, hexclusive]
  simp only [Task.bind, Task.carry, Job.call]
  rw [Job.carry_ask_none]
  have hscene : (c.setLock ⟨[(0, .exclusive)], []⟩).scene = c.scene := rfl
  rw [hscene]
  cases (world (.findBlade session serial) c.scene.world).1.outcome with
  | returns answer =>
    cases answer with
    | ok slot =>
      have hfound : ((c.lookedUp world (.findBlade session serial)).remember serial
          slot).inventory.lock = {} := hlock
      exact carry_unlock_held world none .exclusive _ hfound
    | error cause => exact carry_unlock_held world none .exclusive _ hafter
  | crashes => exact congrArg (Prod.mk _) (release_held hafter .exclusive)

theorem known_of_remember {c : Connection σ H} {serial : String} (hlock : c.inventory.lock = {})
    (hunknown : c.inventory.slot? serial = none) (world : World σ) (call : Call) (slot : Slot) :
    ((c.lookedUp world call).remember serial slot).inventory.lock = {} ∧
      ((c.lookedUp world call).remember serial slot).inventory.slot? serial = some slot := by
  refine ⟨hlock, ?_⟩
  rw [Inventory.slot?] at hunknown ⊢
  simp [Connection.remember, Connection.lookedUp, Inventory.remember, List.lookup_append, hunknown]

theorem unknown_of_fresh {c : Connection σ H} (h : c.inventory = {}) (serial : String) :
    c.inventory.lock = {} ∧ c.inventory.slot? serial = none := by
  rw [h]
  exact ⟨rfl, rfl⟩

/-- What a lookup finds serves the action for which it was made, as it serves those after it. -/
theorem serial_perform_found (world : World σ) {serial : String} {slot : Slot}
    {c : Connection σ ChassisSession} {session : ChassisSession}
    (hphase : c.link.phase = .connected session) (hfresh : c.inventory = {})
    (hfound : (world (.findBlade session serial) c.scene.world).1.outcome = .returns (.ok slot)) :
    ((Executor.blade e (.serial serial)).perform token op).carry world 0 none c =
      ((Executor.blade e (.serial serial)).perform token op).carry world 0 none
        ((c.lookedUp world (.findBlade session serial)).remember serial slot) := by
  obtain ⟨hfree, hunknown⟩ := unknown_of_fresh hfresh serial
  obtain ⟨hlock, hknown⟩ :=
    known_of_remember hfree hunknown world (.findBlade session serial) slot
  refine (serial_perform_unknown world hphase hfree hunknown).trans ?_
  simp only [hfound]
  exact (serial_perform_known world none (by exact hphase) hlock hknown).symm

theorem serial_perform_not_found (world : World σ) {serial : String} {cause : DriverError}
    {c : Connection σ ChassisSession} {session : ChassisSession}
    (hphase : c.link.phase = .connected session) (hfresh : c.inventory = {})
    (hfails : (world (.findBlade session serial) c.scene.world).1.outcome =
      .returns (.error cause)) :
    ((Executor.blade e (.serial serial)).perform token op).carry world 0 none c =
      (.done (.failed token (.driver cause)), c.lookedUp world (.findBlade session serial)) := by
  obtain ⟨hlock, hunknown⟩ := unknown_of_fresh hfresh serial
  refine (serial_perform_unknown world hphase hlock hunknown).trans ?_
  simp only [hfails]

/-- The connection after an attempt to open the session. -/
def Connection.tried (world : World σ) (e : Endpoint) (phase : Phase ChassisSession)
    (attempt : Attempt ChassisSession) (c : Connection σ ChassisSession) :
    Connection σ ChassisSession :=
  { c with
    link := ⟨phase, c.link.attempts ++ [attempt]⟩
    scene := c.scene.after world (.connectChassis e) }

def Connection.opened (world : World σ) (e : Endpoint) (c : Connection σ ChassisSession) :
    Connection σ ChassisSession :=
  c.tried world e (.connected ⟨e⟩) (.ended (.ok ⟨e⟩))

/-- Every action on a blade begins with the session, and fails with it. -/
theorem perform_enters (e : Endpoint) (locator : Locator) (token : String) (op : BladeOp) :
    ∃ next, (Executor.blade e locator).perform token op = .enter (Chassis.connect e) next ∧
      ∀ err, next (.error err) = .done (.failed token (.driver err)) := by
  cases locator <;> exact ⟨_, rfl, fun _ => rfl⟩

/-- Who opens the session goes on as if it had been open. -/
theorem perform_opens (world : World σ) (locator : Locator) {c : Connection σ ChassisSession}
    (hidle : c.link.phase = .idle)
    (hopens : (world (.connectChassis e) c.scene.world).1.outcome = .returns (.ok ())) :
    ((Executor.blade e locator).perform token op).carry world 0 none c =
      ((Executor.blade e locator).perform token op).carry world 0 none (c.opened world e) := by
  obtain ⟨next, hnext, -⟩ := perform_enters e locator token op
  rw [hnext, carry_enter_idle world none 0 _ next hidle, Chassis.connect, Job.carry_ask_none,
    hopens]
  exact (carry_enter_connected _ next rfl).symm

/-- A blade is out of reach when the session cannot be opened, however it is named. -/
theorem perform_unopened (world : World σ) (e : Endpoint) (token : String) (op : BladeOp)
    {c : Connection σ ChassisSession} (hidle : c.link.phase = .idle)
    (hfails : (world (.connectChassis e) c.scene.world).1.outcome ≠ .returns (.ok ())) :
    ∃ d, (∃ err, ∀ locator, ((Executor.blade e locator).perform token op).carry world 0 none c =
        (.done (.failed token (.driver err)), d)) ∨
      ∃ cause, ∀ locator, ((Executor.blade e locator).perform token op).carry world 0 none c =
        (.crashed cause, d) := by
  cases houtcome : (world (.connectChassis e) c.scene.world).1.outcome with
  | returns answer =>
    cases answer with
    | ok answer => exact absurd houtcome hfails
    | error err =>
      refine ⟨c.tried world e .idle (.ended (.error err)), Or.inl ⟨err, fun locator => ?_⟩⟩
      obtain ⟨next, hnext, herror⟩ := perform_enters e locator token op
      rw [hnext, carry_enter_idle world none 0 _ next hidle, Chassis.connect, Job.carry_ask_none,
        houtcome]
      simp only [Job.carry, herror]
      rfl
  | crashes =>
    refine ⟨(c.tried world e (.connecting c.link.attempts.length) .crashed).release 0,
      Or.inr ⟨.call (.connectChassis e), fun locator => ?_⟩⟩
    obtain ⟨next, hnext, -⟩ := perform_enters e locator token op
    rw [hnext, carry_enter_idle world none 0 _ next hidle, Chassis.connect, Job.carry_ask_none,
      houtcome]
    rfl

end Performing

section Blades

variable {e : Endpoint}

/-- The session is taken off the link before it is closed. -/
theorem close_connected (world : World σ) (limit : Limit) {c : Connection σ ChassisSession}
    {session : ChassisSession} (hphase : c.link.phase = .connected session) :
    Chassis.close.carry world 0 limit c =
      (Task.work (Job.call (.closeChassis session)) .done).carry world 0 limit
        { c with link := c.link.detach.2 } := by
  simp only [Chassis.close, Task.carry, Link.detach, hphase]

theorem finish_connected (world : World σ) (locator : Locator) {c : Connection σ ChassisSession}
    {session : ChassisSession} (hphase : c.link.phase = .connected session) (start : Time)
    (results : List ActionResult) (halt : Halt) :
    let ended := (Executor.blade e locator).finish world none start results halt c
    ∃ outcome, ended.1.results = results ∧ ended.2.log = c.scene.log ++
      [.called (.closeChassis session), .ended (.closeChassis session) outcome] := by
  have hclose : (Executor.blade e locator).close = Chassis.close := rfl
  have hlog := Scene.after_log world c.scene (.closeChassis session)
  intro ended
  unfold ended
  rw [Executor.finish, hclose, close_connected world none hphase, Task.carry, Job.call,
    Job.carry_ask_none]
  generalize (world (.closeChassis session) c.scene.world).1.outcome = outcome at hlog ⊢
  cases outcome with
  | returns answer => exact ⟨_, rfl, hlog⟩
  | crashes =>
    -- The second release finds no session on the link.
    dsimp only
    rw [release_of_idle (blade_keeps e _) world (by rfl)]
    exact ⟨_, rfl, hlog⟩

/-- Without a session it makes no difference how a blade is named. -/
theorem run_unopened (world : World σ) (e : Endpoint) (locator locator' : Locator)
    (steps : List (Step BladeOp)) (scene : Scene σ)
    (h : ¬ ((∃ step ∈ steps, step.waits = false) ∧
      (world (.connectChassis e) scene.world).1.outcome = .returns (.ok ()))) :
    (Executor.blade e locator').run world none steps scene =
      (Executor.blade e locator).run world none steps scene := by
  refine run_congr rfl ?_
  rcases steps_split steps with hall | ⟨sleeps, token, op, rest, rfl, hsleeps⟩
  · obtain ⟨s, -, -, hrun⟩ := runSteps_sleeps world steps hall { scene := scene }
    rw [← List.append_nil steps, hrun, hrun]
    rfl
  · obtain ⟨s, hworld, -, hrun⟩ := runSteps_sleeps world sleeps hsleeps { scene := scene }
    have hfails : (world (.connectChassis e) s.world).1.outcome ≠ .returns (.ok ()) := by
      rw [hworld]
      exact fun hopens => h ⟨⟨_, List.mem_append_right sleeps List.mem_cons_self, rfl⟩, hopens⟩
    rw [hrun, hrun]
    obtain ⟨d, ⟨err, hcarry⟩ | ⟨cause, hcarry⟩⟩ :=
      perform_unopened world e token op (c := { scene := s }) rfl hfails
    · have hfailed : ∀ locator, runSteps world none (.blade e locator)
          (⟨token, .operate op⟩ :: rest) { scene := s } =
            ([.failed token (.driver err)], .finished, d) :=
        fun locator => runSteps_failed (hcarry locator) rfl
      rw [hfailed, hfailed]
    · have hcrashed : ∀ locator, runSteps world none (.blade e locator)
          (⟨token, .operate op⟩ :: rest) { scene := s } = ([], .crashed cause, d) :=
        fun locator => runSteps_crashed (hcarry locator)
      rw [hcrashed, hcrashed]

/-- The first action that is no sleep opens the session. From there on the run goes as on an open
connection of which nothing is known. -/
theorem run_opens (world : World σ) (e : Endpoint) {sleeps : List (Step BladeOp)}
    (hsleeps : ∀ step ∈ sleeps, step.waits) (token : String) (op : BladeOp)
    (rest : List (Step BladeOp)) {scene : Scene σ}
    (hopens : (world (.connectChassis e) scene.world).1.outcome = .returns (.ok ())) :
    ∃ c : Connection σ ChassisSession, c.link.phase = .connected ⟨e⟩ ∧ c.inventory = {} ∧
      c.scene.world = (world (.connectChassis e) scene.world).2 ∧
      c.scene.log = scene.log ++
        [.called (.connectChassis e), .ended (.connectChassis e) (.returns (.ok ()))] ∧
      ∀ locator results halt d, halt ≠ .dropped →
        runSteps world none (.blade e locator) (⟨token, .operate op⟩ :: rest) c =
          (results, halt, d) →
        (Executor.blade e locator).run world none (sleeps ++ ⟨token, .operate op⟩ :: rest) scene =
          (Executor.blade e locator).finish world none scene.now
            (sleeps.map (fun step => .succeeded step.token true) ++ results) halt d := by
  obtain ⟨s, hworld, hlog, hrun⟩ := runSteps_sleeps world sleeps hsleeps { scene := scene }
  have hopens' : (world (.connectChassis e) s.world).1.outcome = .returns (.ok ()) := by
    rw [hworld]
    exact hopens
  refine ⟨Connection.opened world e { scene := s }, rfl, rfl, ?_, ?_, ?_⟩
  · exact congrArg (fun w => (world (.connectChassis e) w).2) hworld
  · rw [Connection.opened, Connection.tried, Scene.after_log, hopens', hlog]
  · intro locator results halt d hhalt hruns
    have hstep : runSteps world none (.blade e locator) (⟨token, .operate op⟩ :: rest)
        { scene := s } = (results, halt, d) :=
      (runSteps_congr (perform_opens world locator rfl hopens')).trans hruns
    refine run_eq_finish ?_ hhalt
    rw [hrun, hstep]

end Blades

end Outband
