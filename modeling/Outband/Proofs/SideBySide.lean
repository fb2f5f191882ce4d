import Outband.Proofs.BladeSession
import Outband.Proofs.Backends
import Mathlib.Data.List.Forall2
/-! Two runs side by side, that may differ in what they know of an endpoint, in the time and in the
waits between the actions. As long as the world answers alike what it is asked alike, the two make
the same calls and come to the same results. -/

namespace Outband

/-- In what two runs may differ. -/
structure Likeness where
  endpoint : Endpoint → Endpoint → Prop
  /-- Both go by the same clock. -/
  timed : Prop
  /-- How the stored screenshots are referred to. -/
  reference : String → String → Prop
  host_eq : ∀ {e e' : Endpoint}, endpoint e e' → e'.host = e.host

/-- Both fail with the same error, or neither does. -/
inductive Matching {ε α β : Type} (R : α → β → Prop) : Except ε α → Except ε β → Prop
  | ok {a : α} {b : β} (h : R a b) : Matching R (.ok a) (.ok b)
  | error (e : ε) : Matching R (.error e) (.error e)

theorem Matching.refl {ε α : Type} (outcome : Except ε α) : Matching Eq outcome outcome := by
  cases outcome with
  | ok a => exact .ok rfl
  | error e => exact .error e

structure ServerSession.Like (l : Likeness) (s t : ServerSession) : Prop where
  backend : t.backend = s.backend
  driver : t.driver = s.driver
  endpoint : l.endpoint s.endpoint t.endpoint

structure ChassisSession.Like (l : Likeness) (s t : ChassisSession) : Prop where
  endpoint : l.endpoint s.endpoint t.endpoint

/-- Calls that are alike, and how their answers have to be. -/
inductive Call.Like (l : Likeness) :
    (call call' : Call) → (call.Answer → call'.Answer → Prop) → Prop
  | connectHost {e e' : Endpoint} (h : l.endpoint e e') :
      Like l (.connectHost e) (.connectHost e') Eq
  | connectFallback {e e' : Endpoint} (h : l.endpoint e e') :
      Like l (.connectFallback e) (.connectFallback e') Eq
  | connectChassis {e e' : Endpoint} (h : l.endpoint e e') :
      Like l (.connectChassis e) (.connectChassis e') Eq
  | server {s t : ServerSession} (h : s.Like l t) (op : ServerOp) :
      Like l (.server s op) (.server t op) Eq
  | capture {s t : ServerSession} (h : s.Like l t) : Like l (.capture s) (.capture t) Eq
  | closeServer {s t : ServerSession} (h : s.Like l t) :
      Like l (.closeServer s) (.closeServer t) Eq
  | chassis {s t : ChassisSession} (h : s.Like l t) (op : ChassisOp) :
      Like l (.chassis s op) (.chassis t op) Eq
  | blade {s t : ChassisSession} (h : s.Like l t) (op : BladeOp) (slot : Slot) :
      Like l (.blade s op slot) (.blade t op slot) Eq
  | findBlade {s t : ChassisSession} (h : s.Like l t) (serial : String) :
      Like l (.findBlade s serial) (.findBlade t serial) Eq
  | closeChassis {s t : ChassisSession} (h : s.Like l t) :
      Like l (.closeChassis s) (.closeChassis t) Eq
  | store (host hardware extension : String) (payload : Bytes) {seconds seconds' : Int}
      (h : l.timed → seconds' = seconds) :
      Like l (.store (Screenshot.fileName host hardware extension seconds) payload)
        (.store (Screenshot.fileName host hardware extension seconds') payload)
        (Matching l.reference)

/-- Asked alike in states that go together, the world answers alike and goes on to such states. -/
def World.Respects (l : Likeness) (W : σ → σ → Prop) (world : World σ) : Prop :=
  ∀ {call call' : Call} {R : call.Answer → call'.Answer → Prop} {s t : σ}, W s t →
    call.Like l call' R →
      W (world call s).2 (world call' t).2 ∧
      (l.timed → (world call' t).1.delay = (world call s).1.delay) ∧
      ∃ answer answer', (world call s).1.outcome = .returns answer ∧
        (world call' t).1.outcome = .returns answer' ∧ R answer answer'

inductive Job.Like {α β : Type} (l : Likeness) (R : α → β → Prop) : Job α → Job β → Prop
  | done {a : α} {b : β} (h : R a b) : Like l R (.done a) (.done b)
  | ask {call call' : Call} {A : call.Answer → call'.Answer → Prop}
      {next : call.Answer → Job α} {next' : call'.Answer → Job β} (h : call.Like l call' A)
      (hnext : ∀ answer answer', A answer answer' → Like l R (next answer) (next' answer')) :
      Like l R (.ask call next) (.ask call' next')
  | pause (span : Time) {job : Job α} {job' : Job β} (h : Like l R job job') :
      Like l R (.pause span job) (.pause span job')

/-- Tasks that are alike, from sessions that are. The first of the arguments tells whether they hold
the lock of the inventory. -/
inductive Task.Like {H : Type} (l : Likeness) (S : H → H → Prop) {α β : Type} (R : α → β → Prop) :
    Bool → Task H α → Task H β → Prop
  | done {a : α} {b : β} (h : R a b) : Like l S R false (.done a) (.done b)
  | work {locked : Bool} {γ δ : Type} {Q : γ → δ → Prop} {job : Job γ} {job' : Job δ}
      {next : γ → Task H α} {next' : δ → Task H β} (h : job.Like l Q job')
      (hnext : ∀ value value', Q value value' → Like l S R locked (next value) (next' value')) :
      Like l S R locked (.work job next) (.work job' next')
  | enter {locked : Bool} {connect connect' : Job (Except DriverError H)}
      {next : Except DriverError H → Task H α} {next' : Except DriverError H → Task H β}
      (h : connect.Like l (Matching S) connect')
      (hnext : ∀ outcome outcome', Matching S outcome outcome' →
        Like l S R locked (next outcome) (next' outcome')) :
      Like l S R locked (.enter connect next) (.enter connect' next')
  | detach {locked : Bool} {next : Option H → Task H α} {next' : Option H → Task H β}
      (hnext : ∀ held held', Option.Rel S held held' →
        Like l S R locked (next held) (next' held')) :
      Like l S R locked (.detach next) (.detach next')
  | lock (access : Access) {next : Task H α} {next' : Task H β} (h : Like l S R true next next') :
      Like l S R false (.lock access next) (.lock access next')
  | unlock {next : Task H α} {next' : Task H β} (h : Like l S R false next next') :
      Like l S R true (.unlock next) (.unlock next')
  | «recall» {locked : Bool} (serial : String) {next : Option Slot → Task H α}
      {next' : Option Slot → Task H β}
      (hnext : ∀ slot, Like l S R locked (next slot) (next' slot)) :
      Like l S R locked (.recall serial next) (.recall serial next')
  | beginLookup {locked : Bool} {next : Task H α} {next' : Task H β}
      (h : Like l S R locked next next') :
      Like l S R locked (.beginLookup next) (.beginLookup next')
  | remember {locked : Bool} (serial : String) (slot : Slot) {next : Task H α} {next' : Task H β}
      (h : Like l S R locked next next') :
      Like l S R locked (.remember serial slot next) (.remember serial slot next')
  | clock {locked : Bool} {next : Int → Task H α} {next' : Int → Task H β}
      (hnext : ∀ seconds seconds', (l.timed → seconds' = seconds) →
        Like l S R locked (next seconds) (next' seconds')) :
      Like l S R locked (.clock next) (.clock next')

/-- Since these calls the like was asked in both scenes. -/
structure Scene.Like (l : Likeness) (W : σ → σ → Prop) (base : List Call) (s t : Scene σ) :
    Prop where
  world : W s.world t.world
  origin : t.origin = s.origin
  now : l.timed → t.now = s.now
  calls : ∃ calls calls', s.calls = base ++ calls ∧ t.calls = base ++ calls' ∧
    List.Forall₂ (fun call call' => ∃ R, call.Like l call' R) calls calls'

inductive Phase.Like {H : Type} (S : H → H → Prop) : Phase H → Phase H → Prop
  | idle : Like S .idle .idle
  | connected {s t : H} (h : S s t) : Like S (.connected s) (.connected t)

/-- Both connections are at rest, with sessions that are alike if they have any, and know the same
blades. -/
structure Connection.Like (l : Likeness) (S : H → H → Prop) (W : σ → σ → Prop) (base : List Call)
    (locked : Bool) (c d : Connection σ H) : Prop where
  scene : c.scene.Like l W base d.scene
  phase : Phase.Like S c.link.phase d.link.phase
  inventory : d.inventory = c.inventory
  lock : LockIs locked c.inventory.lock

section Carrying

variable {l : Likeness} {W : σ → σ → Prop} {world : World σ} {base : List Call} {s t : Scene σ}

theorem Scene.Like.refl (hworld : W s.world s.world) : s.Like l W s.calls s where
  world := hworld
  origin := rfl
  now _ := rfl
  calls := ⟨[], [], by simp, by simp, .nil⟩

theorem Scene.Like.unixSeconds (h : s.Like l W base t) (htimed : l.timed) :
    t.unixSeconds = s.unixSeconds := by
  simp only [Scene.unixSeconds, h.origin, h.now htimed]

theorem Scene.Like.moveTo (h : s.Like l W base t) {due due' : Time} (hdue : l.timed → due' = due) :
    (s.moveTo due).Like l W base (t.moveTo due') where
  world := h.world
  origin := h.origin
  now htimed := by simp only [Scene.moveTo, h.now htimed, hdue htimed]
  calls := h.calls

/-- Where the clocks need not agree one of the two may wait longer. -/
theorem Scene.Like.lag (h : s.Like l W base t) (huntimed : ¬ l.timed) (due : Time) :
    s.Like l W base (t.moveTo due) where
  world := h.world
  origin := h.origin
  now htimed := absurd htimed huntimed
  calls := h.calls

theorem Scene.Like.after (hw : world.Respects l W) (h : s.Like l W base t) {call call' : Call}
    {R : call.Answer → call'.Answer → Prop} (hcall : call.Like l call' R) :
    (s.after world call).Like l W base (t.after world call') := by
  obtain ⟨hworld, hdelay, -⟩ := hw h.world hcall
  obtain ⟨calls, calls', hs, ht, hcalls⟩ := h.calls
  refine ⟨hworld, h.origin, ?_, calls ++ [call], calls' ++ [call'], ?_, ?_, ?_⟩
  · intro htimed
    have hdue : t.now + (world call' t.world).1.delay = s.now + (world call s.world).1.delay := by
      rw [h.now htimed, hdelay htimed]
    show max t.now _ = max s.now _
    rw [hdue, h.now htimed]
  · rw [Scene.after_calls, hs, List.append_assoc]
  · rw [Scene.after_calls, ht, List.append_assoc]
  · exact List.rel_append hcalls (.cons ⟨R, hcall⟩ .nil)

/-- Both of the jobs come to their end, and to values that are alike. -/
theorem Job.Like.carry (hw : world.Respects l W) {α β : Type} {R : α → β → Prop} {job : Job α}
    {job' : Job β} (h : job.Like l R job') (hs : s.Like l W base t) :
    ∃ value value' s' t', job.carry world none s = (.done value, s') ∧
      job'.carry world none t = (.done value', t') ∧ R value value' ∧ s'.Like l W base t' := by
  induction h generalizing s t with
  | done h => exact ⟨_, _, s, t, rfl, rfl, h, hs⟩
  | ask h _ ih =>
    obtain ⟨-, -, answer, answer', hanswer, hanswer', hrelated⟩ := hw hs.world h
    rw [Job.carry_ask_none, Job.carry_ask_none, hanswer, hanswer']
    exact ih answer answer' hrelated (hs.after hw h)
  | pause span h ih =>
    simp only [Job.carry, Job.allows_none, if_true]
    apply ih
    apply hs.moveTo
    intro htimed
    rw [hs.now htimed]

theorem Task.Like.carry (hw : world.Respects l W) {S : H → H → Prop} {α β : Type}
    {R : α → β → Prop} {locked : Bool} {task : Task H α} {task' : Task H β}
    (h : task.Like l S R locked task') {c d : Connection σ H} (hc : c.Like l S W base locked d) :
    ∃ value value' c' d', task.carry world 0 none c = (.done value, c') ∧
      task'.carry world 0 none d = (.done value', d') ∧ R value value' ∧
      c'.Like l S W base false d' := by
  induction h generalizing c d with
  | done h => exact ⟨_, _, c, d, rfl, rfl, h, hc⟩
  | work h _ ih =>
    obtain ⟨value, value', s, t, hjob, hjob', hvalue, hscene⟩ := h.carry hw hc.scene
    rw [Task.carry, Task.carry, hjob, hjob']
    exact ih value value' hvalue ⟨hscene, hc.phase, hc.inventory, hc.lock⟩
  | enter h _ ih =>
    have hphase := hc.phase
    cases hcphase : c.link.phase with
    | connecting number =>
      rw [hcphase] at hphase
      cases hphase
    | connected session =>
      rw [hcphase] at hphase
      generalize hdphase : d.link.phase = phase at hphase
      cases hphase with
      | connected hsession =>
        rw [carry_enter_connected _ _ hcphase, carry_enter_connected _ _ hdphase]
        exact ih _ _ (.ok hsession) hc
    | idle =>
      rw [hcphase] at hphase
      generalize hdphase : d.link.phase = phase at hphase
      cases hphase with
      | idle =>
        obtain ⟨outcome, outcome', s, t, hjob, hjob', houtcome, hscene⟩ := h.carry hw hc.scene
        rw [carry_enter_idle world none 0 _ _ hcphase, carry_enter_idle world none 0 _ _ hdphase,
          hjob, hjob']
        refine ih outcome outcome' houtcome ⟨hscene, ?_, hc.inventory, hc.lock⟩
        cases houtcome with
        | ok hsession => exact .connected hsession
        | error err => exact .idle
  | detach _ ih =>
    have hphase := hc.phase
    have hidle := fun {held held'} (hheld : Option.Rel _ held held') =>
      ih held held' hheld (c := { c with link := c.link.detach.2 })
        (d := { d with link := d.link.detach.2 }) ⟨hc.scene, .idle, hc.inventory, hc.lock⟩
    rw [Task.carry, Task.carry]
    simp only [Link.detach] at hidle ⊢
    generalize c.link.phase = phase at hphase ⊢
    generalize d.link.phase = phase' at hphase ⊢
    cases hphase with
    | idle => exact hidle .none
    | connected hsession => exact hidle (.some hsession)
  | lock access _ ih =>
    have hlock := allows_lock hc.lock access
    have hlock' := allows_lock (c := d) (by rw [hc.inventory]; exact hc.lock) access
    rw [Task.carry, Task.carry]
    simp only [Connection.setLock, hlock, hlock']
    exact ih ⟨hc.scene, hc.phase, by rw [hc.inventory], access, rfl⟩
  | unlock _ ih =>
    obtain ⟨access, hlock⟩ := hc.lock
    refine ih (c := c.release 0) (d := d.release 0) ⟨hc.scene, hc.phase, ?_, ?_⟩
    · simp only [Connection.release, Connection.setLock, hc.inventory]
    · simp [LockIs, Connection.release, Connection.setLock, hlock, Lock.leave, Lock.promote]
  | «recall» serial _ ih =>
    rw [Task.carry, Task.carry, hc.inventory]
    exact ih _ hc
  | beginLookup _ ih => exact ih ⟨hc.scene, hc.phase, by simp only [hc.inventory], hc.lock⟩
  | remember serial slot _ ih =>
    exact ih ⟨hc.scene, hc.phase, by simp only [hc.inventory], hc.lock⟩
  | clock _ ih => exact ih _ _ hc.scene.unixSeconds hc

theorem Task.Like.bind {S : H → H → Prop} {α β γ δ : Type} {Q : α → β → Prop} {R : γ → δ → Prop}
    {locked : Bool} {task : Task H α} {task' : Task H β} {next : α → Task H γ}
    {next' : β → Task H δ} (h : task.Like l S Q locked task')
    (hnext : ∀ value value', Q value value' → (next value).Like l S R false (next' value')) :
    (task.bind next).Like l S R locked (task'.bind next') := by
  induction h with
  | done h => exact hnext _ _ h
  | work h _ ih => exact .work h ih
  | enter h _ ih => exact .enter h ih
  | detach _ ih => exact .detach ih
  | lock access _ ih => exact .lock access ih
  | unlock _ ih => exact .unlock ih
  | «recall» serial _ ih => exact .recall serial ih
  | beginLookup _ ih => exact .beginLookup ih
  | remember serial slot _ ih => exact .remember serial slot ih
  | clock _ ih => exact .clock ih

end Carrying

/-- The same result, but for where a stored screenshot is. -/
inductive ActionResult.Like (l : Likeness) : ActionResult → ActionResult → Prop
  | same (result : ActionResult) : Like l result result
  | stored (token : String) {reference reference' : String} (h : l.reference reference reference') :
      Like l (.succeeded token true reference) (.succeeded token true reference')

theorem ActionResult.Like.token_eq {l : Likeness} {r r' : ActionResult} (h : r.Like l r') :
    r'.token = r.token := by
  cases h <;> rfl

theorem ActionResult.Like.error_eq {l : Likeness} {r r' : ActionResult} (h : r.Like l r') :
    r'.error? = r.error? := by
  cases h <;> rfl

theorem ActionResult.Like.isFailure_eq {l : Likeness} {r r' : ActionResult} (h : r.Like l r') :
    r'.isFailure = r.isFailure := by
  rw [isFailure, isFailure, h.error_eq]

structure Executor.Like (l : Likeness) (S : H → H → Prop) (ex ex' : Executor H ω) : Prop where
  perform : ∀ token op,
    (ex.perform token op).Like l S (ActionResult.Like l) false (ex'.perform token op)
  close : ex.close.Like l S Eq false ex'.close

section Executors

variable {l : Likeness} {S : H → H → Prop} {e e' : Endpoint}

theorem Job.Like.call {call call' : Call} {R : call.Answer → call'.Answer → Prop}
    (h : call.Like l call' R) : (Job.call call).Like l R (Job.call call') :=
  .ask h fun _ _ hanswer => .done hanswer

/-- What is done in an open session is done alike in both, and so is what is done without one. -/
theorem Task.Like.enter_session {α : Type} {connect connect' : Job (Except DriverError H)}
    {next next' : Except DriverError H → Task H α} {R : α → α → Prop}
    (h : connect.Like l (Matching S) connect')
    (herror : ∀ err, (next (.error err)).Like l S R false (next' (.error err)))
    (hopen : ∀ s t, S s t → (next (.ok s)).Like l S R false (next' (.ok t))) :
    (Task.enter connect next).Like l S R false (Task.enter connect' next') := by
  refine .enter h fun outcome outcome' houtcome => ?_
  cases houtcome with
  | ok hsession => exact hopen _ _ hsession
  | error err => exact herror err

/-- A session is released alike in both, if there is one. -/
theorem Task.Like.detach_session {α : Type} {next next' : Option H → Task H α} {R : α → α → Prop}
    (hnone : (next none).Like l S R false (next' none))
    (hopen : ∀ s t, S s t → (next (some s)).Like l S R false (next' (some t))) :
    (Task.detach next).Like l S R false (Task.detach next') := by
  refine .detach fun held held' hheld => ?_
  cases hheld with
  | none => exact hnone
  | some hsession => exact hopen _ _ hsession

theorem like_ofStatus (token : String) (r r' : Except DriverError Bool) (h : r = r') :
    (Task.done (ActionResult.ofStatus token r) : Task H ActionResult).Like l S
      (ActionResult.Like l) false (.done (.ofStatus token r')) := by
  rw [h]
  exact .done (.same _)

theorem server_connect_like (h : l.endpoint e e') :
    (Server.connect e).Like l (Matching (ServerSession.Like l)) (Server.connect e') := by
  refine .ask (.connectHost h) ?_
  rintro answer _ rfl
  cases answer with
  | ok driver => exact .done (.ok ⟨rfl, rfl, h⟩)
  | error err =>
    dsimp only
    split
    · refine .ask (.connectFallback h) ?_
      rintro answer _ rfl
      cases answer with
      | ok driver => exact .done (.ok ⟨rfl, rfl, h⟩)
      | error err => exact .done (.error err)
    · exact .done (.error err)

theorem ServerSession.Like.perform {s t : ServerSession} (h : s.Like l t) (op : ServerOp) :
    (s.perform op).Like l Eq (t.perform op) := by
  rw [ServerSession.perform, ServerSession.perform, h.driver]
  split
  · exact .call (.server h op)
  · exact .done rfl

theorem server_operate_like (h : l.endpoint e e') (op : ServerOp) :
    (Server.operate e op).Like l (ServerSession.Like l) Eq false (Server.operate e' op) :=
  .enter_session (server_connect_like h) (fun _ => .done rfl) fun _ _ hsession =>
    .work (hsession.perform op) fun _ _ hvalue => .done hvalue

theorem server_capture_like (h : l.endpoint e e') :
    (Server.capture e).Like l (ServerSession.Like l) Eq false (Server.capture e') := by
  refine .enter_session (server_connect_like h) (fun _ => .done rfl) fun s t hsession => ?_
  dsimp only
  rw [hsession.backend]
  cases s.backend with
  | fallback => exact .done rfl
  | native =>
    refine .work (.call (.capture hsession)) ?_
    rintro answer _ rfl
    cases answer with
    | ok capture =>
      dsimp only
      rw [hsession.driver]
      exact .done rfl
    | error err => exact .done rfl

theorem screenshot_like (h : l.endpoint e e') (token : String) :
    (Executor.screenshot e token).Like l (ServerSession.Like l) (ActionResult.Like l) false
      (Executor.screenshot e' token) := by
  refine (server_capture_like h).bind ?_
  rintro shot _ rfl
  cases shot with
  | error err => exact .done (.same _)
  | ok shot =>
    refine .clock fun seconds seconds' hseconds => ?_
    dsimp only
    rw [l.host_eq h]
    refine .work (.call (.store _ _ _ _ hseconds)) fun outcome outcome' houtcome => ?_
    cases houtcome with
    | ok hreference => exact .done (.stored token hreference)
    | error err => exact .done (.same _)

theorem server_like (h : l.endpoint e e') :
    (Executor.server e).Like l (ServerSession.Like l) (Executor.server e') where
  perform token op := by
    cases op with
    | operate op => exact (server_operate_like h op).bind (like_ofStatus token)
    | screenshot => exact screenshot_like h token
  close := .detach_session (.done rfl) fun _ _ hsession =>
    .work (.call (.closeServer hsession)) fun _ _ hvalue => .done hvalue

theorem chassis_connect_like (h : l.endpoint e e') :
    (Chassis.connect e).Like l (Matching (ChassisSession.Like l)) (Chassis.connect e') := by
  refine .ask (.connectChassis h) ?_
  rintro answer _ rfl
  cases answer with
  | ok => exact .done (.ok ⟨h⟩)
  | error err => exact .done (.error err)

theorem chassis_operate_like (h : l.endpoint e e') (op : ChassisOp) :
    (Chassis.operate e op).Like l (ChassisSession.Like l) Eq false (Chassis.operate e' op) :=
  .enter_session (chassis_connect_like h) (fun _ => .done rfl) fun _ _ hsession =>
    .work (.call (.chassis hsession op)) fun _ _ hvalue => .done hvalue

theorem chassis_close_like :
    Chassis.close.Like l (ChassisSession.Like l) Eq false Chassis.close :=
  .detach_session (.done rfl) fun _ _ hsession =>
    .work (.call (.closeChassis hsession)) fun _ _ hvalue => .done hvalue

theorem chassis_like (h : l.endpoint e e') :
    (Executor.chassis e).Like l (ChassisSession.Like l) (Executor.chassis e') where
  perform token op := (chassis_operate_like h op).bind (like_ofStatus token)
  close := chassis_close_like

theorem operateBlade_like (h : l.endpoint e e') (op : BladeOp) (slot : Slot) :
    (Chassis.operateBlade e op slot).Like l (ChassisSession.Like l) Eq false
      (Chassis.operateBlade e' op slot) :=
  .enter_session (chassis_connect_like h) (fun _ => .done rfl) fun _ _ hsession =>
    .work (.call (.blade hsession op slot)) fun _ _ hvalue => .done hvalue

theorem resolve_like (serial : String)
    {lookup lookup' : Job (Except DriverError Slot)} (h : lookup.Like l Eq lookup') :
    (Inventory.resolve serial lookup).Like l S Eq false (Inventory.resolve serial lookup') := by
  refine .lock .shared (.recall serial fun slot => ?_)
  cases slot with
  | some slot => exact .unlock (.done rfl)
  | none =>
    refine .unlock (.lock .exclusive (.recall serial fun slot => ?_))
    cases slot with
    | some slot => exact .unlock (.done rfl)
    | none =>
      refine .beginLookup (.work h ?_)
      rintro outcome _ rfl
      cases outcome with
      | ok slot => exact .remember serial slot (.unlock (.done rfl))
      | error err => exact .unlock (.done rfl)

theorem locate_like (h : l.endpoint e e') (locator : Locator) :
    (Chassis.locate e locator).Like l (ChassisSession.Like l) Eq false
      (Chassis.locate e' locator) := by
  cases locator with
  | position slot => exact .done rfl
  | serial serial =>
    exact .enter_session (chassis_connect_like h) (fun _ => .done rfl) fun _ _ hsession =>
      resolve_like serial (.call (.findBlade hsession serial))

theorem blade_like (h : l.endpoint e e') (locator : Locator) :
    (Executor.blade e locator).Like l (ChassisSession.Like l) (Executor.blade e' locator) where
  perform token op := by
    refine (locate_like h locator).bind ?_
    rintro slot _ rfl
    cases slot with
    | ok slot => exact (operateBlade_like h op slot).bind (like_ofStatus token)
    | error err => exact .done (.same _)
  close := chassis_close_like

theorem sleep_like (l : Likeness) : Executor.sleep.Like l Eq Executor.sleep where
  perform _ op := op.elim
  close := .done rfl

end Executors

/-- The second list is the first one, item by item, with other items put in between. -/
inductive Padded {α β : Type} (P : β → Prop) (R : α → β → Prop) : List α → List β → Prop
  | nil : Padded P R [] []
  | keep {a : α} {b : β} {as : List α} {bs : List β} (h : R a b) (more : Padded P R as bs) :
      Padded P R (a :: as) (b :: bs)
  | insert {b : β} {as : List α} {bs : List β} (h : P b) (more : Padded P R as bs) :
      Padded P R as (b :: bs)

theorem Padded.refl {α : Type} {P : α → Prop} (as : List α) : Padded P Eq as as := by
  induction as with
  | nil => exact .nil
  | cons a as ih => exact .keep rfl ih

section Padding

variable {α β : Type} {P : β → Prop} {R : α → β → Prop} {as : List α} {bs : List β}

/-- Where nothing is put in between the lists go together. -/
theorem Padded.forall₂ (h : Padded P R as bs) (hnone : ∀ b, ¬ P b) : List.Forall₂ R as bs := by
  induction h with
  | nil => exact .nil
  | keep h _ ih => exact .cons h ih
  | insert h _ _ => exact absurd h (hnone _)

/-- Without what was put in the lists go together. -/
theorem Padded.filter (h : Padded P R as bs) {p : α → Bool} {q : β → Bool}
    (hkeep : ∀ a b, R a b → q b = p a) (hinsert : ∀ b, P b → q b = false) :
    List.Forall₂ R (as.filter p) (bs.filter q) := by
  induction h with
  | nil => exact .nil
  | keep h _ ih =>
    rw [List.filter_cons, List.filter_cons, hkeep _ _ h]
    split
    · exact .cons h ih
    · exact ih
  | insert h _ ih =>
    rw [List.filter_cons, hinsert _ h]
    exact ih

theorem Padded.mem (h : Padded P R as bs) : ∀ b ∈ bs, P b ∨ ∃ a ∈ as, R a b := by
  induction h with
  | nil => simp
  | keep h _ ih =>
    refine List.forall_mem_cons.mpr ⟨Or.inr ⟨_, List.mem_cons_self, h⟩, fun b hb => ?_⟩
    rcases ih b hb with hP | ⟨a, ha, hR⟩
    · exact Or.inl hP
    · exact Or.inr ⟨a, List.mem_cons_of_mem _ ha, hR⟩
  | insert h _ ih => exact List.forall_mem_cons.mpr ⟨Or.inl h, ih⟩

theorem Padded.exists_of_mem (h : Padded P R as bs) : ∀ a ∈ as, ∃ b ∈ bs, R a b := by
  induction h with
  | nil => simp
  | keep h _ ih =>
    refine List.forall_mem_cons.mpr ⟨⟨_, List.mem_cons_self, h⟩, fun a ha => ?_⟩
    obtain ⟨b, hb, hR⟩ := ih a ha
    exact ⟨b, List.mem_cons_of_mem _ hb, hR⟩
  | insert _ _ ih =>
    intro a ha
    obtain ⟨b, hb, hR⟩ := ih a ha
    exact ⟨b, List.mem_cons_of_mem _ hb, hR⟩

end Padding

/-- The step waits, and its token is one of those that may be put in. -/
def Step.Pauses (P : String → Prop) (step : Step ω) : Prop := step.waits ∧ P step.token

/-- The result of a wait for such a token. -/
def ActionResult.Pauses (P : String → Prop) (result : ActionResult) : Prop :=
  ∃ token, P token ∧ result = .succeeded token true

/-- The steps of the second plan are those of the first, with waits put in between. -/
inductive Plan.Padded (P : String → Prop) : Plan → Plan → Prop
  | server (address : String) {steps steps' : List (Step ServerWork)}
      (h : Outband.Padded (Step.Pauses P) Eq steps steps') :
      Padded P (.server address steps) (.server address steps')
  | chassis (address : String) {steps steps' : List (Step ChassisOp)}
      (h : Outband.Padded (Step.Pauses P) Eq steps steps') :
      Padded P (.chassis address steps) (.chassis address steps')
  | blade (address : String) (locator : Locator) {steps steps' : List (Step BladeOp)}
      (h : Outband.Padded (Step.Pauses P) Eq steps steps') :
      Padded P (.blade address locator steps) (.blade address locator steps')
  | sleep {steps steps' : List (Step Empty)}
      (h : Outband.Padded (Step.Pauses P) Eq steps steps') :
      Padded P (.sleep steps) (.sleep steps')

theorem Plan.Padded.refl {P : String → Prop} (plan : Plan) : plan.Padded P plan := by
  cases plan with
  | server address steps => exact .server address (.refl steps)
  | chassis address steps => exact .chassis address (.refl steps)
  | blade address locator steps => exact .blade address locator (.refl steps)
  | sleep steps => exact .sleep (.refl steps)

/-- Two runs that came to their end, the second one with waits put in between. -/
structure EndsLike (l : Likeness) (W : σ → σ → Prop) (base : List Call) (P : String → Prop)
    (r r' : RunReport × Scene σ) : Prop where
  results : Padded (ActionResult.Pauses P) (ActionResult.Like l) r.1.results r'.1.results
  halt : r.1.halt = .finished ∧ r'.1.halt = .finished
  cleanups : r.1.cleanups = 1 ∧ r'.1.cleanups = 1
  elapsed : l.timed → r'.1.elapsed = r.1.elapsed
  scene : r.2.Like l W base r'.2

section Running

variable {l : Likeness} {S : H → H → Prop} {W : σ → σ → Prop} {world : World σ}
  {base : List Call} {ex ex' : Executor H ω} {P : String → Prop}

theorem Step.task_like (hex : ex.Like l S ex') (step : Step ω) :
    (step.task ex).Like l S (ActionResult.Like l) false (step.task ex') := by
  unfold Step.task
  cases step.work with
  | sleep nanos => exact .work (.pause _ (.done (.same _))) fun _ _ hvalue => .done hvalue
  | operate op => exact hex.perform step.token op

/-- A wait that is put in delays what comes after it, and that is all. -/
theorem Step.Pauses.carry {step : Step ω} (h : step.Pauses P) (world : World σ)
    (ex : Executor H ω) (d : Connection σ H) :
    ∃ due, (step.task ex).carry world 0 none d =
      (.done (.succeeded step.token true), { d with scene := d.scene.moveTo due }) := by
  obtain ⟨hwaits, -⟩ := h
  obtain ⟨token, work⟩ := step
  cases work with
  | operate op => cases hwaits
  | sleep nanos =>
    have hwait := carry_wait world 0 none (milliseconds nanos) (ActionResult.succeeded token true) d
    rw [if_pos (Job.allows_none _ _)] at hwait
    exact ⟨_, hwait⟩

theorem Executor.Like.runSteps (hex : ex.Like l S ex') (hw : world.Respects l W)
    (hP : ∀ token, P token → ¬ l.timed) {steps steps' : List (Step ω)}
    (hsteps : Padded (Step.Pauses P) Eq steps steps') {c d : Connection σ H}
    (hc : c.Like l S W base false d) :
    ∃ results results' c' d', Outband.runSteps world none ex steps c = (results, .finished, c') ∧
      Outband.runSteps world none ex' steps' d = (results', .finished, d') ∧
      Padded (ActionResult.Pauses P) (ActionResult.Like l) results results' ∧
      c'.Like l S W base false d' := by
  induction hsteps generalizing c d with
  | nil => exact ⟨[], [], c, d, rfl, rfl, .nil, hc⟩
  | @keep step _ steps steps' hsame _ ih =>
    subst hsame
    obtain ⟨result, result', c', d', hrun, hrun', hresult, hend⟩ :=
      (step.task_like hex).carry hw hc
    cases hfails : result.isFailure with
    | true =>
      have hfails' : result'.isFailure := hresult.isFailure_eq.trans hfails
      exact ⟨[result], [result'], c', d', runSteps_failed hrun hfails,
        runSteps_failed hrun' hfails', .keep hresult .nil, hend⟩
    | false =>
      have hfails' : result'.isFailure = false := hresult.isFailure_eq.trans hfails
      obtain ⟨results, results', c'', d'', hruns, hruns', hresults, hend⟩ := ih hend
      refine ⟨result :: results, result' :: results', c'', d'', ?_, ?_, .keep hresult hresults,
        hend⟩
      · rw [Outband.runSteps, hrun]
        simp [hfails, hruns]
      · rw [Outband.runSteps, hrun']
        simp [hfails', hruns']
  | @insert step steps steps' hpauses _ ih =>
    obtain ⟨due, hwait⟩ := hpauses.carry world ex' d
    have hlag : c.Like l S W base false { d with scene := d.scene.moveTo due } :=
      ⟨hc.scene.lag (hP step.token hpauses.2) due, hc.phase, hc.inventory, hc.lock⟩
    obtain ⟨results, results', c', d', hruns, hruns', hresults, hend⟩ := ih hlag
    refine ⟨results, .succeeded step.token true :: results', c', d', hruns, ?_,
      .insert ⟨step.token, hpauses.2, rfl⟩ hresults, hend⟩
    rw [Outband.runSteps, hwait]
    simp [ActionResult.isFailure, ActionResult.succeeded, hruns']

theorem Executor.Like.run (hex : ex.Like l S ex') (hw : world.Respects l W)
    (hP : ∀ token, P token → ¬ l.timed) {steps steps' : List (Step ω)}
    (hsteps : Padded (Step.Pauses P) Eq steps steps') {s t : Scene σ} (hs : s.Like l W base t) :
    EndsLike l W base P (ex.run world none steps s) (ex'.run world none steps' t) := by
  have hc : Connection.Like l S W base false { scene := s } { scene := t } :=
    ⟨hs, .idle, rfl, rfl⟩
  obtain ⟨results, results', c, d, hruns, hruns', hresults, hend⟩ := hex.runSteps hw hP hsteps hc
  obtain ⟨_, _, c', d', hclose, hclose', -, hclosed⟩ := hex.close.carry hw hend
  rw [run_eq_finish hruns (by simp), run_eq_finish hruns' (by simp), Executor.finish,
    Executor.finish, hclose, hclose']
  refine ⟨hresults, ⟨rfl, rfl⟩, ⟨rfl, rfl⟩, fun htimed => ?_, hclosed.scene⟩
  show d'.scene.now - t.now = c'.scene.now - s.now
  rw [hclosed.scene.now htimed, hs.now htimed]

/-- Plans that differ in their waits alone run alike, if the clocks need not agree wherever there
are any. -/
theorem Plan.Padded.run {plan plan' : Plan} (h : plan.Padded P plan') (hw : world.Respects l W)
    (hP : ∀ token, P token → ¬ l.timed) {credentials credentials' : Credentials}
    (hcredentials : ∀ address, l.endpoint ⟨address, credentials⟩ ⟨address, credentials'⟩)
    {s t : Scene σ} (hs : s.Like l W base t) :
    EndsLike l W base P (plan.run world credentials none s)
      (plan'.run world credentials' none t) := by
  cases h with
  | server address h => exact (server_like (hcredentials address)).run hw hP h hs
  | chassis address h => exact (chassis_like (hcredentials address)).run hw hP h hs
  | blade address locator h => exact (blade_like (hcredentials address) locator).run hw hP h hs
  | sleep h => exact (sleep_like l).run hw hP h hs

end Running

end Outband
