import Outband.Plan.Run
import Outband.Proofs.Trace
/-! Tasks that open one session at most and use no other. -/

namespace Outband

/-- What happened since the log stood at `base`. -/
def Since (base : List Event) (P : List Event → Prop) (log : List Event) : Prop :=
  ∃ events, log = base ++ events ∧ P events

@[simp] theorem since_append {base events : List Event} {P : List Event → Prop} :
    Since base P (base ++ events) ↔ P events := by
  constructor
  · rintro ⟨other, heq, h⟩
    rwa [List.append_cancel_left heq]
  · intro h
    exact ⟨events, rfl, h⟩

/-- A call for which the session is used, or which needs none. -/
def OpenSession.Admits (s : OpenSession) (call : Call) : Prop :=
  call.session? = some s ∨ call.isStore

theorem OpenSession.Admits.isConnect_isClose {s : OpenSession} {call : Call} (h : s.Admits call) :
    call.isConnect = false ∧ call.isClose = false := by
  rcases h with h | h <;> cases call <;>
    simp_all [Call.session?, Call.isStore, Call.isConnect, Call.isClose]

/-- There was no call but to connect, and no session came of it. -/
structure Unopened (connects crashed : List Call) (events : List Event) : Prop where
  sessions : sessionsOf events = []
  calls : callsOf events <+: connects
  crashes : crashesOf events = crashed

/-- The session was opened, then used up to the calls that close it. -/
structure Used (connects crashed closing : List Call) (s : OpenSession) (events : List Event) :
    Prop where
  life : ∃ before after operations, events = before ++ after ∧
    callsOf before <+: connects ∧ sessionsOf before = [s] ∧
    callsOf after = operations ++ closing ∧ sessionsOf after = [] ∧
    ∀ call ∈ operations, s.Admits call
  crashes : crashesOf events = crashed

theorem Used.opened {connects : List Call} {s : OpenSession} {events : List Event}
    (hcalls : callsOf events <+: connects) (hsess : sessionsOf events = [s])
    (hcrash : crashesOf events = []) : Used connects [] [] s events :=
  ⟨⟨events, [], [], by simp, hcalls, hsess, rfl, rfl, by simp⟩, hcrash⟩

/-- A job that consists of one call. -/
def Job.Asks (call : Call) (job : Job α) : Prop :=
  ∃ next, job = .ask call next ∧ ∀ answer, ∃ value, next answer = .done value

theorem Job.asks_call (call : Call) : (Job.call call).Asks call :=
  ⟨.done, rfl, fun answer => ⟨answer, rfl⟩⟩

/-- What is promised of connecting. -/
def opening (connects : List Call) (session : H → OpenSession) (base : List Event) :
    Job.Contract (Except DriverError H) where
  waiting := Since base (Unopened connects [])
  broken call := Since base fun events => call.isConnect ∧ Unopened connects [call] events
  final
    | .ok h => Since base (Used connects [] [] (session h))
    | .error _ => Since base (Unopened connects [])

theorem server_connect_keeps (e : Endpoint) (base : List Event) :
    (Server.connect e).Keeps
      (opening [.connectHost e, .connectFallback e] OpenSession.server base) base := by
  refine ⟨since_append.mpr ⟨rfl, by simp, rfl⟩, since_append.mpr ⟨rfl, rfl, by simp, rfl⟩,
    fun answer => ?_⟩
  cases answer with
  | ok driver => exact since_append.mpr (.opened (by simp) rfl rfl)
  | error err =>
    by_cases hun : err.isUnsupported
    · simp only [hun, if_true]
      refine ⟨?_, ?_, fun answer => ?_⟩ <;> rw [List.append_assoc]
      · exact since_append.mpr ⟨rfl, by simp, rfl⟩
      · exact since_append.mpr ⟨rfl, rfl, by simp, rfl⟩
      cases answer with
      | ok driver => exact since_append.mpr (.opened (by simp) rfl rfl)
      | error err => exact since_append.mpr ⟨rfl, by simp, rfl⟩
    · simp only [if_neg hun]
      exact since_append.mpr ⟨rfl, by simp, rfl⟩

theorem chassis_connect_keeps (e : Endpoint) (base : List Event) :
    (Chassis.connect e).Keeps (opening [.connectChassis e] OpenSession.chassis base) base := by
  refine ⟨since_append.mpr ⟨rfl, by simp, rfl⟩, since_append.mpr ⟨rfl, rfl, by simp, rfl⟩,
    fun answer => ?_⟩
  cases answer with
  | ok _ => exact since_append.mpr (.opened (by simp) rfl rfl)
  | error err => exact since_append.mpr ⟨rfl, by simp, rfl⟩

/-- How sessions of a kind are opened and closed. -/
structure Trade (H : Type) where
  connects : List Call
  session : H → OpenSession
  connect : Job (Except DriverError H)
  close : H → Job (Except DriverError Unit)
  connect_keeps : ∀ base, connect.Keeps (opening connects session base) base
  close_asks : ∀ h, (close h).Asks (session h).close

namespace Trade

def server (e : Endpoint) : Trade ServerSession where
  connects := [.connectHost e, .connectFallback e]
  session := .server
  connect := Server.connect e
  close s := Job.call (.closeServer s)
  connect_keeps := server_connect_keeps e
  close_asks _ := Job.asks_call _

def chassis (e : Endpoint) : Trade ChassisSession where
  connects := [.connectChassis e]
  session := .chassis
  connect := Chassis.connect e
  close s := Job.call (.closeChassis s)
  connect_keeps := chassis_connect_keeps e
  close_asks _ := Job.asks_call _

end Trade

/-- A task that connects before it uses the session, does nothing else with it, and fails at once
when it cannot connect. `held` is the session that it is known to have, `locked` says that it holds
the lock of the inventory. -/
inductive Orderly (t : Trade H) (Fails : α → Prop) : Option H → Bool → Task H α → Prop
  | done {held} (value : α) : Orderly t Fails held false (.done value)
  | enter {held next} (ok : ∀ h, Orderly t Fails (some h) false (next (.ok h)))
      (error : ∀ err, ∃ value, next (.error err) = .done value ∧ Fails value) :
      Orderly t Fails held false (.enter t.connect next)
  | ask {h locked β call next} {job : Job β} (asks : job.Asks call)
      (admitted : (t.session h).Admits call)
      (rest : ∀ value, Orderly t Fails (some h) locked (next value)) :
      Orderly t Fails (some h) locked (.work job next)
  | skip {held locked β next} (value : β) (rest : Orderly t Fails held locked (next value)) :
      Orderly t Fails held locked (.work (.done value) next)
  | pause {held locked β next} (span : Time) (value : β)
      (rest : Orderly t Fails held locked (next value)) :
      Orderly t Fails held locked (.work (.pause span (.done value)) next)
  | lock {held next} (access : Access) (rest : Orderly t Fails held true next) :
      Orderly t Fails held false (.lock access next)
  | unlock {held next} (rest : Orderly t Fails held false next) :
      Orderly t Fails held true (.unlock next)
  | recall {held locked next} (serial : String)
      (rest : ∀ slot, Orderly t Fails held locked (next slot)) :
      Orderly t Fails held locked (.recall serial next)
  | beginLookup {held locked next} (rest : Orderly t Fails held locked next) :
      Orderly t Fails held locked (.beginLookup next)
  | remember {held locked next} (serial : String) (slot : Slot)
      (rest : Orderly t Fails held locked next) :
      Orderly t Fails held locked (.remember serial slot next)
  | clock {held locked next} (rest : ∀ seconds, Orderly t Fails held locked (next seconds)) :
      Orderly t Fails held locked (.clock next)

/-! The states of a connection that only one caller uses, since the log stood at `base`. -/

section States

variable (t : Trade H) (base : List Event) (c : Connection σ H)

/-- The session is open. -/
def HasSession (crashed : List Call) (h : H) : Prop :=
  c.link.phase = .connected h ∧ Since base (Used t.connects crashed [] (t.session h)) c.scene.log

/-- Nothing was done, or the session is open. -/
def Ready : Option H → Prop
  | some h => HasSession t base c [] h
  | none => (c.link = {} ∧ c.scene.log = base) ∨ ∃ h, HasSession t base c [] h

/-- Connecting has failed. -/
def GaveUp : Prop :=
  c.link.phase = .idle ∧ Since base (Unopened t.connects []) c.scene.log

/-- Connecting has crashed, and its attempt is still the link's. -/
def Stranded (call : Call) : Prop :=
  c.link.phase = .connecting 0 ∧ c.link.attempts = [.crashed] ∧ call.isConnect ∧
    Since base (Unopened t.connects [call]) c.scene.log

/-- Connecting goes on. -/
def Connecting : Prop :=
  ∃ job, c.link.phase = .connecting 0 ∧ c.link.attempts = [.running job] ∧
    job.Keeps (opening t.connects t.session base) c.scene.log

/-- A call has crashed. -/
def Broken (call : Call) : Prop :=
  (call.isConnect = false ∧ call.isClose = false ∧ ∃ h, HasSession t base c [call] h) ∨
    Stranded t base c call

/-- What an orderly task leaves, wherever it stops. -/
def Carried (Fails : α → Prop) (limit : Limit) : Task H α × Connection σ H → Prop
  | (.done value, c) => c.inventory.lock = {} ∧ (Ready t base c none ∨ Fails value ∧ GaveUp t base c)
  | (.crashed cause, c) => ∃ call, cause = .call call ∧ Broken t base c call
  | (_, c) => limit.isSome ∧ (Ready t base c none ∨ Connecting t base c)

end States

/-- On a fresh link the caller runs the attempt that it starts. -/
theorem carry_enter_fresh (world : World σ) (limit : Limit) (owner : Nat)
    (connect : Job (Except DriverError H)) (next : Except DriverError H → Task H α)
    (c : Connection σ H) (h : c.link = {}) :
    (Task.enter connect next).carry world owner limit c =
      match connect.carry world limit c.scene with
      | (.done outcome, s) =>
        (next outcome).carry world owner limit
          ({ c with link := ⟨.connecting 0, [.ended outcome]⟩, scene := s }.settle 0 outcome)
      | (.crashed cause, s) =>
        (.crashed cause,
          { c with link := ⟨.connecting 0, [.crashed]⟩, scene := s }.release owner)
      | (job, s) =>
        (.join 0 next, { c with link := ⟨.connecting 0, [.running job]⟩, scene := s }) := by
  rw [Task.carry, h]
  simp only [Link.start, Connection.advance, Link.advance, Link.record, List.nil_append,
    List.length_nil, List.getElem?_cons_zero, List.set_cons_zero]
  rcases connect.carry world limit c.scene with ⟨job, s⟩
  cases job <;> rfl

variable {t : Trade H} {base : List Event}

theorem allows_lock {c : Connection σ H} (h : c.inventory.lock = {}) (access : Access) :
    c.inventory.lock.request 0 access = ⟨[(0, access)], []⟩ := by
  rw [h]
  cases access <;> rfl

/-- The lock is free, or held by the one caller there is. -/
def LockIs (locked : Bool) (l : Lock) : Prop :=
  if locked then ∃ access, l = ⟨[(0, access)], []⟩ else l = {}

theorem Ready.congr {held : Option H} {c d : Connection σ H} (h : Ready t base c held)
    (hlink : d.link = c.link) (hlog : d.scene.log = c.scene.log) : Ready t base d held := by
  cases held <;> simpa only [Ready, HasSession, hlink, hlog] using h

theorem Ready.mono {held : Option H} {c : Connection σ H} (h : Ready t base c held) :
    Ready t base c none := by
  cases held with
  | none => exact h
  | some s => exact Or.inr ⟨s, h⟩

/-- What is promised of one call on an open session, which leaves it used up to `closing`. -/
def calling (t : Trade H) (base : List Event) (crashed closing : List Call) (h : H) (call : Call) :
    Job.Contract β where
  waiting := Since base (Used t.connects crashed closing (t.session h))
  broken other log := other = call ∧
    Since base (Used t.connects (crashed ++ [call]) closing (t.session h)) log
  final _ := Since base (Used t.connects crashed closing (t.session h))

theorem calling_keeps {crashed closing : List Call} {call : Call} {job : Job β} {h : H}
    (ha : job.Asks call) (hconnect : call.isConnect = false)
    (hcall : ∀ events more, Used t.connects crashed [] (t.session h) events →
      callsOf more = [call] → sessionsOf more = [] →
      Used t.connects (crashed ++ crashesOf more) closing (t.session h) (events ++ more))
    {log : List Event} (hl : Since base (Used t.connects crashed [] (t.session h)) log) :
    job.Keeps (calling t base crashed closing h call) log := by
  obtain ⟨next, rfl, hnext⟩ := ha
  obtain ⟨events, rfl, hused⟩ := hl
  refine ⟨?_, ⟨rfl, ?_⟩, fun answer => ?_⟩
  · rw [List.append_assoc]
    refine since_append.mpr ?_
    simpa using hcall _ [.called call] hused rfl rfl
  · rw [List.append_assoc]
    exact since_append.mpr
      (hcall _ [.called call, .ended call .crashes] hused rfl (sessionsOf_crashed [] call))
  · obtain ⟨value, hv⟩ := hnext answer
    rw [hv, List.append_assoc]
    refine since_append.mpr ?_
    simpa using hcall _ [.called call, .ended call (.returns answer)] hused rfl
      (sessionsOf_ended [] call _ hconnect)

/-- An operation on the open session leaves it open. -/
theorem Used.operate {connects crashed : List Call} {s : OpenSession} {call : Call}
    {events more : List Event} (h : Used connects crashed [] s events) (hs : s.Admits call)
    (hcalls : callsOf more = [call]) (hsess : sessionsOf more = []) :
    Used connects (crashed ++ crashesOf more) [] s (events ++ more) := by
  obtain ⟨⟨before, after, operations, rfl, hpre, hone, heq, hnone, hops⟩, hcrash⟩ := h
  refine ⟨⟨before, after ++ more, operations ++ [call], by simp, hpre, hone, ?_, ?_, ?_⟩, ?_⟩
  · simp [heq, hcalls]
  · simp [hnone, hsess]
  · intro other hmem
    rcases List.mem_append.mp hmem with hmem | hmem
    · exact hops other hmem
    · rw [List.mem_singleton.mp hmem]
      exact hs
  · rw [crashesOf_append, hcrash]

theorem Used.close {connects crashed : List Call} {s : OpenSession} {events more : List Event}
    (h : Used connects crashed [] s events) (hcalls : callsOf more = [s.close])
    (hsess : sessionsOf more = []) :
    Used connects (crashed ++ crashesOf more) [s.close] s (events ++ more) := by
  obtain ⟨⟨before, after, operations, rfl, hpre, hone, heq, hnone, hops⟩, hcrash⟩ := h
  refine ⟨⟨before, after ++ more, operations, by simp, hpre, hone, ?_, ?_, hops⟩, ?_⟩
  · simp [heq, hcalls]
  · simp [hnone, hsess]
  · rw [crashesOf_append, hcrash]

/-- A session that is open when a caller enters is used, otherwise one is opened. -/
theorem Orderly.carried_enter {Fails : α → Prop} {world : World σ} {limit : Limit}
    {next : Except DriverError H → Task H α} {c : Connection σ H}
    (hr : Ready t base c none) (hl : c.inventory.lock = {})
    (error : ∀ err, ∃ value, next (.error err) = .done value ∧ Fails value)
    (ih : ∀ h {c : Connection σ H}, Ready t base c (some h) → c.inventory.lock = {} →
      Carried t base Fails limit ((next (.ok h)).carry world 0 limit c)) :
    Carried t base Fails limit ((Task.enter t.connect next).carry world 0 limit c) := by
  -- Only a fresh link starts an attempt. An open session is used as it is.
  rcases hr with ⟨hlink, hlog⟩ | ⟨h, hphase, hused⟩
  · have hopen := Job.carry_holds world limit (s := c.scene) (t.connect_keeps c.scene.log)
    rw [carry_enter_fresh _ _ _ _ _ _ hlink]
    rw [hlog] at hopen
    generalize t.connect.carry world limit c.scene = carried at hopen ⊢
    obtain ⟨job, s⟩ := carried
    cases job with
    | done outcome =>
      cases outcome with
      | ok h => exact ih h ⟨rfl, hopen⟩ hl
      | error err =>
        obtain ⟨value, hv, hfails⟩ := error err
        simp only [hv, Task.carry]
        exact ⟨hl, Or.inr ⟨hfails, rfl, hopen⟩⟩
    | crashed cause =>
      obtain ⟨call, rfl, events, hlog, hconnect, hun⟩ := hopen
      exact ⟨call, rfl, Or.inr ⟨rfl, rfl, hconnect, events, hlog, hun⟩⟩
    | _ => exact ⟨hopen.1, Or.inr ⟨_, rfl, rfl, hopen.2.2⟩⟩
  · rw [Task.carry, hphase]
    exact ih h ⟨hphase, hused⟩ hl

theorem Orderly.carried {Fails : α → Prop} {held : Option H} {locked : Bool} {task : Task H α}
    (ho : Orderly t Fails held locked task) (world : World σ) (limit : Limit) {c : Connection σ H}
    (hr : Ready t base c held) (hl : LockIs locked c.inventory.lock) :
    Carried t base Fails limit (task.carry world 0 limit c) := by
  induction ho generalizing c with
  | done value => exact ⟨hl, Or.inl hr.mono⟩
  | enter _ error ih => exact carried_enter hr.mono hl error fun h _ => ih h
  | @ask h locked β call next job asks admitted _ ih =>
    obtain ⟨hconnect, hclose⟩ := admitted.isConnect_isClose
    have hkeeps := calling_keeps asks hconnect (fun _ _ hu => hu.operate admitted) hr.2
    have hjob := Job.carry_holds world limit (s := c.scene) hkeeps
    rw [Task.carry]
    generalize job.carry world limit c.scene = carried at hjob ⊢
    obtain ⟨job, s⟩ := carried
    cases job with
    | done value => exact ih value ⟨hr.1, hjob⟩ hl
    | crashed cause =>
      obtain ⟨call, rfl, rfl, hused⟩ := hjob
      exact ⟨call, rfl, Or.inl ⟨hconnect, hclose, h, hr.1, hused⟩⟩
    | _ => exact ⟨hjob.1, Or.inl (Or.inr ⟨h, hr.1, hjob.2.1⟩)⟩
  | skip value _ ih => exact ih hr hl
  | pause span value _ ih =>
    simp only [Task.carry, Job.carry]
    by_cases hdue : limit.allows c.scene.now (c.scene.now + span)
    · rw [if_pos hdue]
      exact ih (hr.congr rfl rfl) hl
    · rw [if_neg hdue]
      exact ⟨Job.isSome_of_not_allows hdue, Or.inl (hr.mono.congr rfl rfl)⟩
  | lock access _ ih =>
    have hlock := allows_lock hl access
    rw [Task.carry]
    simp only [Connection.setLock, hlock]
    exact ih (hr.congr rfl rfl) ⟨access, rfl⟩
  | unlock _ ih =>
    obtain ⟨access, hlock⟩ := hl
    refine ih (hr.congr rfl rfl : Ready t base (c.release 0) _) ?_
    simp [LockIs, Connection.release, Connection.setLock, hlock, Lock.leave, Lock.promote]
  | «recall» serial _ ih => exact ih _ hr hl
  | beginLookup _ ih => exact ih hr hl
  | remember serial slot _ ih => exact ih hr hl
  | clock _ ih => exact ih _ hr hl

/-- An executor whose actions are orderly, and which closes the session that it finds. -/
structure Executor.Keeps (t : Trade H) (ex : Executor H ω) : Prop where
  perform : ∀ token op, Orderly t (fun r : ActionResult => r.isFailure) none false
    (ex.perform token op)
  close : ex.close = .detach fun
    | some h => .work (t.close h) .done
    | none => .done (.ok ())

theorem ServerSession.perform_cases (s : ServerSession) (op : ServerOp) :
    (s.driver.refusal? op = none ∧ s.perform op = Job.call (.server s op)) ∨
      ∃ cause, s.driver.refusal? op = some cause ∧ s.perform op = .done (.error cause) := by
  rw [ServerSession.perform]
  cases s.driver.refusal? op with
  | none => exact Or.inl ⟨rfl, rfl⟩
  | some cause => exact Or.inr ⟨cause, rfl, rfl⟩

theorem server_keeps (e : Endpoint) : (Executor.server e).Keeps (.server e) where
  perform token op := by
    cases op with
    | operate op =>
      refine .enter (fun h => ?_) (fun err => ⟨_, rfl, rfl⟩)
      show Orderly _ _ _ _ (Task.work (h.perform op) fun r => .done (ActionResult.ofStatus token r))
      rcases h.perform_cases op with ⟨-, hp⟩ | ⟨cause, -, hp⟩ <;> rw [hp]
      · exact .ask (Job.asks_call _) (Or.inl rfl) fun _ => .done _
      · exact .skip _ (.done _)
    | screenshot =>
      refine .enter (fun h => ?_) (fun err => ⟨_, rfl, rfl⟩)
      obtain ⟨backend, endpoint, driver⟩ := h
      cases backend with
      | native =>
        refine .ask (Job.asks_call _) (Or.inl rfl) fun r => ?_
        cases r with
        | ok capture =>
          refine .clock fun seconds => .ask (Job.asks_call _) (Or.inr rfl) fun r => ?_
          cases r <;> exact .done _
        | error err => exact .done _
      | fallback => exact .done _
  close := congrArg Task.detach (funext fun session => by cases session <;> rfl)

theorem chassis_keeps (e : Endpoint) : (Executor.chassis e).Keeps (.chassis e) where
  perform token op :=
    .enter (fun _ => .ask (Job.asks_call _) (Or.inl rfl) fun _ => .done _)
      (fun _ => ⟨_, rfl, rfl⟩)
  close := congrArg Task.detach (funext fun session => by cases session <;> rfl)

theorem operateBlade_orderly (e : Endpoint) (token : String) (op : BladeOp) (slot : Slot)
    (held : Option ChassisSession) :
    Orderly (.chassis e) (fun r : ActionResult => r.isFailure) held false
      ((Chassis.operateBlade e op slot).bind fun r => .done (.ofStatus token r)) :=
  .enter (fun _ => .ask (Job.asks_call _) (Or.inl rfl) fun _ => .done _)
    (fun _ => ⟨_, rfl, rfl⟩)

theorem blade_keeps (e : Endpoint) (locator : Locator) :
    (Executor.blade e locator).Keeps (.chassis e) where
  perform token op := by
    cases locator with
    | position slot => exact operateBlade_orderly e token op slot none
    | serial serial =>
      refine .enter (fun h => ?_) (fun err => ⟨_, rfl, rfl⟩)
      refine .lock _ (.recall _ fun slot => ?_)
      cases slot with
      | some slot => exact .unlock (operateBlade_orderly e token op slot _)
      | none =>
        refine .unlock (.lock _ (.recall _ fun slot => ?_))
        cases slot with
        | some slot => exact .unlock (operateBlade_orderly e token op slot _)
        | none =>
          refine .beginLookup (.ask (Job.asks_call _) (Or.inl rfl) fun r => ?_)
          cases r with
          | ok slot => exact .remember _ _ (.unlock (operateBlade_orderly e token op slot _))
          | error err => exact .unlock (.done _)
  close := congrArg Task.detach (funext fun session => by cases session <;> rfl)

end Outband
