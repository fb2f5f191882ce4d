import Outband.Proofs.Callers
import Outband.Rehearsal
import Outband.Server
/-! Which driver serves the callers of a server's connection, whatever they do at the same time: the
one that the attempt to connect ended with from which their session comes. -/

namespace Outband

/-- The caller waits for this attempt, to use what it brings or to release it. -/
def Visit.Waits (number : Nat) (v : Visit H) : Prop :=
  v.Awaits number ∨ ∃ attempts, v = .detached (.connecting number) attempts

/-- The session that a caller has by this visit, once this attempt has ended with it. -/
inductive Visit.Brings (session : H) (number : Nat) : Visit H → Prop
  | opened : Brings session number (.opened number)
  | joined : Brings session number (.joined number)
  | reused : Brings session number (.reused session)
  | took (attempts : Nat) : Brings session number (.detached (.connected session) attempts)
  | reclaimed (attempts : Nat) : Brings session number (.detached (.connecting number) attempts)

/-- The session that the caller has by this visit comes from an attempt of the link. -/
def Link.Gave (l : Link H) (visit : Visit H) (session : H) : Prop :=
  ∃ number, visit.Brings session number ∧ l.attempts[number]? = some (.ended (.ok session))

theorem Link.Gave.grows {l m : Link H} {visit : Visit H} {session : H} (h : l.Gave visit session)
    (hg : l.Grows m) : m.Gave visit session := by
  obtain ⟨number, hbrings, hended⟩ := h
  exact ⟨number, hbrings, hg.kept hended rfl⟩

theorem Visit.Awaits.eq {visit : Visit H} {number other : Nat} (h : visit.Awaits number)
    (ho : visit.Awaits other) : other = number := by
  rcases h with rfl | rfl <;> rcases ho with ho | ho <;> cases ho <;> rfl

theorem Visit.Awaits.brings {visit : Visit H} {number : Nat} (h : visit.Awaits number)
    (session : H) : visit.Brings session number := by
  rcases h with rfl | rfl
  · exact .opened
  · exact .joined

namespace Server

/-- What was asked of the drivers by an attempt to connect that ended so. The fallback driver is
asked once, and only when the native driver does not know the server. Its answer is final. -/
inductive Attempted (e : Endpoint) : List Event → Except DriverError ServerSession → Prop
  | native (driver : Driver) :
    Attempted e
      [.called (.connectHost e), .ended (.connectHost e) (.returns (.ok driver))]
      (.ok ⟨.native, e, driver⟩)
  | refused (cause : DriverError) (h : cause.isUnsupported = false) :
    Attempted e
      [.called (.connectHost e), .ended (.connectHost e) (.returns (.error cause))]
      (.error cause)
  | fallback (unknown : DriverError) (h : unknown.isUnsupported) (driver : Driver) :
    Attempted e
      [.called (.connectHost e), .ended (.connectHost e) (.returns (.error unknown)),
        .called (.connectFallback e), .ended (.connectFallback e) (.returns (.ok driver))]
      (.ok ⟨.fallback, e, driver⟩)
  | failed (unknown : DriverError) (h : unknown.isUnsupported) (cause : DriverError) :
    Attempted e
      [.called (.connectHost e), .ended (.connectHost e) (.returns (.error unknown)),
        .called (.connectFallback e), .ended (.connectFallback e) (.returns (.error cause))]
      (.error cause)

/-- The session is with the driver that the attempt ended with. -/
theorem Attempted.backend_iff {e : Endpoint} {events : List Event} {session : ServerSession}
    (h : Attempted e events (.ok session)) :
    (session.backend = .native ↔
      ∃ driver, .ended (.connectHost e) (.returns (.ok driver)) ∈ events) ∧
    (session.backend = .fallback ↔
      ∃ driver, .ended (.connectFallback e) (.returns (.ok driver)) ∈ events) := by
  cases h with
  | native driver =>
    refine ⟨iff_of_true rfl ⟨driver, by simp⟩, iff_of_false (by simp) ?_⟩
    rintro ⟨other, hmem⟩
    simp at hmem
  | fallback unknown hunknown driver =>
    refine ⟨iff_of_false (by simp) ?_, iff_of_true rfl ⟨driver, by simp⟩⟩
    rintro ⟨other, hmem⟩
    simp at hmem

/-- What an attempt is to have asked when it ends. -/
def asking (e : Endpoint) : Job.Contract (Except DriverError ServerSession) where
  waiting _ := True
  broken _ _ := True
  final outcome log := Attempted e log outcome

theorem connect_keeps (e : Endpoint) : (connect e).Keeps (asking e) [] := by
  refine ⟨trivial, trivial, fun answer => ?_⟩
  cases answer with
  | ok driver => exact .native driver
  | error unknown =>
    dsimp only
    cases h : unknown.isUnsupported with
    | false => exact .refused unknown h
    | true =>
      refine ⟨trivial, trivial, fun answer => ?_⟩
      cases answer with
      | ok driver => exact .fallback unknown h driver
      | error cause => exact .failed unknown h cause

/-- What a caller of a server's connection comes away with. -/
inductive Answer where
  | status (outcome : Except DriverError Bool)
  | image (outcome : Except DriverError Screenshot)
  | session (outcome : Except DriverError ServerSession)
  | closed (outcome : Except DriverError Unit)
  /-- The backend of the session that is stored. -/
  | backend (found : Option Backend)

def Answer.error? : Answer → Option DriverError
  | .status (.error err) | .image (.error err) | .session (.error err) | .closed (.error err) =>
    some err
  | _ => none

/-- Tells the backend of the session that is stored. -/
def backend : Task ServerSession Answer :=
  .peek fun session => .done (.backend (session.map (·.backend)))

/-- What callers may do with a server's connection. -/
inductive Request (e : Endpoint) : Task ServerSession Answer → Prop
  | connect : Request e ((session e).bind fun r => .done (.session r))
  | operate (op : ServerOp) : Request e ((Server.operate e op).bind fun r => .done (.status r))
  | capture : Request e ((Server.capture e).bind fun r => .done (.image r))
  | close : Request e (Server.close.bind fun r => .done (.closed r))
  | tell : Request e backend

/-- The calls that are made on a session. Only the native driver is asked for an image. -/
inductive On (session : ServerSession) : Call → Prop
  | operate (op : ServerOp) : On session (.server session op)
  | capture (h : session.backend = .native) : On session (.capture session)
  | close : On session (.closeServer session)

/-- How a caller goes on with its session: it makes calls on no other, and then returns. -/
inductive Using (session : ServerSession) : Task ServerSession Answer → Prop
  | done (answer : Answer) : Using session (.done answer)
  | work {job : Job β} {next : β → Task ServerSession Answer} (hjob : job.Only (On session))
      (hnext : ∀ value, ∃ answer, next value = .done answer) : Using session (.work job next)

/-- How a caller goes on when it has waited for the session. An error is what it returns. -/
structure Serves (next : Except DriverError ServerSession → Task ServerSession Answer) : Prop where
  failed : ∀ err, ∃ answer, next (.error err) = .done answer ∧ answer.error? = some err
  opened : ∀ session, Using session (next (.ok session))

/-- How a caller goes on who releases the session. -/
def release (session : Option ServerSession) : Task ServerSession Answer :=
  match session with
  | some session => .work (Job.call (.closeServer session)) fun r => .done (.closed r)
  | none => .done (.closed (.ok ()))

theorem using_release (session : ServerSession) : Using session (release (some session)) :=
  .work ⟨.close, fun _ => trivial⟩ fun _ => ⟨_, rfl⟩

theorem Request.cases {e : Endpoint} {task : Task ServerSession Answer} (h : Request e task) :
    (∃ next, task = .enter (Server.connect e) next ∧ Serves next) ∨ task = .detach release ∨
      task = backend := by
  cases h with
  | connect => exact Or.inl ⟨_, rfl, fun err => ⟨_, rfl, rfl⟩, fun session => .done _⟩
  | operate op =>
    refine Or.inl ⟨_, rfl, fun err => ⟨_, rfl, rfl⟩, fun session => ?_⟩
    refine Using.work ?_ fun _ => ⟨_, rfl⟩
    rcases session.perform_cases op with ⟨-, hp⟩ | ⟨cause, -, hp⟩
    · rw [hp]
      exact ⟨.operate op, fun _ => trivial⟩
    · rw [hp]
      trivial
  | capture =>
    refine Or.inl ⟨_, rfl, fun err => ⟨_, rfl, rfl⟩, fun session => ?_⟩
    obtain ⟨backend, endpoint, driver⟩ := session
    cases backend with
    | native =>
      refine .work ⟨.capture rfl, fun _ => trivial⟩ fun value => ?_
      cases value <;> exact ⟨_, rfl⟩
    | fallback => exact .done _
  | close =>
    refine Or.inr (Or.inl ?_)
    have hnext : (fun session => (match session with
        | some session => .work (Job.call (.closeServer session)) .done
        | none => .done (.ok ()) : ServerTask Unit).bind fun r => .done (.closed r)) = release := by
      funext session
      cases session <;> rfl
    exact congrArg Task.detach hnext
  | tell => exact Or.inr (Or.inr rfl)

theorem Request.fresh {e : Endpoint} {task : Task ServerSession Answer} (h : Request e task) :
    task.Fresh (· = Server.connect e) := by
  cases h with
  | connect => exact ⟨rfl, fun _ => trivial⟩
  | operate op =>
    refine ⟨rfl, fun outcome => ?_⟩
    cases outcome <;> simp [Task.bind, Task.Fresh]
  | capture =>
    refine ⟨rfl, fun outcome => ?_⟩
    cases outcome with
    | error err => trivial
    | ok session =>
      obtain ⟨backend, endpoint, driver⟩ := session
      cases backend with
      | native =>
        intro answer
        cases answer <;> trivial
      | fallback => trivial
  | close =>
    intro session
    cases session <;> simp [Task.bind, Task.Fresh]
  | tell => exact fun _ => trivial

/-- Where a caller may stand, by the visits that it paid. -/
inductive Place (l : Link ServerSession) :
    List (Visit ServerSession) → Stance ServerSession Answer → Prop
  | entering {connect next} (hs : Serves next) : Place l [] (.ready (.enter connect next))
  | joining {visit number next} (hv : visit.Awaits number) (hs : Serves next) :
    Place l [visit] (.ready (.join number next))
  | settling {visit number outcome next} (hv : visit.Awaits number) (hs : Serves next) :
    Place l [visit] (.settling number outcome next)
  | failed {visit number err answer} (hv : visit.Awaits number)
      (hn : l.attempts[number]? = some (.ended (.error err))) (ha : answer.error? = some err) :
    Place l [visit] (.ready (.done answer))
  | served {visit session task} (hg : l.Gave visit session) (hu : Using session task) :
    Place l [visit] (.ready task)
  | broken {visit session cause} (hg : l.Gave visit session) :
    Place l [visit] (.ready (.crashed cause))
  | stuck {visit cause} (hv : ∀ number, visit.Waits number →
      l.attempts[number]? = some .crashed) : Place l [visit] (.ready (.crashed cause))
  | releasing : Place l [] (.ready (.detach release))
  | reclaiming {number} (attempts : Nat) :
    Place l [.detached (.connecting number) attempts] (.ready (.reclaim number release))
  | spared (found : Phase ServerSession) (attempts : Nat) :
    Place l [.detached found attempts] (.ready (.done (.closed (.ok ()))))
  | telling : Place l [] (.ready backend)
  | told (answer : Answer) : Place l [] (.ready (.done answer))
  | gone {visits} (hv : visits.length ≤ 1) : Place l visits .gone

section Placed

variable {l m : Link ServerSession} {visits : List (Visit ServerSession)}
  {stance : Stance ServerSession Answer}

theorem Place.grows (h : Place l visits stance) (hg : l.Grows m) : Place m visits stance := by
  cases h with
  | entering hs => exact .entering hs
  | joining hv hs => exact .joining hv hs
  | settling hv hs => exact .settling hv hs
  | failed hv hn ha => exact .failed hv (hg.kept hn rfl) ha
  | served h hu => exact .served (h.grows hg) hu
  | broken h => exact .broken (h.grows hg)
  | stuck hv => exact .stuck fun number hnumber => hg.kept (hv number hnumber) rfl
  | releasing => exact .releasing
  | reclaiming attempts => exact .reclaiming attempts
  | spared found attempts => exact .spared found attempts
  | telling => exact .telling
  | told answer => exact .told answer
  | gone hv => exact .gone hv

theorem Place.length_le (h : Place l visits stance) : visits.length ≤ 1 := by
  cases h with
  | gone hv => exact hv
  | _ => simp

theorem Place.visits_eq {visit : Visit ServerSession} (h : Place l visits stance)
    (hvisit : visit ∈ visits) : visits = [visit] := by
  have hlength := h.length_le
  rcases visits with _ | ⟨first, _ | ⟨second, rest⟩⟩
  · simp at hvisit
  · rw [List.mem_singleton.mp hvisit]
  · simp at hlength

variable {c : Connection σ ServerSession} {P : Job (Except DriverError ServerSession) → Prop}
  (world : World σ) (owner : Nat) (limit : Limit)

/-- Who uses its session goes on to use it, or has come to its end. -/
theorem Using.act {visit : Visit ServerSession} {session : ServerSession}
    {task : Task ServerSession Answer} (hg : c.link.Gave visit session)
    (hu : Using session task) :
    (Stance.ready task).visit? c.link = none ∧
      Place (Stance.act world owner limit (.ready task) c).2.link [visit]
        (Stance.act world owner limit (.ready task) c).1 := by
  cases hu with
  | done answer => exact ⟨rfl, .served hg (.done answer)⟩
  | @work β job next hjob hnext =>
    have honly := hjob.carry world limit c.scene
    simp only [Stance.act]
    generalize job.carry world limit c.scene = carried at honly ⊢
    obtain ⟨job, s⟩ := carried
    refine ⟨rfl, ?_⟩
    cases job with
    | done value =>
      obtain ⟨answer, hanswer⟩ := hnext value
      simp only [hanswer]
      exact .served hg (.done answer)
    | crashed cause => exact .broken hg
    | _ => exact .served hg (.work honly hnext)

/-- Who enters finds the session, or waits for an attempt. -/
theorem Place.enter {connect : Job (Except DriverError ServerSession)}
    {next : Except DriverError ServerSession → Task ServerSession Answer}
    (hs : Serves next) (hphase : c.link.FoundAt c.link.attempts.length c.link.phase) :
    let stance : Stance ServerSession Answer := .ready (.enter connect next)
    Place (stance.act world owner limit c).2.link (stance.visit? c.link).toList
      (stance.act world owner limit c).1 := by
  simp only [Stance.act, Stance.visit?]
  cases hp : c.link.phase with
  | idle => exact .joining (Or.inl rfl) hs
  | connecting number => exact .joining (Or.inr rfl) hs
  | connected session =>
    rw [hp] at hphase
    obtain ⟨number, -, hended⟩ := hphase
    exact .served ⟨number, .reused, hended⟩ (hs.opened session)

theorem Place.join {visit : Visit ServerSession} {number : Nat}
    {next : Except DriverError ServerSession → Task ServerSession Answer}
    (hv : visit.Awaits number) (hs : Serves next) (hn : number < c.link.attempts.length) :
    let stance : Stance ServerSession Answer := .ready (.join number next)
    Place (stance.act world owner limit c).2.link [visit] (stance.act world owner limit c).1 := by
  have hshows := (Link.advance_shows world limit hn).2
  simp only [Stance.act]
  generalize c.advance world limit number = found at hshows ⊢
  obtain ⟨finding, c⟩ := found
  cases finding with
  | pending => exact .joining hv hs
  | ended outcome => exact .settling hv hs
  | crashed cause =>
    refine .stuck fun other hother => ?_
    rcases hother with hother | ⟨attempts, rfl⟩
    · rw [hv.eq hother]
      exact hshows
    · rcases hv with hv | hv <;> cases hv

theorem Place.settle {visit : Visit ServerSession} {number : Nat}
    {outcome : Except DriverError ServerSession}
    {next : Except DriverError ServerSession → Task ServerSession Answer}
    (hv : visit.Awaits number) (hs : Serves next)
    (hn : c.link.attempts[number]? = some (.ended outcome)) :
    Place (c.settle number outcome).link [visit] (.ready (next outcome)) := by
  have hended : (c.settle number outcome).link.attempts[number]? = some (.ended outcome) :=
    (Link.Move.settled hn).grows.kept hn rfl
  cases outcome with
  | ok session => exact .served ⟨number, hv.brings session, hended⟩ (hs.opened session)
  | error err =>
    obtain ⟨answer, hanswer, herror⟩ := hs.failed err
    rw [hanswer]
    exact .failed hv hended herror

/-- Who releases the session takes it, or waits for the attempt that may still bring one. -/
theorem Place.detach (hphase : c.link.FoundAt c.link.attempts.length c.link.phase) :
    let stance : Stance ServerSession Answer := .ready (.detach release)
    Place (stance.act world owner limit c).2.link (stance.visit? c.link).toList
      (stance.act world owner limit c).1 := by
  simp only [Stance.act, Stance.visit?, Link.detach]
  cases hp : c.link.phase with
  | idle => exact .spared _ _
  | connecting number => exact .reclaiming _
  | connected session =>
    rw [hp] at hphase
    obtain ⟨number, -, hended⟩ := hphase
    exact .served ⟨number, .took _, hended⟩ (using_release session)

theorem Place.reclaim {number : Nat} (attempts : Nat) (hn : number < c.link.attempts.length) :
    let stance : Stance ServerSession Answer := .ready (.reclaim number release)
    Place (stance.act world owner limit c).2.link [.detached (.connecting number) attempts]
      (stance.act world owner limit c).1 := by
  have hshows := (Link.advance_shows world limit hn).2
  simp only [Stance.act]
  generalize c.advance world limit number = found at hshows ⊢
  obtain ⟨finding, c⟩ := found
  cases finding with
  | pending => exact .reclaiming attempts
  | ended outcome =>
    cases outcome with
    | ok session => exact .served ⟨number, .reclaimed attempts, hshows⟩ (using_release session)
    | error err => exact .spared _ attempts
  | crashed cause =>
    refine .stuck fun other hother => ?_
    rcases hother with (hother | hother) | ⟨attempts, hother⟩ <;> cases hother
    exact hshows

/-- A step leaves a caller in a place that agrees with its visits. -/
theorem Place.act (h : Place c.link visits stance) (hf : stance.Fits P c.link)
    (hphase : c.link.FoundAt c.link.attempts.length c.link.phase) :
    Place (stance.act world owner limit c).2.link (visits ++ (stance.visit? c.link).toList)
      (stance.act world owner limit c).1 := by
  cases h with
  | entering hs => exact Place.enter world owner limit hs hphase
  | joining hv hs => exact Place.join world owner limit hv hs hf.1
  | settling hv hs => exact Place.settle hv hs hf.1
  | failed hv hn ha => exact .failed hv hn ha
  | served hg hu =>
    obtain ⟨hnone, hplace⟩ := hu.act world owner limit hg
    rw [hnone]
    exact hplace
  | broken hg => exact .broken hg
  | stuck hv => exact .stuck hv
  | releasing => exact Place.detach world owner limit hphase
  | reclaiming attempts => exact Place.reclaim world owner limit attempts hf.1
  | spared found attempts => exact .spared found attempts
  | telling => exact .told _
  | told answer => exact .told answer
  | gone hv => exact .gone (by simpa [Stance.visit?] using hv)

/-- Who runs no attempt makes calls on no session but the one that it was given. -/
theorem Place.calls (h : Place c.link visits stance) (hattempt : stance.attempt? = none)
    {events : List Event}
    (hlog : (stance.act world owner limit c).2.scene.log = c.scene.log ++ events) :
    ∀ event ∈ events, ∃ visit ∈ visits, ∃ session, c.link.Gave visit session ∧
      On session event.call := by
  by_cases hwork : stance.IsWork
  · cases h with
    | @served visit session task hg hu =>
      cases hu with
      | done answer => exact hwork.elim
      | work hjob hnext =>
        obtain ⟨-, habout⟩ := Stance.act_work_only hjob hlog
        exact fun event hmem => ⟨visit, by simp, session, hg, habout event hmem⟩
    | _ => exact hwork.elim
  · have hnone := Stance.act_silent hattempt hwork hlog
    simp [hnone]

end Placed

variable {e : Endpoint} {world : World σ} {scene : Scene σ} {c : Crowd σ ServerSession Answer}
  {deeds : List (Deed ServerSession Answer)} {i : Nat} {stance : Stance ServerSession Answer}

/-- What is told of callers who may be dropped at any point, from a fresh connection on. -/
abbrev Tale (e : Endpoint) (world : World σ) (scene : Scene σ)
    (deeds : List (Deed ServerSession Answer)) (c : Crowd σ ServerSession Answer) : Prop :=
  Crowd.Chronicle world (Request e) (fun _ => True) { shared := { scene := scene } } deeds c

theorem linked_tale (h : Tale e world scene deeds c) : c.Linked (· = Server.connect e) :=
  h.linked fun _ ht => ht.fresh

/-- Every member stands where its visits have brought it. -/
theorem placed (h : Tale e world scene deeds c) :
    ∀ {i stance}, c.members[i]? = some stance → Place c.link (c.visitsOf i) stance := by
  induction h with
  | start => intro i stance hi; simp at hi
  | @come deeds c h task ht ih =>
    intro i stance hi
    rcases Crowd.members_come hi with ⟨rfl, rfl⟩ | hi
    · have hnone : (c.come task).visitsOf c.members.length = [] :=
        (linked_tale h).strangers _ (Nat.le_refl _)
      rw [hnone]
      rcases ht.cases with ⟨next, rfl, hs⟩ | rfl | rfl
      · exact .entering hs
      · exact .releasing
      · exact .telling
    · exact ih hi
  | @act deeds c h limit i stance hi events hlog ih =>
    intro j other hj
    have hl := linked_tale h
    have hmove := (Crowd.linked_act hl world limit hi).1
    rcases Crowd.members_of_act limit hi hj with ⟨rfl, rfl⟩ | ⟨hji, hj⟩
    · rw [Crowd.visitsOf_act limit hi, Crowd.link_act _ limit hi]
      exact (ih hi).act _ _ limit (hl.fits hi) hl.tells.phase
    · rw [Crowd.visitsOf_act_other limit hji]
      exact (ih hj).grows hmove.grows
  | @leave deeds c h i stance hi hl ih =>
    intro j other hj
    rcases Crowd.members_leave hj with ⟨rfl, rfl⟩ | ⟨-, hj⟩
    · exact .gone (ih hi).length_le
    · exact ih hj
  | pass h due ih => exact ih

/-- The calls of a step were made on the session that the caller has by its visit. -/
def OnOwn (c : Crowd σ ServerSession Answer) (deed : Deed ServerSession Answer) : Prop :=
  ∀ event ∈ deed.events, ∃ visit ∈ c.visitsOf deed.owner, ∃ session, c.link.Gave visit session ∧
    On session event.call

theorem OnOwn.grows {d : Crowd σ ServerSession Answer} {deed : Deed ServerSession Answer}
    (h : OnOwn c deed) (hv : ∀ visit ∈ c.visitsOf deed.owner, visit ∈ d.visitsOf deed.owner)
    (hg : c.link.Grows d.link) : OnOwn d deed := by
  intro event hmem
  obtain ⟨visit, hvisit, session, hgave, hon⟩ := h event hmem
  exact ⟨visit, hv visit hvisit, session, hgave.grows hg, hon⟩

theorem onOwn_tale (h : Tale e world scene deeds c) :
    ∀ deed ∈ deeds, deed.before.attempt? = none → OnOwn c deed := by
  induction h with
  | start => simp
  | come _ task ht ih => exact ih
  | @act deeds c h limit i stance hi events hlog ih =>
    have hg := (Crowd.linked_act (linked_tale h) world limit hi).1.grows
    have hv : ∀ j, ∀ visit ∈ c.visitsOf j, visit ∈ (c.act world limit i).visitsOf j := by
      intro j visit hmem
      by_cases hji : j = i
      · subst hji
        rw [Crowd.visitsOf_act limit hi]
        exact List.mem_append_left _ hmem
      · rwa [Crowd.visitsOf_act_other limit hji]
    intro deed hmem hattempt
    rcases List.mem_append.mp hmem with hmem | hmem
    · exact (ih deed hmem hattempt).grows (hv _) hg
    · rw [List.mem_singleton.mp hmem] at hattempt ⊢
      have hown : OnOwn c ⟨i, stance, (stance.act world i limit c.shared).1, events⟩ :=
        (placed h hi).calls world i limit hattempt hlog
      exact hown.grows (hv _) hg
  | leave _ _ _ ih => exact ih
  | pass _ due ih => exact ih

/-- Who has waited for an attempt that failed returns the error of the attempt with its next two
steps. -/
theorem Place.yields {visit : Visit ServerSession} {number : Nat} {err : DriverError}
    {c : Connection σ ServerSession} {P : Job (Except DriverError ServerSession) → Prop}
    (h : Place c.link [visit] stance) (hf : stance.Fits P c.link) (hne : stance ≠ .gone)
    (hv : visit.Awaits number) (hn : c.link.attempts[number]? = some (.ended (.error err)))
    (world : World σ) (owner : Nat) :
    ∃ answer, answer.error? = some err ∧ ∀ limit limit' (d : Connection σ ServerSession),
      ((stance.act world owner limit c).1.act world owner limit' d).1 = .ready (.done answer) := by
  have hother : ∀ session, ¬ c.link.Gave visit session := by
    rintro session ⟨other, hbrings, hended⟩
    have hsame : other = number := by
      rcases hv with rfl | rfl <;> cases hbrings <;> rfl
    rw [hsame, hn] at hended
    cases hended
  cases h with
  | @joining _ other next hv' hs =>
    obtain rfl : other = number := hv.eq hv'
    obtain ⟨answer, hanswer, herror⟩ := hs.failed err
    refine ⟨answer, herror, fun limit limit' d => ?_⟩
    simp only [Stance.act, Connection.advance, Link.advance, hn, hanswer]
  | @settling _ other outcome next hv' hs =>
    obtain rfl : other = number := hv.eq hv'
    obtain rfl : outcome = .error err := by
      have hended := hf.1
      rw [hn] at hended
      cases hended
      rfl
    obtain ⟨answer, hanswer, herror⟩ := hs.failed err
    refine ⟨answer, herror, fun limit limit' d => ?_⟩
    simp only [Stance.act, hanswer]
  | @failed _ other cause answer hv' hn' ha =>
    obtain rfl : other = number := hv.eq hv'
    rw [hn] at hn'
    cases hn'
    exact ⟨answer, ha, fun limit limit' d => rfl⟩
  | served hg hu => exact absurd hg (hother _)
  | broken hg => exact absurd hg (hother _)
  | stuck hv' =>
    rw [hv' number (Or.inl hv)] at hn
    cases hn
  | reclaiming attempts => rcases hv with hv | hv <;> cases hv
  | spared found attempts => rcases hv with hv | hv <;> cases hv
  | gone _ => exact absurd rfl hne

/-- Who has taken over an attempt that failed has nothing to release. -/
theorem Place.spares {number attempts : Nat} {err : DriverError}
    {c : Connection σ ServerSession}
    (h : Place c.link [.detached (.connecting number) attempts] stance) (hne : stance ≠ .gone)
    (hn : c.link.attempts[number]? = some (.ended (.error err))) (world : World σ) (owner : Nat)
    (limit : Limit) :
    (stance.act world owner limit c).1 = .ready (.done (.closed (.ok ()))) := by
  have hother : ∀ session, ¬ c.link.Gave (.detached (.connecting number) attempts) session := by
    rintro session ⟨other, hbrings, hended⟩
    cases hbrings
    rw [hn] at hended
    cases hended
  cases h with
  | joining hv hs => rcases hv with hv | hv <;> cases hv
  | settling hv hs => rcases hv with hv | hv <;> cases hv
  | failed hv hn ha => rcases hv with hv | hv <;> cases hv
  | served hg hu => exact absurd hg (hother _)
  | broken hg => exact absurd hg (hother _)
  | stuck hv =>
    rw [hv number (Or.inr ⟨attempts, rfl⟩)] at hn
    cases hn
  | reclaiming attempts =>
    simp only [Stance.act, Connection.advance, Link.advance, hn]
    rfl
  | spared found attempts => rfl
  | gone _ => exact absurd rfl hne

/-- How the callers of one connection are served, whatever they do at the same time. -/
structure FallsBack (e : Endpoint) (world : World σ) (deeds : List (Deed ServerSession Answer))
    (c : Crowd σ ServerSession Answer) : Prop where
  attempted : ∀ number outcome, c.link.attempts[number]? = some (.ended outcome) →
    Attempted e (eventsOf deeds number) outcome
  /-- Whoever waits for an attempt that failed returns its error, two steps later. -/
  yields : ∀ i stance visit number err, c.members[i]? = some stance → stance ≠ .gone →
    visit ∈ c.visitsOf i → visit.Awaits number →
    c.link.attempts[number]? = some (.ended (.error err)) →
    ∃ answer, answer.error? = some err ∧ ∀ limit (d : Crowd σ ServerSession Answer) limit',
      d.members[i]? = (c.act world limit i).members[i]? →
      (d.act world limit' i).members[i]? = some (.ready (.done answer))
  /-- Whoever waits for it to release what it brings returns at once, and has nothing to release. -/
  spares : ∀ i stance number attempts err, c.members[i]? = some stance → stance ≠ .gone →
    .detached (.connecting number) attempts ∈ c.visitsOf i →
    c.link.attempts[number]? = some (.ended (.error err)) →
    ∀ limit, (c.act world limit i).members[i]? = some (.ready (.done (.closed (.ok ()))))
  /-- An attempt that failed leaves no session. -/
  leaves : ∀ number err, number + 1 = c.link.attempts.length →
    c.link.attempts[number]? = some (.ended (.error err)) → c.link.session? = none
  /-- The session that is stored is the one that the last attempt ended with. -/
  stored : ∀ session, c.link.session? = some session → ∃ number,
    number + 1 = c.link.attempts.length ∧ c.link.attempts[number]? = some (.ended (.ok session))
  connects : ∀ deed ∈ deeds, deed.before.attempt? ≠ none →
    About (fun call => call.isConnect) deed.events
  /-- Every other call is made on the session of its caller, who has only one. -/
  own : ∀ deed ∈ deeds, deed.before.attempt? = none → OnOwn c deed
  once : ∀ i, (c.visitsOf i).length ≤ 1
  /-- A session is with the driver that let its attempt in. -/
  backend : ∀ number session, c.link.attempts[number]? = some (.ended (.ok session)) →
    (session.backend = .native ↔ ∃ driver,
      .ended (.connectHost e) (.returns (.ok driver)) ∈ eventsOf deeds number) ∧
    (session.backend = .fallback ↔ ∃ driver,
      .ended (.connectFallback e) (.returns (.ok driver)) ∈ eventsOf deeds number)
  /-- Who asks is told the backend of the session that is stored. -/
  told : ∀ i limit, c.members[i]? = some (.ready Server.backend) →
    (c.act world limit i).members[i]? =
      some (.ready (.done (.backend (c.link.session?.map (·.backend)))))

theorem fallsBack (h : Tale e world scene deeds c) : FallsBack e world deeds c := by
  have hl := linked_tale h
  have hkeeps : ∀ connect, connect = Server.connect e → connect.Keeps (asking e) [] := by
    rintro connect rfl
    exact connect_keeps e
  have hattributed : c.Attributed (asking e) deeds := h.attributed (fun _ ht => ht.fresh) hkeeps
  have hattempted : ∀ number outcome, c.link.attempts[number]? = some (.ended outcome) →
      Attempted e (eventsOf deeds number) outcome :=
    fun number outcome hn => hattributed.attempts number _ hn
  have hstored : ∀ session, c.link.session? = some session → ∃ number,
      number + 1 = c.link.attempts.length ∧
        c.link.attempts[number]? = some (.ended (.ok session)) := by
    intro session hsession
    have hphase : c.link.phase = .connected session := by
      unfold Link.session? at hsession
      split at hsession
      · cases hsession
        assumption
      · cases hsession
    have hfound := hl.tells.phase
    rw [hphase] at hfound
    exact hfound
  constructor
  case attempted => exact hattempted
  case yields =>
    intro i stance visit number err hi hne hvisit hv hn
    have hplace := placed h hi
    rw [hplace.visits_eq hvisit] at hplace
    obtain ⟨answer, herror, hends⟩ := hplace.yields (hl.fits hi) hne hv hn world i
    refine ⟨answer, herror, fun limit d limit' hd => ?_⟩
    rw [Crowd.members_act world limit hi] at hd
    rw [Crowd.members_act world limit' hd, hends limit limit' d.shared]
  case spares =>
    intro i stance number attempts err hi hne hvisit hn limit
    have hplace := placed h hi
    rw [hplace.visits_eq hvisit] at hplace
    rw [Crowd.members_act world limit hi, hplace.spares hne hn world i limit]
  case leaves =>
    intro number err hlast hn
    cases hsession : c.link.session? with
    | none => rfl
    | some session =>
      obtain ⟨other, hother, hended⟩ := hstored session hsession
      obtain rfl : other = number := by omega
      rw [hn] at hended
      cases hended
  case stored => exact hstored
  case connects =>
    have hconnect : ∀ connect, connect = Server.connect e →
        connect.Only fun call => call.isConnect := by
      rintro connect rfl
      exact server_connect_only e
    exact (h.only (fun _ ht => ht.fresh) hconnect).2
  case own => exact onOwn_tale h
  case once =>
    intro i
    cases hi : c.members[i]? with
    | some stance => exact (placed h hi).length_le
    | none =>
      rw [hl.strangers i (List.getElem?_eq_none_iff.mp hi)]
      exact Nat.zero_le 1
  case backend => exact fun number session hn => (hattempted number _ hn).backend_iff
  case told =>
    intro i limit hi
    rw [Crowd.members_act world limit hi]
    rfl

/-- A caller whose server only the fallback driver knows. -/
theorem fallsBack_of_unknown :
    let e : Endpoint := ⟨"10.0.0.1", ⟨"admin", "secret"⟩⟩
    let scene : Scene Script :=
      { world := { cues := [("connect_host", [.driverError (.unsupportedHardware "X11")])] } }
    let task := (Server.operate e .isOn).bind fun r => .done (Answer.status r)
    let opening := (Crowd.come { shared := { scene := scene } } task).act Script.world none 0
    let c := (opening.act Script.world none 0).act Script.world none 0
    ∃ deeds, Tale e Script.world scene deeds c ∧ FallsBack e Script.world deeds c ∧
      c.link.session?.map (·.backend) = some .fallback := by
  intro e scene task opening c
  have hcome : Crowd.Run Script.world (Request e) (fun _ => True) { shared := { scene := scene } }
      (Crowd.come { shared := { scene := scene } } task) :=
    Relation.ReflTransGen.refl.tail (.come task (.operate .isOn))
  have hrun : Crowd.Run Script.world (Request e) (fun _ => True)
      { shared := { scene := scene } } c :=
    ((hcome.tail (.act 0 none)).tail (.act 0 none)).tail (.act 0 none)
  obtain ⟨deeds, h⟩ := Crowd.exists_chronicle hrun
  exact ⟨deeds, h, fallsBack h, rfl⟩

end Server

end Outband
