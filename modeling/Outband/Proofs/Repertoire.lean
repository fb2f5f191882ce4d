import Outband.Proofs.Discipline
import Outband.Proofs.History
/-! Which kinds of call a task can make at all, and that no others show in the log. -/

namespace Outband

namespace Event

/-- The call that an event is about. -/
def call : Event → Call
  | .called call | .ended call _ => call

end Event

/-- Every event is about a call of this kind. -/
def About (P : Call → Prop) (events : List Event) : Prop := ∀ event ∈ events, P event.call

variable {P : Call → Prop} {base : List Event}

theorem Since.note {log : List Event} {event : Event} (h : Since base (About P) log)
    (hcall : P event.call) : Since base (About P) (log ++ [event]) := by
  obtain ⟨events, rfl, h⟩ := h
  refine ⟨events ++ [event], by simp, fun other hmem => ?_⟩
  rcases List.mem_append.mp hmem with hmem | hmem
  · exact h other hmem
  · rw [List.mem_singleton.mp hmem]
    exact hcall

namespace Job

/-- The job makes no calls but of this kind. -/
def Only (P : Call → Prop) : Job α → Prop
  | .done _ | .crashed _ => True
  | .ask call next | .asked call _ _ next => P call ∧ ∀ answer, (next answer).Only P
  | .pause _ next | .paused _ next => next.Only P

theorem Only.mono {Q : Call → Prop} {job : Job α} (h : job.Only P) (hPQ : ∀ call, P call → Q call) :
    job.Only Q := by
  induction job with
  | done value => trivial
  | crashed cause => trivial
  | ask call next ih => exact ⟨hPQ call h.1, fun answer => ih answer (h.2 answer)⟩
  | asked call due outcome next ih => exact ⟨hPQ call h.1, fun answer => ih answer (h.2 answer)⟩
  | pause span next ih => exact ih h
  | paused due next ih => exact ih h

theorem Asks.only {job : Job α} {call : Call} (h : job.Asks call) (hcall : P call) :
    job.Only P := by
  obtain ⟨next, rfl, hnext⟩ := h
  refine ⟨hcall, fun answer => ?_⟩
  obtain ⟨value, hv⟩ := hnext answer
  rw [hv]
  trivial

end Job

/-- A property of scenes that calls of this kind keep, and that does not depend on the time. -/
structure Scene.Upheld (P : Call → Prop) (world : World σ) (I : Scene σ → Prop) : Prop where
  ask : ∀ {s : Scene σ} {call : Call}, P call → I s → I (s.ask world call).2
  moveTo : ∀ {s : Scene σ} (due : Time), I s → I (s.moveTo due)
  ended : ∀ {s : Scene σ} {call : Call} (outcome : Outcome call.Answer), P call → I s →
    I (s.note (.ended call outcome))

/-- That the log has grown by events of a kind is such a property. -/
theorem about_upheld (P : Call → Prop) (world : World σ) (base : List Event) :
    Scene.Upheld P world fun s => Since base (About P) s.log where
  ask hcall hlog := hlog.note hcall
  moveTo _ hlog := hlog
  ended _ hcall hlog := hlog.note hcall

namespace Job

/-- What is left of a job makes calls of no other kind, and what these keep is kept. -/
theorem carry_upheld {world : World σ} {I : Scene σ → Prop} (hI : Scene.Upheld P world I)
    (limit : Limit) {job : Job α} {s : Scene σ} (h : job.Only P) (hs : I s) :
    (job.carry world limit s).1.Only P ∧ I (job.carry world limit s).2 := by
  have asked : ∀ {call : Call} {due : Time} {outcome : Outcome call.Answer}
      {next : call.Answer → Job α} {s : Scene σ},
      (∀ answer {s : Scene σ}, (next answer).Only P → I s →
        ((next answer).carry world limit s).1.Only P ∧ I ((next answer).carry world limit s).2) →
      (Job.asked call due outcome next).Only P → I s →
      ((Job.asked call due outcome next).carry world limit s).1.Only P ∧
        I ((Job.asked call due outcome next).carry world limit s).2 := by
    intro call due outcome next s ih h hs
    simp only [carry]
    by_cases hdue : limit.allows s.now due
    · have hended := hI.ended outcome h.1 (hI.moveTo due hs)
      rw [if_pos hdue]
      cases outcome with
      | returns answer => exact ih answer (h.2 answer) hended
      | crashes => exact ⟨trivial, hended⟩
    · rw [if_neg hdue]
      exact ⟨h, hs⟩
  induction job generalizing s with
  | done value => exact ⟨trivial, hs⟩
  | crashed cause => exact ⟨trivial, hs⟩
  | ask call next ih =>
    rw [carry_ask]
    exact asked ih h (hI.ask h.1 hs)
  | asked call due outcome next ih => exact asked ih h hs
  | pause span next ih =>
    simp only [carry]
    split
    · exact ih h (hI.moveTo _ hs)
    · exact ⟨h, hs⟩
  | paused due next ih =>
    simp only [carry]
    split
    · exact ih h (hI.moveTo _ hs)
    · exact ⟨h, hs⟩

/-- What is left of a job makes calls of no other kind, and none show in the log. -/
theorem carry_only (world : World σ) (limit : Limit) {job : Job α} {s : Scene σ}
    (h : job.Only P) (hlog : Since base (About P) s.log) :
    (job.carry world limit s).1.Only P ∧ Since base (About P) (job.carry world limit s).2.log :=
  carry_upheld (about_upheld P world base) limit h hlog

end Job

namespace Link

/-- The attempts under way make no calls but of this kind. -/
def Only (P : Call → Prop) (l : Link H) : Prop :=
  ∀ (number : Nat) (job : Job (Except DriverError H)),
    l.attempts[number]? = some (.running job) → job.Only P

variable {l : Link H}

theorem Only.record {attempt : Attempt H} (h : l.Only P) (number : Nat)
    (hattempt : ∀ job, attempt = .running job → job.Only P) :
    (l.record number attempt).Only P := by
  intro other job hother
  simp only [Link.record, List.getElem?_set] at hother
  split at hother
  · split at hother
    · exact hattempt job (Option.some.inj hother)
    · cases hother
  · exact h other job hother

theorem Only.start {connect : Job (Except DriverError H)} (h : l.Only P)
    (hconnect : connect.Only P) : (l.start connect).2.Only P := by
  intro other job hother
  simp only [Link.start, List.getElem?_append] at hother
  split at hother
  · exact h other job hother
  · cases List.mem_singleton.mp (List.mem_of_getElem? hother)
    exact hconnect

theorem Only.settle (h : l.Only P) (number : Nat) (outcome : Except DriverError H) :
    (l.settle number outcome).Only P := by
  intro other job hother
  rw [settle_attempts] at hother
  exact h other job hother

end Link

namespace Connection

/-- The property holds, and what is under way makes calls of this kind only. -/
structure Upheld (P : Call → Prop) (I : Scene σ → Prop) (c : Connection σ H) : Prop where
  link : c.link.Only P
  scene : I c.scene

theorem Upheld.advance {world : World σ} {I : Scene σ → Prop} (hI : Scene.Upheld P world I)
    (limit : Limit) (number : Nat) {c : Connection σ H} (h : c.Upheld P I) :
    (c.advance world limit number).2.Upheld P I := by
  obtain ⟨hlink, hscene⟩ := h
  rw [Connection.advance, Link.advance]
  cases hattempt : c.link.attempts[number]? with
  | none => exact ⟨hlink, hscene⟩
  | some attempt =>
    cases attempt with
    | running job =>
      have hjob := Job.carry_upheld hI limit (hlink number job hattempt) hscene
      dsimp only
      generalize job.carry world limit c.scene = carried at hjob ⊢
      obtain ⟨job, s⟩ := carried
      cases job with
      | done outcome => exact ⟨hlink.record number (by simp), hjob.2⟩
      | crashed cause => exact ⟨hlink.record number (by simp), hjob.2⟩
      | _ => exact ⟨hlink.record number (by rintro _ ⟨⟩; exact hjob.1), hjob.2⟩
    | ended outcome => exact ⟨hlink, hscene⟩
    | crashed => exact ⟨hlink, hscene⟩

/-- What happened since the log stood at `base`, and what is under way, is about calls of this
kind. -/
structure Only (P : Call → Prop) (base : List Event) (c : Connection σ H) : Prop where
  link : c.link.Only P
  log : Since base (About P) c.scene.log

theorem Only.settle {c : Connection σ H} (h : c.Only P base) (number : Nat)
    (outcome : Except DriverError H) : (c.settle number outcome).Only P base :=
  ⟨h.link.settle number outcome, h.log⟩

theorem Only.advance (world : World σ) (limit : Limit) (number : Nat) {c : Connection σ H}
    (h : c.Only P base) : (c.advance world limit number).2.Only P base := by
  have hadvance := Upheld.advance (about_upheld P world base) limit number ⟨h.link, h.log⟩
  exact ⟨hadvance.link, hadvance.scene⟩

end Connection

/-- An orderly task makes no calls but to connect and those for which a session is used. -/
theorem Orderly.carry_only {t : Trade H} {Fails : α → Prop} {held : Option H} {locked : Bool}
    {task : Task H α} (ho : Orderly t Fails held locked task) (hconnect : t.connect.Only P)
    (huse : ∀ session call, OpenSession.Admits session call → P call) (world : World σ)
    (owner : Nat) (limit : Limit) {c : Connection σ H} (hc : c.Only P base) :
    (task.carry world owner limit c).2.Only P base := by
  induction ho generalizing c with
  | done value => exact hc
  | @enter _ next _ error ih =>
    have hnext : ∀ outcome {d : Connection σ H}, d.Only P base →
        ((next outcome).carry world owner limit d).2.Only P base := by
      intro outcome d hd
      cases outcome with
      | ok h => exact ih h hd
      | error err =>
        obtain ⟨value, hvalue, -⟩ := error err
        rw [hvalue]
        exact hd
    have hjoin : ∀ number {d : Connection σ H}, d.Only P base →
        ((Task.join number next).carry world owner limit d).2.Only P base := by
      intro number d hd
      have hadvance := hd.advance world limit number
      rw [Task.carry]
      generalize d.advance world limit number = advanced at hadvance ⊢
      obtain ⟨finding, d⟩ := advanced
      cases finding with
      | ended outcome => exact hnext outcome (hadvance.settle number outcome)
      | crashed cause => exact ⟨hadvance.link, hadvance.log⟩
      | pending => exact hadvance
    rw [Stance.carry_enter]
    cases c.link.phase with
    | idle => exact hjoin _ (d := { c with link := _ }) ⟨hc.link.start hconnect, hc.log⟩
    | connecting number => exact hjoin number hc
    | connected session => exact hnext (.ok session) hc
  | ask asks admitted _ ih =>
    have hjob := Job.carry_only world limit (asks.only (huse _ _ admitted)) hc.log
    rw [Task.carry]
    generalize Job.carry world limit _ c.scene = carried at hjob ⊢
    obtain ⟨job, s⟩ := carried
    have hd : Connection.Only P base { c with scene := s } := ⟨hc.link, hjob.2⟩
    cases job with
    | done value => exact ih value hd
    | crashed cause => exact ⟨hd.link, hd.log⟩
    | _ => exact hd
  | skip value _ ih => exact ih hc
  | pause span value _ ih =>
    simp only [Task.carry, Job.carry]
    by_cases hdue : limit.allows c.scene.now (c.scene.now + span)
    · rw [if_pos hdue]
      exact ih ⟨hc.link, hc.log⟩
    · rw [if_neg hdue]
      exact ⟨hc.link, hc.log⟩
  | lock access _ ih =>
    simp only [Task.carry]
    split
    · exact ih ⟨hc.link, hc.log⟩
    · exact ⟨hc.link, hc.log⟩
  | unlock _ ih =>
    rw [Task.carry]
    exact ih ⟨hc.link, hc.log⟩
  | «recall» serial _ ih =>
    rw [Task.carry]
    exact ih _ hc
  | beginLookup _ ih =>
    rw [Task.carry]
    exact ih ⟨hc.link, hc.log⟩
  | remember serial slot _ ih =>
    rw [Task.carry]
    exact ih ⟨hc.link, hc.log⟩
  | clock _ ih =>
    rw [Task.carry]
    exact ih _ hc

theorem runSteps_only {t : Trade H} {ex : Executor H ω} (hk : ex.Keeps t)
    (hconnect : t.connect.Only P) (huse : ∀ session call, OpenSession.Admits session call → P call)
    (world : World σ) (limit : Limit) (steps : List (Step ω)) {c : Connection σ H}
    (hc : c.Only P base) : (runSteps world limit ex steps c).2.2.Only P base := by
  induction steps generalizing c with
  | nil => exact hc
  | cons step rest ih =>
    have hstep := (hk.task step).carry_only hconnect huse world 0 limit hc
    rw [runSteps]
    generalize (step.task ex).carry world 0 limit c = carried at hstep ⊢
    obtain ⟨task, c⟩ := carried
    cases task with
    | done result =>
      dsimp only
      split
      · exact hstep
      · exact ih hstep
    | _ => exact hstep

theorem server_connect_only (e : Endpoint) : (Server.connect e).Only fun call => call.isConnect := by
  refine ⟨rfl, fun answer => ?_⟩
  cases answer with
  | ok driver => trivial
  | error err =>
    dsimp only
    split
    · refine ⟨rfl, fun answer => ?_⟩
      cases answer <;> trivial
    · trivial

theorem chassis_connect_only (e : Endpoint) :
    (Chassis.connect e).Only fun call => call.isConnect := by
  refine ⟨rfl, fun answer => ?_⟩
  cases answer <;> trivial

end Outband
