import Outband.Job
import Mathlib.Data.List.Basic
/-! What the events of a run say about sessions, and what a job leaves in the log whatever the
world answers. -/

namespace Outband

/-- An open session of either kind. -/
inductive OpenSession where
  | server (session : ServerSession)
  | chassis (session : ChassisSession)
  deriving DecidableEq

/-- The call that releases the session. -/
def OpenSession.close : OpenSession → Call
  | .server session => .closeServer session
  | .chassis session => .closeChassis session

namespace Call

/-- The session that an operation is done on. -/
def session? : Call → Option OpenSession
  | .server session _ | .capture session => some (.server session)
  | .chassis session _ | .blade session _ _ | .findBlade session _ => some (.chassis session)
  | _ => none

def isConnect : Call → Bool
  | .connectHost _ | .connectFallback _ | .connectChassis _ => true
  | _ => false

def isClose : Call → Bool
  | .closeServer _ | .closeChassis _ => true
  | _ => false

theorem isClose_of_isConnect {call : Call} (h : call.isConnect) : call.isClose = false := by
  cases call <;> first | rfl | cases h

def isStore : Call → Bool
  | .store .. => true
  | _ => false

end Call

namespace Event

def call? : Event → Option Call
  | .called call => some call
  | .ended .. => none

/-- The session that a call has opened by its answer. -/
def session? : Event → Option OpenSession
  | .ended (.connectHost e) (.returns (.ok driver)) => some (.server ⟨.native, e, driver⟩)
  | .ended (.connectFallback e) (.returns (.ok driver)) => some (.server ⟨.fallback, e, driver⟩)
  | .ended (.connectChassis e) (.returns (.ok ())) => some (.chassis ⟨e⟩)
  | _ => none

def crash? : Event → Option Call
  | .ended call .crashes => some call
  | _ => none

end Event

/-- The calls of a log, in order. -/
def callsOf (events : List Event) : List Call := events.filterMap Event.call?

/-- The sessions that were opened, in order. -/
def sessionsOf (events : List Event) : List OpenSession := events.filterMap Event.session?

/-- The calls that crashed, in order. -/
def crashesOf (events : List Event) : List Call := events.filterMap Event.crash?

theorem Scene.calls_eq (s : Scene σ) : s.calls = callsOf s.log := by
  unfold Scene.calls callsOf
  congr

section Reading

variable (events more : List Event) (call : Call) (outcome : Outcome call.Answer)

@[simp] theorem callsOf_nil : callsOf [] = [] := rfl

@[simp] theorem callsOf_called : callsOf (.called call :: events) = call :: callsOf events := rfl

@[simp] theorem callsOf_ended : callsOf (.ended call outcome :: events) = callsOf events := rfl

@[simp] theorem callsOf_append : callsOf (events ++ more) = callsOf events ++ callsOf more :=
  List.filterMap_append

@[simp] theorem sessionsOf_nil : sessionsOf [] = [] := rfl

@[simp] theorem sessionsOf_called : sessionsOf (.called call :: events) = sessionsOf events := rfl

@[simp] theorem sessionsOf_crashed :
    sessionsOf (.ended call .crashes :: events) = sessionsOf events := by
  cases call <;> rfl

theorem sessionsOf_ended (h : call.isConnect = false) :
    sessionsOf (.ended call outcome :: events) = sessionsOf events := by
  cases call <;> first | rfl | cases h

@[simp] theorem sessionsOf_append :
    sessionsOf (events ++ more) = sessionsOf events ++ sessionsOf more :=
  List.filterMap_append

@[simp] theorem crashesOf_nil : crashesOf [] = [] := rfl

@[simp] theorem crashesOf_called : crashesOf (.called call :: events) = crashesOf events := rfl

@[simp] theorem crashesOf_crashed :
    crashesOf (.ended call .crashes :: events) = call :: crashesOf events := rfl

@[simp] theorem crashesOf_returned (answer : call.Answer) :
    crashesOf (.ended call (.returns answer) :: events) = crashesOf events := rfl

@[simp] theorem crashesOf_append : crashesOf (events ++ more) = crashesOf events ++ crashesOf more :=
  List.filterMap_append

end Reading

namespace Job

/-- What a job promises about the log: while it waits, when a call of it crashes, and at its end. -/
structure Contract (α : Type) where
  waiting : List Event → Prop
  broken : Call → List Event → Prop
  final : α → List Event → Prop

/-- From this log on the job keeps the contract, whatever the world answers. -/
def Keeps (k : Contract α) : Job α → List Event → Prop
  | .done value, log => k.final value log
  | .crashed _, _ => False
  | .ask call next, log =>
    k.waiting (log ++ [.called call]) ∧ k.broken call (log ++ [.called call, .ended call .crashes]) ∧
      ∀ answer, (next answer).Keeps k (log ++ [.called call, .ended call (.returns answer)])
  | .asked call _ _ next, log =>
    k.waiting log ∧ k.broken call (log ++ [.ended call .crashes]) ∧
      ∀ answer, (next answer).Keeps k (log ++ [.ended call (.returns answer)])
  | .pause _ next, log => k.waiting log ∧ next.Keeps k log
  | .paused _ next, log => k.waiting log ∧ next.Keeps k log

/-- What a contract makes of a job that was carried as far as its limit. -/
def Contract.Holds (k : Contract α) (limit : Limit) : Job α × Scene σ → Prop
  | (.done value, s) => k.final value s.log
  | (.crashed cause, s) => ∃ call, cause = .call call ∧ k.broken call s.log
  | (job, s) => limit.isSome ∧ k.waiting s.log ∧ job.Keeps k s.log

theorem allows_none (now due : Time) : Limit.allows none now due = true := by
  simp [Limit.allows]

theorem isSome_of_not_allows {limit : Limit} {now due : Time} (h : ¬ limit.allows now due) :
    limit.isSome := by
  cases limit with
  | none => exact absurd (allows_none now due) h
  | some _ => rfl

/-- Without a limit nothing is left to wait for. -/
theorem carry_none (world : World σ) (job : Job α) (s : Scene σ) :
    (∃ value, (job.carry world none s).1 = .done value) ∨
      ∃ cause, (job.carry world none s).1 = .crashed cause := by
  induction job generalizing s with
  | done value => exact Or.inl ⟨value, rfl⟩
  | crashed cause => exact Or.inr ⟨cause, rfl⟩
  | ask call next ih =>
    simp only [carry, allows_none, if_true]
    cases (s.ask world call).1.outcome with
    | returns answer => exact ih answer _
    | crashes => exact Or.inr ⟨_, rfl⟩
  | asked call due outcome next ih =>
    simp only [carry, allows_none, if_true]
    cases outcome with
    | returns answer => exact ih answer _
    | crashes => exact Or.inr ⟨_, rfl⟩
  | pause span next ih =>
    simp only [carry, allows_none, if_true]
    exact ih _
  | paused due next ih =>
    simp only [carry, allows_none, if_true]
    exact ih _

/-- A call is a wait from the moment on at which it is made. -/
theorem carry_ask (world : World σ) (limit : Limit) (call : Call) (next : call.Answer → Job α)
    (s : Scene σ) :
    (Job.ask call next).carry world limit s =
      (Job.asked call (s.now + (world call s.world).1.delay) (world call s.world).1.outcome
        next).carry world limit (s.ask world call).2 := by
  simp only [carry]
  rfl

theorem keeps_asked {k : Contract α} {call : Call} {next : call.Answer → Job α} {log : List Event}
    (due : Time) (outcome : Outcome call.Answer) (h : (Job.ask call next).Keeps k log) :
    (Job.asked call due outcome next).Keeps k (log ++ [.called call]) := by
  simpa [Keeps] using h

theorem carry_asked_holds {k : Contract α} {world : World σ} {limit : Limit} {call : Call}
    {due : Time} {outcome : Outcome call.Answer} {next : call.Answer → Job α} {s : Scene σ}
    (h : (Job.asked call due outcome next).Keeps k s.log)
    (ih : ∀ answer {s : Scene σ}, (next answer).Keeps k s.log →
      k.Holds limit ((next answer).carry world limit s)) :
    k.Holds limit ((Job.asked call due outcome next).carry world limit s) := by
  obtain ⟨hwait, hbroken, hnext⟩ := h
  simp only [carry]
  by_cases hdue : limit.allows s.now due
  · rw [if_pos hdue]
    cases outcome with
    | returns answer => exact ih answer (hnext answer)
    | crashes => exact ⟨call, rfl, hbroken⟩
  · rw [if_neg hdue]
    exact ⟨isSome_of_not_allows hdue, hwait, hwait, hbroken, hnext⟩

/-- A job that keeps a contract is carried in keeping with it. -/
theorem carry_holds {k : Contract α} (world : World σ) (limit : Limit) {job : Job α} {s : Scene σ}
    (h : job.Keeps k s.log) : k.Holds limit (job.carry world limit s) := by
  induction job generalizing s with
  | done value => exact h
  | crashed cause => exact h.elim
  | ask call next ih =>
    rw [carry_ask]
    exact carry_asked_holds (keeps_asked _ _ h) ih
  | asked call due outcome next ih => exact carry_asked_holds h ih
  | pause span next ih =>
    simp only [carry]
    split
    · exact ih h.2
    · rename_i hlate
      exact ⟨isSome_of_not_allows hlate, h.1, h⟩
  | paused due next ih =>
    simp only [carry]
    split
    · exact ih h.2
    · rename_i hlate
      exact ⟨isSome_of_not_allows hlate, h.1, h⟩

end Job

end Outband
