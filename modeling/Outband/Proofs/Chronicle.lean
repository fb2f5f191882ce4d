import Outband.Proofs.History
import Outband.Proofs.Repertoire
/-! Runs of a crowd told step by step: who acted, where it stood before and after, and what its step
added to the log. -/

namespace Outband

namespace Job

/-- What a job does depends on the log in nothing, and only adds to it. -/
theorem carry_with_log (world : World σ) (limit : Limit) (job : Job α) (s : Scene σ) :
    ∃ events, ∀ log, job.carry world limit { s with log := log } =
      ((job.carry world limit s).1,
        { (job.carry world limit s).2 with log := log ++ events }) := by
  have asked : ∀ (call : Call) (due : Time) (outcome : Outcome call.Answer)
      (next : call.Answer → Job α),
      (∀ answer (s : Scene σ), ∃ events, ∀ log,
        (next answer).carry world limit { s with log := log } =
          (((next answer).carry world limit s).1,
            { ((next answer).carry world limit s).2 with log := log ++ events })) →
      ∀ s : Scene σ, ∃ events, ∀ log,
        (Job.asked call due outcome next).carry world limit { s with log := log } =
          (((Job.asked call due outcome next).carry world limit s).1,
            { ((Job.asked call due outcome next).carry world limit s).2 with
              log := log ++ events }) := by
    intro call due outcome next ih s
    simp only [carry]
    by_cases hdue : limit.allows s.now due
    · simp only [if_pos hdue]
      cases outcome with
      | returns answer =>
        obtain ⟨events, hevents⟩ := ih answer ((s.moveTo due).note (.ended call (.returns answer)))
        refine ⟨.ended call (.returns answer) :: events, fun log => ?_⟩
        rw [List.append_cons]
        exact hevents (log ++ [.ended call (.returns answer)])
      | crashes => exact ⟨[.ended call .crashes], fun log => rfl⟩
    · simp only [if_neg hdue]
      exact ⟨[], fun log => by rw [List.append_nil]⟩
  induction job generalizing s with
  | done value => exact ⟨[], fun log => by rw [List.append_nil]; rfl⟩
  | crashed cause => exact ⟨[], fun log => by rw [List.append_nil]; rfl⟩
  | ask call next ih =>
    obtain ⟨events, hevents⟩ :=
      asked call (s.now + (world call s.world).1.delay) (world call s.world).1.outcome next ih
        (s.ask world call).2
    refine ⟨.called call :: events, fun log => ?_⟩
    rw [carry_ask, carry_ask, List.append_cons]
    exact hevents (log ++ [.called call])
  | asked call due outcome next ih => exact asked call due outcome next ih s
  | pause span next ih =>
    simp only [carry]
    by_cases hdue : limit.allows s.now (s.now + span)
    · simp only [if_pos hdue]
      exact ih (s.moveTo (s.now + span))
    · simp only [if_neg hdue]
      exact ⟨[], fun log => by rw [List.append_nil]⟩
  | paused due next ih =>
    simp only [carry]
    by_cases hdue : limit.allows s.now due
    · simp only [if_pos hdue]
      exact ih (s.moveTo due)
    · simp only [if_neg hdue]
      exact ⟨[], fun log => by rw [List.append_nil]⟩

/-- A job keeps its contract on a log of its own, of what was added to the log on its behalf. -/
theorem carry_holds_apart {k : Contract α} (world : World σ) (limit : Limit) {job : Job α}
    {own : List Event} (h : job.Keeps k own) (s : Scene σ) :
    ∃ events, (job.carry world limit s).2.log = s.log ++ events ∧
      k.Holds limit ((job.carry world limit s).1,
        { (job.carry world limit s).2 with log := own ++ events }) := by
  obtain ⟨events, hevents⟩ := carry_with_log world limit job s
  refine ⟨events, congrArg (·.2.log) (hevents s.log), ?_⟩
  rw [← hevents own]
  exact carry_holds world limit h

end Job

/-- The log only grows while an attempt is run. -/
theorem Connection.advance_log (world : World σ) (limit : Limit) (number : Nat)
    (c : Connection σ H) :
    ∃ events, (c.advance world limit number).2.scene.log = c.scene.log ++ events := by
  have hsame : ∃ events, c.scene.log = c.scene.log ++ events := ⟨[], by simp⟩
  simp only [advance, Link.advance]
  cases c.link.attempts[number]? with
  | none => exact hsame
  | some attempt =>
    cases attempt with
    | running job =>
      obtain ⟨events, hevents⟩ := job.carry_with_log world limit c.scene
      have hlog := congrArg (·.2.log) (hevents c.scene.log)
      dsimp only at hlog ⊢
      generalize job.carry world limit c.scene = carried at hlog ⊢
      obtain ⟨job, s⟩ := carried
      cases job <;> exact ⟨events, hlog⟩
    | ended outcome => exact hsame
    | crashed => exact hsame

namespace Stance

/-- The attempt that a caller runs with its next step. -/
def attempt? : Stance H α → Option Nat
  | .ready (.join number _) | .ready (.reclaim number _) => some number
  | _ => none

/-- A step only adds to the log. -/
theorem act_log (world : World σ) (owner : Nat) (limit : Limit) (stance : Stance H α)
    (c : Connection σ H) :
    ∃ events, (stance.act world owner limit c).2.scene.log = c.scene.log ++ events := by
  have hsame : ∃ events, c.scene.log = c.scene.log ++ events := ⟨[], by simp⟩
  cases stance with
  | gone => exact hsame
  | settling number outcome next => exact hsame
  | ready task =>
    cases task with
    | work job next =>
      obtain ⟨events, hevents⟩ := job.carry_with_log world limit c.scene
      have hlog := congrArg (·.2.log) (hevents c.scene.log)
      simp only [act] at hlog ⊢
      generalize job.carry world limit c.scene = carried at hlog ⊢
      obtain ⟨job, s⟩ := carried
      cases job <;> exact ⟨events, hlog⟩
    | join number next =>
      have hlog := c.advance_log world limit number
      simp only [act]
      generalize c.advance world limit number = found at hlog ⊢
      obtain ⟨finding, d⟩ := found
      cases finding <;> exact hlog
    | reclaim number next =>
      have hlog := c.advance_log world limit number
      simp only [act]
      generalize c.advance world limit number = found at hlog ⊢
      obtain ⟨finding, d⟩ := found
      cases finding <;> exact hlog
    | enter connect next =>
      simp only [act]
      cases c.link.phase <;> exact hsame
    | detach next =>
      simp only [act, Link.detach]
      cases c.link.phase <;> exact hsame
    | lock access next =>
      simp only [act]
      split <;> exact hsame
    | queued next =>
      simp only [act]
      split <;> exact hsame
    | _ => exact hsame

end Stance

/-- A step of one caller: where it stood before and after, and what the step added to the log. -/
structure Deed (H α : Type) where
  owner : Nat
  before : Stance H α
  after : Stance H α
  events : List Event

/-- What was done on behalf of one attempt, whoever ran it. -/
def eventsOf (deeds : List (Deed H α)) (number : Nat) : List Event :=
  deeds.flatMap fun deed => if deed.before.attempt? = some number then deed.events else []

section Attribution

variable (deeds : List (Deed H α)) (deed : Deed H α) {number : Nat}

theorem eventsOf_append (h : deed.before.attempt? = some number) :
    eventsOf (deeds ++ [deed]) number = eventsOf deeds number ++ deed.events := by
  simp [eventsOf, List.flatMap_append, h]

theorem eventsOf_append_other (h : deed.before.attempt? ≠ some number) :
    eventsOf (deeds ++ [deed]) number = eventsOf deeds number := by
  simp [eventsOf, List.flatMap_append, h]

end Attribution

namespace Crowd

/-- A run of a crowd, with the steps that its members took. -/
inductive Chronicle (world : World σ) (MayCome : Task H α → Prop) (MayLeave : Stance H α → Prop)
    (first : Crowd σ H α) : List (Deed H α) → Crowd σ H α → Prop
  | start : Chronicle world MayCome MayLeave first [] first
  | come {deeds c} (h : Chronicle world MayCome MayLeave first deeds c) (task : Task H α)
      (ht : MayCome task) : Chronicle world MayCome MayLeave first deeds (c.come task)
  | act {deeds c} (h : Chronicle world MayCome MayLeave first deeds c) (limit : Limit) {i : Nat}
      {stance : Stance H α} (hi : c.members[i]? = some stance) {events : List Event}
      (hlog : (stance.act world i limit c.shared).2.scene.log = c.shared.scene.log ++ events) :
      Chronicle world MayCome MayLeave first
        (deeds ++ [⟨i, stance, (stance.act world i limit c.shared).1, events⟩])
        (c.act world limit i)
  | leave {deeds c} (h : Chronicle world MayCome MayLeave first deeds c) {i : Nat}
      {stance : Stance H α} (hi : c.members[i]? = some stance) (hl : MayLeave stance) :
      Chronicle world MayCome MayLeave first deeds (c.leave i)
  | pass {deeds c} (h : Chronicle world MayCome MayLeave first deeds c) (due : Time) :
      Chronicle world MayCome MayLeave first deeds (c.pass due)

variable {world : World σ} {MayCome : Task H α → Prop} {MayLeave : Stance H α → Prop}
  {first c d : Crowd σ H α} {deeds more : List (Deed H α)}

/-- Every run can be told. -/
theorem exists_chronicle (h : Run world MayCome MayLeave first c) :
    ∃ deeds, Chronicle world MayCome MayLeave first deeds c := by
  induction h with
  | refl => exact ⟨[], .start⟩
  | @tail b c _ hs ih =>
    obtain ⟨deeds, h⟩ := ih
    cases hs with
    | come task ht => exact ⟨deeds, h.come task ht⟩
    | act i limit =>
      cases hi : b.members[i]? with
      | none =>
        rw [act_of_stranger limit hi]
        exact ⟨deeds, h⟩
      | some stance =>
        obtain ⟨events, hlog⟩ := stance.act_log world i limit b.shared
        exact ⟨_, h.act limit hi hlog⟩
    | leave i stance hi hl => exact ⟨deeds, h.leave hi hl⟩
    | pass due => exact ⟨deeds, h.pass due⟩

theorem Chronicle.run (h : Chronicle world MayCome MayLeave first deeds c) :
    Run world MayCome MayLeave first c := by
  induction h with
  | start => exact .refl
  | come _ task ht ih => exact ih.tail (.come task ht)
  | act _ limit _ _ ih => exact ih.tail (.act _ limit)
  | leave _ hi hl ih => exact ih.tail (.leave _ _ hi hl)
  | pass _ due ih => exact ih.tail (.pass due)

/-- What is told of two runs, one after the other, is told of both. -/
theorem Chronicle.append (h : Chronicle world MayCome MayLeave first deeds c)
    (hmore : Chronicle world MayCome MayLeave c more d) :
    Chronicle world MayCome MayLeave first (deeds ++ more) d := by
  induction hmore with
  | start => rwa [List.append_nil]
  | come _ task ht ih => exact ih.come task ht
  | act _ limit hi hlog ih =>
    rw [← List.append_assoc]
    exact ih.act limit hi hlog
  | leave _ hi hl ih => exact ih.leave hi hl
  | pass _ due ih => exact ih.pass due

/-- What is told is what callers do. -/
theorem Chronicle.after_eq (h : Chronicle world MayCome MayLeave first deeds c) :
    ∀ deed ∈ deeds, ∃ (limit : Limit) (shared : Connection σ H),
      deed.after = (deed.before.act world deed.owner limit shared).1 := by
  induction h with
  | start => simp
  | come _ task ht ih => exact ih
  | act _ limit hi hlog ih =>
    intro deed hmem
    rcases List.mem_append.mp hmem with hmem | hmem
    · exact ih deed hmem
    · rw [List.mem_singleton.mp hmem]
      exact ⟨limit, _, rfl⟩
  | leave _ hi hl ih => exact ih
  | pass _ due ih => exact ih

/-- All that the log has since the start of the run, the members did. -/
theorem Chronicle.log (h : Chronicle world MayCome MayLeave first deeds c) :
    c.shared.scene.log = first.shared.scene.log ++ deeds.flatMap (·.events) := by
  induction h with
  | start => simp
  | come _ task ht ih => exact ih
  | act _ limit hi hlog ih =>
    rw [act_of_member limit hi]
    dsimp only
    rw [hlog, ih, List.append_assoc, List.flatMap_append]
    simp
  | leave _ hi hl ih => exact ih
  | pass _ due ih => exact ih

end Crowd

end Outband
