import Outband.Proofs.Callers
import Outband.Proofs.SingleFlight
/-! How many steps a caller needs to its end. What bounds them holds whatever others do in between,
as long as the caller does not wait for the lock. -/

namespace Outband

/-- The task comes to its end with so many steps, if none of them finds it waiting. -/
def Task.Within : Task H α → Nat → Prop
  | .done _, _ | .crashed _, _ => True
  | .work _ next, n => ∃ m, m + 1 ≤ n ∧ ∀ value, (next value).Within m
  | .enter _ next, n => ∃ m, m + 3 ≤ n ∧ ∀ outcome, (next outcome).Within m
  | .join _ next, n => ∃ m, m + 2 ≤ n ∧ ∀ outcome, (next outcome).Within m
  | .detach next, n => ∃ m, m + 2 ≤ n ∧ ∀ session, (next session).Within m
  | .reclaim _ next, n | .peek next, n => ∃ m, m + 1 ≤ n ∧ ∀ session, (next session).Within m
  | .lock _ next, n => ∃ m, m + 2 ≤ n ∧ next.Within m
  | .queued next, n | .unlock next, n | .beginLookup next, n | .remember _ _ next, n =>
    ∃ m, m + 1 ≤ n ∧ next.Within m
  | .recall _ next, n => ∃ m, m + 1 ≤ n ∧ ∀ slot, (next slot).Within m
  | .count next, n => ∃ m, m + 1 ≤ n ∧ ∀ count, (next count).Within m
  | .clock next, n => ∃ m, m + 1 ≤ n ∧ ∀ seconds, (next seconds).Within m

namespace Stance

def Within : Stance H α → Nat → Prop
  | .gone, _ => True
  | .settling _ _ next, n => ∃ m, m + 1 ≤ n ∧ ∀ outcome, (next outcome).Within m
  | .ready task, n => task.Within n

/-- The caller has come to its end. -/
def IsOver : Stance H α → Prop
  | .ready (.done _) | .ready (.crashed _) | .gone => True
  | _ => False

/-- The caller has steps to take, and does not wait for the lock. -/
def IsFree (l : Lock) (owner : Nat) : Stance H α → Prop
  | .ready (.done _) | .ready (.crashed _) | .gone => False
  | .ready (.queued _) => l.isHeldBy owner
  | _ => True

variable {P : Job (Except DriverError H) → Prop} {stance : Stance H α} {n : Nat} {l : Lock}
  {owner : Nat} {limit : Limit} {c : Connection σ H}

theorem Within.pos (h : stance.Within n) (hf : stance.IsFree l owner) : 0 < n := by
  cases stance with
  | gone => exact hf.elim
  | settling number outcome next =>
    obtain ⟨m, hm, -⟩ := h
    omega
  | ready task =>
    cases task with
    | done _ | crashed _ => exact hf.elim
    | _ =>
      obtain ⟨m, hm, -⟩ := h
      omega

/-- A step brings a caller nearer to its end, but for a wait that goes on. Only a limit makes a
caller wait who is free. -/
theorem Within.act (h : stance.Within n) (hf : stance.Fits P c.link) (world : World σ)
    (owner : Nat) (limit : Limit) :
    let after := stance.act world owner limit c
    (∃ m < n, after.1.Within m) ∨ after.1.Within n ∧
      (stance.IsFree c.inventory.lock owner →
        limit.isSome ∧ after.1.IsFree after.2.inventory.lock owner) := by
  have hpending : ∀ {number}, number < c.link.attempts.length →
      (c.advance world limit number).1 = .pending → limit.isSome := by
    intro number hn hpending
    cases limit with
    | none => exact absurd hpending (Link.advance_none world hn)
    | some due => rfl
  cases stance with
  | gone => exact Or.inr ⟨trivial, fun hfree => hfree.elim⟩
  | settling number outcome next =>
    obtain ⟨m, hm, hnext⟩ := h
    exact Or.inl ⟨m, hm, hnext outcome⟩
  | ready task =>
    cases task with
    | done value => exact Or.inr ⟨trivial, fun hfree => hfree.elim⟩
    | crashed cause => exact Or.inr ⟨trivial, fun hfree => hfree.elim⟩
    | work job next =>
      obtain ⟨m, hm, hnext⟩ := id h
      have hends := fun hnone : limit = none => hnone ▸ job.carry_none world c.scene
      rw [Stance.act]
      generalize job.carry world limit c.scene = carried at hends ⊢
      obtain ⟨job, s⟩ := carried
      cases job with
      | done value => exact Or.inl ⟨m, hm, hnext value⟩
      | crashed cause => exact Or.inl ⟨m, hm, trivial⟩
      | _ =>
        refine Or.inr ⟨h, fun _ => ⟨?_, trivial⟩⟩
        cases limit with
        | none => simp at hends
        | some due => rfl
    | enter connect next =>
      obtain ⟨m, hm, hnext⟩ := h
      rw [Stance.act]
      cases c.link.phase with
      | connected session => exact Or.inl ⟨m, by omega, hnext _⟩
      | _ => exact Or.inl ⟨m + 2, hm, m, Nat.le_refl _, hnext⟩
    | join number next =>
      obtain ⟨m, hm, hnext⟩ := id h
      specialize hpending hf.1
      rw [Stance.act]
      generalize c.advance world limit number = found at hpending ⊢
      obtain ⟨finding, d⟩ := found
      cases finding with
      | ended outcome => exact Or.inl ⟨m + 1, hm, m, Nat.le_refl _, hnext⟩
      | crashed cause => exact Or.inl ⟨m, by omega, trivial⟩
      | pending => exact Or.inr ⟨h, fun _ => ⟨hpending rfl, trivial⟩⟩
    | detach next =>
      obtain ⟨m, hm, hnext⟩ := h
      simp only [Stance.act, Link.detach]
      cases c.link.phase with
      | connecting number => exact Or.inl ⟨m + 1, hm, m, Nat.le_refl _, hnext⟩
      | _ => exact Or.inl ⟨m, by omega, hnext _⟩
    | reclaim number next =>
      obtain ⟨m, hm, hnext⟩ := id h
      specialize hpending hf.1
      rw [Stance.act]
      generalize c.advance world limit number = found at hpending ⊢
      obtain ⟨finding, d⟩ := found
      cases finding with
      | ended outcome => exact Or.inl ⟨m, hm, hnext _⟩
      | crashed cause => exact Or.inl ⟨m, hm, trivial⟩
      | pending => exact Or.inr ⟨h, fun _ => ⟨hpending rfl, trivial⟩⟩
    | lock access next =>
      obtain ⟨m, hm, hnext⟩ := h
      simp only [Stance.act]
      split
      · exact Or.inl ⟨m, by omega, hnext⟩
      · exact Or.inl ⟨m + 1, hm, m, Nat.le_refl _, hnext⟩
    | queued next =>
      obtain ⟨m, hm, hnext⟩ := id h
      rw [Stance.act]
      by_cases hheld : c.inventory.lock.isHeldBy owner
      · rw [if_pos hheld]
        exact Or.inl ⟨m, hm, hnext⟩
      · rw [if_neg hheld]
        exact Or.inr ⟨h, fun hfree => absurd hfree hheld⟩
    | unlock next | beginLookup next | remember serial slot next =>
      obtain ⟨m, hm, hnext⟩ := h
      exact Or.inl ⟨m, hm, hnext⟩
    | peek next | «recall» serial next | count next | clock next =>
      obtain ⟨m, hm, hnext⟩ := h
      exact Or.inl ⟨m, hm, hnext _⟩

end Stance

end Outband
