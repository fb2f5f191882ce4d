import Outband.Proofs.Interleaving
import Mathlib.Data.List.Perm.Subperm
/-! What the visits to a link tell about it: which attempts were made, what became of each of them,
and what was taken. -/

namespace Outband

namespace Attempt

def isOver : Attempt H → Bool
  | .running _ => false
  | _ => true

def isFailed : Attempt H → Bool
  | .ended (.error _) => true
  | _ => false

end Attempt

def Phase.isBusy : Phase H → Bool
  | .idle => false
  | _ => true

/-- A caller took what the link held, when so many attempts had been started. -/
structure Taking (H : Type) where
  owner : Nat
  found : Phase H
  attempts : Nat

namespace Visit

def opened? (entry : Nat × Visit H) : Option Nat :=
  match entry.2 with
  | .opened number => some number
  | _ => none

def taking? (entry : Nat × Visit H) : Option (Taking H) :=
  match entry.2 with
  | .detached found attempts => some ⟨entry.1, found, attempts⟩
  | _ => none

end Visit

namespace Crowd

/-- The attempts in the order in which callers made them. -/
def openings (c : Crowd σ H α) : List Nat := c.visits.filterMap Visit.opened?

def takings (c : Crowd σ H α) : List (Taking H) := c.visits.filterMap Visit.taking?

end Crowd

namespace Link

/-- What one step of a caller does to the link, and the visit that shows it. -/
inductive Move : Link H → Option (Visit H) → Link H → Prop
  | nothing (l) : Move l none l
  | opened {l} (connect : Job (Except DriverError H)) (h : l.phase = .idle) :
      Move l (some (.opened l.attempts.length)) (l.start connect).2
  | joined {l number} (h : l.phase = .connecting number) : Move l (some (.joined number)) l
  | reused {l session} (h : l.phase = .connected session) : Move l (some (.reused session)) l
  | detached (l) : Move l (some (.detached l.phase l.attempts.length)) l.detach.2
  | advanced {l number job} (attempt : Attempt H) (h : l.attempts[number]? = some (.running job)) :
      Move l none (l.record number attempt)
  | settled {l number outcome} (h : l.attempts[number]? = some (.ended outcome)) :
      Move l none (l.settle number outcome)

/-- Attempts that are over stay what they are. -/
structure Grows (l m : Link H) : Prop where
  length : l.attempts.length ≤ m.attempts.length
  kept : ∀ {number : Nat} {attempt : Attempt H}, l.attempts[number]? = some attempt →
    attempt.isOver → m.attempts[number]? = some attempt

theorem settle_attempts (l : Link H) (number : Nat) (outcome : Except DriverError H) :
    (l.settle number outcome).attempts = l.attempts := by
  unfold settle
  cases l.phase with
  | connecting current =>
    by_cases hc : current = number
    · cases outcome <;> simp [hc]
    · simp [hc]
  | _ => rfl

theorem Move.grows {l m : Link H} {v : Option (Visit H)} (h : Move l v m) : Grows l m := by
  cases h with
  | opened connect _ =>
    refine ⟨by simp [start], fun hn _ => ?_⟩
    obtain ⟨hlt, -⟩ := List.getElem?_eq_some_iff.mp hn
    rw [start, List.getElem?_append_left hlt]
    exact hn
  | @advanced number job attempt hrun =>
    refine ⟨by simp [record], fun {other found} hn hover => ?_⟩
    by_cases hother : number = other
    · subst hother
      rw [hrun] at hn
      cases hn
      cases hover
    · rw [record, List.getElem?_set_ne hother]
      exact hn
  | settled _ =>
    refine ⟨Nat.le_of_eq (by rw [settle_attempts]), fun hn _ => ?_⟩
    rw [settle_attempts]
    exact hn
  | _ => exact ⟨Nat.le_refl _, fun hn _ => hn⟩

/-- How the attempts stood when the link was found in this phase. -/
def FoundAt (l : Link H) (attempts : Nat) : Phase H → Prop
  | .idle => True
  | .connecting number => number + 1 = attempts
  | .connected session =>
    ∃ number, number + 1 = attempts ∧ l.attempts[number]? = some (.ended (.ok session))

/-- What the history of a link says about it. -/
structure Tells (l : Link H) (openings : List Nat) (takings : List (Taking H)) : Prop where
  openings : openings = List.range l.attempts.length
  /-- The link can only be busy with the attempt that was started last. -/
  phase : l.FoundAt l.attempts.length l.phase
  found : ∀ t ∈ takings, l.FoundAt t.attempts t.found
  earlier : ∀ t ∈ takings, t.attempts ≤ l.attempts.length ∧
    (l.phase.isBusy → t.attempts < l.attempts.length)
  /-- Nobody takes after the same attempt as somebody else. -/
  unique : ∀ t ∈ takings, ∀ u ∈ takings, t.found.isBusy → u.found.isBusy →
    t.attempts = u.attempts → t = u
  /-- An attempt that the link is not busy with has failed or was taken over. -/
  fate : ∀ number < l.attempts.length, (l.phase.isBusy ∧ number + 1 = l.attempts.length) ∨
    (∃ err, l.attempts[number]? = some (.ended (.error err))) ∨
    ∃ t ∈ takings, t.found.isBusy ∧ number + 1 = t.attempts

variable {l m : Link H} {openings : List Nat} {takings : List (Taking H)}

theorem FoundAt.grows (hg : Grows l m) {attempts : Nat} {found : Phase H}
    (h : l.FoundAt attempts found) : m.FoundAt attempts found := by
  cases found with
  | connected session =>
    obtain ⟨number, hnumber, hended⟩ := h
    exact ⟨number, hnumber, hg.kept hended rfl⟩
  | _ => exact h

theorem Tells.initial : Tells ({} : Link H) [] [] where
  openings := rfl
  phase := trivial
  found := by simp
  earlier := by simp
  unique := by simp
  fate := by simp

theorem Tells.start (h : l.Tells openings takings) (hidle : l.phase = .idle)
    (connect : Job (Except DriverError H)) :
    (l.start connect).2.Tells (openings ++ [l.attempts.length]) takings := by
  have hg := (Move.opened connect hidle).grows
  have hlen : (l.start connect).2.attempts.length = l.attempts.length + 1 := by simp [Link.start]
  refine ⟨?_, hlen.symm, fun t ht => (h.found t ht).grows hg, fun t ht => ?_, h.unique, ?_⟩
  · rw [h.openings, hlen, List.range_succ]
  · obtain ⟨hle, -⟩ := h.earlier t ht
    omega
  · intro number hn
    by_cases hlast : number = l.attempts.length
    · exact Or.inl ⟨rfl, by omega⟩
    · rcases h.fate number (by omega) with ⟨hbusy, -⟩ | ⟨err, herr⟩ | htaken
      · rw [hidle] at hbusy
        cases hbusy
      · exact Or.inr (Or.inl ⟨err, hg.kept herr rfl⟩)
      · exact Or.inr (Or.inr htaken)

theorem Tells.detach (h : l.Tells openings takings) (owner : Nat) :
    l.detach.2.Tells openings (takings ++ [⟨owner, l.phase, l.attempts.length⟩]) := by
  -- A busy link was not taken since its last attempt was started.
  have hnew : ∀ t ∈ takings, l.phase.isBusy → t.attempts ≠ l.attempts.length := by
    intro t ht hbusy
    have hlt := (h.earlier t ht).2 hbusy
    omega
  refine ⟨h.openings, trivial, ?_, ?_, ?_, ?_⟩
  · intro t ht
    rcases List.mem_append.mp ht with ht | ht
    · exact h.found t ht
    · rw [List.mem_singleton.mp ht]
      exact h.phase
  · intro t ht
    rcases List.mem_append.mp ht with ht | ht
    · exact ⟨(h.earlier t ht).1, fun hbusy => by cases hbusy⟩
    · rw [List.mem_singleton.mp ht]
      exact ⟨Nat.le_refl _, fun hbusy => by cases hbusy⟩
  · intro t ht u hu hbt hbu heq
    rcases List.mem_append.mp ht with ht | ht <;> rcases List.mem_append.mp hu with hu | hu
    · exact h.unique t ht u hu hbt hbu heq
    · rw [List.mem_singleton.mp hu] at hbu heq
      exact absurd heq (hnew t ht hbu)
    · rw [List.mem_singleton.mp ht] at hbt heq
      exact absurd heq.symm (hnew u hu hbt)
    · rw [List.mem_singleton.mp ht, List.mem_singleton.mp hu]
  · intro number hn
    rcases h.fate number hn with ⟨hbusy, hlast⟩ | herr | ⟨t, ht, htaken⟩
    · exact Or.inr (Or.inr ⟨_, List.mem_append_right _ (List.mem_singleton.mpr rfl), hbusy, hlast⟩)
    · exact Or.inr (Or.inl herr)
    · exact Or.inr (Or.inr ⟨t, List.mem_append_left _ ht, htaken⟩)

theorem Tells.record (h : l.Tells openings takings) {number : Nat}
    {job : Job (Except DriverError H)} (attempt : Attempt H)
    (hrun : l.attempts[number]? = some (.running job)) :
    (l.record number attempt).Tells openings takings := by
  have hg := (Move.advanced attempt hrun).grows
  have hlen : (l.record number attempt).attempts.length = l.attempts.length := by
    simp [Link.record]
  refine ⟨?_, ?_, fun t ht => (h.found t ht).grows hg, ?_, h.unique, ?_⟩
  · rw [h.openings, hlen]
  · rw [hlen]
    exact h.phase.grows hg
  · rw [hlen]
    exact h.earlier
  · rw [hlen]
    intro other hn
    rcases h.fate other hn with hbusy | ⟨err, herr⟩ | htaken
    · exact Or.inl hbusy
    · exact Or.inr (Or.inl ⟨err, hg.kept herr rfl⟩)
    · exact Or.inr (Or.inr htaken)

/-- A caller who settles late, for an attempt that the link has moved on from, changes nothing. -/
theorem settle_of_late {number : Nat} (h : l.phase ≠ .connecting number)
    (outcome : Except DriverError H) : l.settle number outcome = l := by
  unfold settle
  cases hphase : l.phase with
  | connecting current =>
    have hne : current ≠ number := fun heq => h (heq ▸ hphase)
    simp [hne]
  | _ => rfl

theorem Tells.settle (h : l.Tells openings takings) {number : Nat}
    {outcome : Except DriverError H} (hended : l.attempts[number]? = some (.ended outcome)) :
    (l.settle number outcome).Tells openings takings := by
  by_cases hphase : l.phase = .connecting number
  · have hlast : number + 1 = l.attempts.length := by
      have hfound := h.phase
      rwa [hphase] at hfound
    have hbusy : l.phase.isBusy := by
      rw [hphase]
      rfl
    cases outcome with
    | ok session =>
      have hsettle : l.settle number (.ok session) = { l with phase := .connected session } := by
        simp [Link.settle, hphase]
      rw [hsettle]
      refine ⟨h.openings, ⟨number, hlast, hended⟩, h.found, fun t ht => ?_, h.unique, ?_⟩
      · exact ⟨(h.earlier t ht).1, fun _ => (h.earlier t ht).2 hbusy⟩
      · intro other hn
        exact (h.fate other hn).imp_left fun hcur => ⟨rfl, hcur.2⟩
    | error err =>
      have hsettle : l.settle number (.error err) = { l with phase := .idle } := by
        simp [Link.settle, hphase]
      rw [hsettle]
      refine ⟨h.openings, trivial, h.found, fun t ht => ?_, h.unique, ?_⟩
      · exact ⟨(h.earlier t ht).1, fun hidle => by cases hidle⟩
      · intro other hn
        rcases h.fate other hn with ⟨-, hother⟩ | hpast
        · obtain rfl : other = number := by omega
          exact Or.inr (Or.inl ⟨err, hended⟩)
        · exact Or.inr hpast
  · rw [settle_of_late hphase]
    exact h

/-- The history goes on to tell what happened to the link. -/
theorem Tells.move {visits : List (Nat × Visit H)} {v : Option (Visit H)} (owner : Nat)
    (h : l.Tells (visits.filterMap Visit.opened?) (visits.filterMap Visit.taking?))
    (hm : Move l v m) :
    m.Tells ((visits ++ (v.map (owner, ·)).toList).filterMap Visit.opened?)
      ((visits ++ (v.map (owner, ·)).toList).filterMap Visit.taking?) := by
  simp only [List.filterMap_append]
  cases hm with
  | opened connect hidle => simpa [List.filterMap_cons, Visit.opened?, Visit.taking?] using h.start hidle connect
  | detached => simpa [List.filterMap_cons, Visit.opened?, Visit.taking?] using h.detach owner
  | advanced attempt hrun => simpa using h.record attempt hrun
  | settled hended => simpa using h.settle hended
  | _ => simpa [List.filterMap_cons, Visit.opened?, Visit.taking?] using h

/-- Every attempt but the last has failed or was taken over. -/
theorem Tells.length_le (h : l.Tells openings takings) :
    l.attempts.length ≤ 1 + l.attempts.countP Attempt.isFailed +
      takings.countP (·.found.isBusy) := by
  -- The numbers of the attempts differ, so that there are no more of them than reasons for one.
  have hsub : List.range l.attempts.length ⊆ (l.attempts.length - 1) ::
      (l.attempts.findIdxs Attempt.isFailed ++
        (takings.filter (·.found.isBusy)).map (·.attempts - 1)) := by
    intro number hn
    have hlt := List.mem_range.mp hn
    rcases h.fate number hlt with ⟨-, hlast⟩ | ⟨err, herr⟩ | ⟨t, ht, hbusy, htaken⟩
    · exact List.mem_cons.mpr (Or.inl (by omega))
    · refine List.mem_cons_of_mem _ (List.mem_append_left _ ?_)
      rw [List.mem_findIdxs_iff_pos_getElem hlt]
      obtain ⟨_, hget⟩ := List.getElem?_eq_some_iff.mp herr
      rw [hget]
      rfl
    · refine List.mem_cons_of_mem _ (List.mem_append_right _ ?_)
      exact List.mem_map.mpr ⟨t, List.mem_filter.mpr ⟨ht, hbusy⟩, by omega⟩
  have hle := (List.nodup_range.subperm hsub).length_le
  simp only [List.length_range, List.length_cons, List.length_append, List.length_findIdxs,
    List.length_map, ← List.countP_eq_length_filter] at hle
  omega

end Link

end Outband
