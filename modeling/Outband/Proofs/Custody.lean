import Outband.Proofs.Sharing
import Outband.Rehearsal
import Outband.Server
/-! Where the session of an attempt is: with the link, owed to a caller who waits to release it, or
with the caller who took it. It is never lost and never in two hands. -/

namespace Outband.Crowd

/-- Where a session can be. -/
inductive Place where
  | held
  | owed (i : Nat)
  | returned (i : Nat)

/-- The session of an attempt is there. -/
def At (c : Crowd σ H (Gain H)) (number : Nat) (session : H) : Place → Prop
  | .held => c.link.phase = .connecting number ∨
    c.link.phase = .connected session ∧ number + 1 = c.link.attempts.length
  | .owed i => c.members[i]? = some (.ready (.reclaim number .took))
  | .returned i => c.members[i]? = some (.ready (.took (some session))) ∧
    ∃ found, c.visitsOf i = [.detached found (number + 1)]

variable {world : World σ} {scene : Scene σ} {c : Crowd σ H (Gain H)} {i number : Nat} {session : H}

theorem taking_iff {found : Phase H} {attempts : Nat} :
    ⟨i, found, attempts⟩ ∈ c.takings ↔ .detached found attempts ∈ c.visitsOf i := by
  unfold takings visitsOf
  simp only [List.mem_filterMap]
  constructor
  · rintro ⟨⟨owner, visit⟩, hmem, heq⟩
    cases visit with
    | detached other more =>
      simp only [Visit.taking?, Option.some.injEq, Taking.mk.injEq] at heq
      obtain ⟨rfl, rfl, rfl⟩ := heq
      exact ⟨(owner, .detached other more), hmem, by simp⟩
    | _ => simp [Visit.taking?] at heq
  · rintro ⟨⟨owner, visit⟩, hmem, heq⟩
    by_cases howner : owner = i
    · simp only [howner, if_true, Option.some.injEq] at heq
      subst howner heq
      exact ⟨_, hmem, rfl⟩
    · simp [howner] at heq

/-- What a caller waits to release is what it found under way. -/
theorem visitsOf_of_owed (h : Sound c) (hi : c.members[i]? = some (.ready (.reclaim number .took))) :
    c.visitsOf i = [.detached (.connecting number) (number + 1)] := by
  have hstands := h.standing hi
  generalize hv : c.visitsOf i = visits at hstands ⊢
  cases hstands with
  | awaiting _ hawaiting => cases hawaiting
  | taken attempts htaken =>
    cases htaken
    have hfound := h.tells.found ⟨i, .connecting number, attempts⟩ (taking_iff.mpr (by simp [hv]))
    obtain rfl : number + 1 = attempts := hfound
    rfl

/-- What a caller returned was the session of an attempt. -/
theorem returned_of_took (h : Sound c)
    (hi : c.members[i]? = some (.ready (.took (some session)))) :
    ∃ number found, c.visitsOf i = [.detached found (number + 1)] ∧ found.isBusy ∧
      c.link.attempts[number]? = some (.ended (.ok session)) := by
  have hstands := h.standing hi
  generalize hv : c.visitsOf i = visits at hstands ⊢
  cases hstands with
  | awaiting _ hawaiting => cases hawaiting
  | @taken found _ attempts htaken =>
    have hfound := h.tells.found ⟨i, found, attempts⟩ (taking_iff.mpr (by simp [hv]))
    cases htaken with
    | @ended number outcome _ hn hs =>
      obtain rfl : number + 1 = attempts := hfound
      cases outcome with
      | ok other =>
        cases hs
        exact ⟨number, _, rfl, rfl, hn⟩
      | error err => cases hs
    | session session =>
      obtain ⟨number, rfl, hn⟩ := hfound
      exact ⟨number, _, rfl, rfl, hn⟩

theorem ended_of_returned (h : Sound c) (hp : c.At number session (.returned i)) :
    c.link.attempts[number]? = some (.ended (.ok session)) := by
  obtain ⟨hi, found, hv⟩ := hp
  obtain ⟨other, same, hother, -, hn⟩ := returned_of_took h hi
  rw [hv] at hother
  cases hother
  exact hn

/-- A session that is not with the link was taken by the caller whose it is. -/
theorem taking_of_at (h : Sound c) {p : Place} (hp : c.At number session p) :
    p = .held ∨ ∃ t ∈ c.takings, t.found.isBusy ∧ number + 1 = t.attempts ∧
      (p = .owed t.owner ∨ p = .returned t.owner) := by
  cases p with
  | held => exact Or.inl rfl
  | owed i =>
    have hv := visitsOf_of_owed h hp
    exact Or.inr ⟨_, taking_iff.mpr (by rw [hv]; exact List.mem_singleton.mpr rfl), rfl, rfl,
      Or.inl rfl⟩
  | returned i =>
    obtain ⟨hi, found, hv⟩ := hp
    obtain ⟨other, busy, hother, hbusy, -⟩ := returned_of_took h hi
    obtain rfl : found = busy := by
      rw [hv] at hother
      cases hother
      rfl
    exact Or.inr ⟨_, taking_iff.mpr (by rw [hv]; exact List.mem_singleton.mpr rfl), hbusy, rfl,
      Or.inr rfl⟩

/-- The link holds nothing that somebody took. -/
theorem not_held_of_taking (h : Sound c) {t : Taking H} (ht : t ∈ c.takings)
    (hnumber : number + 1 = t.attempts) : ¬ c.At number session .held := by
  obtain ⟨-, hless⟩ := h.tells.earlier t ht
  have hfound := h.tells.phase
  rintro (hphase | ⟨hphase, hlast⟩)
  · rw [hphase] at hless hfound
    have hlt := hless rfl
    have hlast : number + 1 = c.link.attempts.length := hfound
    omega
  · rw [hphase] at hless
    have hlt := hless rfl
    omega

theorem at_unique (h : Sound c) {p q : Place} (hp : c.At number session p)
    (hq : c.At number session q) : p = q := by
  rcases taking_of_at h hp with rfl | ⟨t, ht, hbt, hnt, htp⟩ <;>
    rcases taking_of_at h hq with rfl | ⟨u, hu, hbu, hnu, huq⟩
  · rfl
  · exact absurd hp (not_held_of_taking h hu hnu)
  · exact absurd hq (not_held_of_taking h ht hnt)
  · -- Who took after the same attempt is the same.
    obtain rfl : t = u := h.tells.unique t ht u hu hbt hbu (hnt.symm.trans hnu)
    rcases htp with rfl | rfl <;> rcases huq with rfl | rfl
    · rfl
    · have hi := hp.symm.trans hq.1
      cases hi
    · have hi := hq.symm.trans hp.1
      cases hi
    · rfl

/-- A session that was taken is with the caller who took it, or will be. -/
theorem at_of_taking (h : Sound c) {t : Taking H} (ht : t ∈ c.takings) (hbusy : t.found.isBusy)
    (hnumber : number + 1 = t.attempts)
    (hn : c.link.attempts[number]? = some (.ended (.ok session))) :
    ∃ p, c.At number session p := by
  obtain ⟨i, found, attempts⟩ := t
  obtain rfl : number + 1 = attempts := hnumber
  have hfound : c.link.FoundAt (number + 1) found := h.tells.found _ ht
  have hmem : .detached found (number + 1) ∈ c.visitsOf i := taking_iff.mp ht
  obtain ⟨stance, hi⟩ : ∃ stance, c.members[i]? = some stance := by
    by_cases hlt : i < c.members.length
    · exact ⟨_, List.getElem?_eq_getElem hlt⟩
    · rw [h.strangers i (Nat.le_of_not_lt hlt)] at hmem
      cases hmem
  have hstands := h.standing hi
  generalize hv : c.visitsOf i = visits at hstands hmem
  cases hstands with
  | entering connect => cases hmem
  | awaiting hw _ => exact absurd hmem (hw.not_detached _)
  | reused other => simp at hmem
  | gone hw => exact absurd hmem (hw _ _)
  | taking => cases hmem
  | taken attempts htaken =>
    obtain ⟨rfl, rfl⟩ : found = _ ∧ number + 1 = attempts := by simpa using hmem
    cases htaken with
    | nothing => cases hbusy
    | session other =>
      obtain ⟨same, hsame, hended⟩ := hfound
      obtain rfl : same = number := Nat.succ.inj hsame
      rw [hn] at hended
      cases hended
      exact ⟨.returned i, hi, _, hv⟩
    | waiting _ =>
      obtain rfl := Nat.succ.inj hfound
      exact ⟨.owed i, hi⟩
    | ended hended hs =>
      obtain rfl := Nat.succ.inj hfound
      rw [hn] at hended
      cases hended
      cases hs
      exact ⟨.returned i, hi, _, hv⟩
    | stuck hcrashed =>
      obtain rfl := Nat.succ.inj hfound
      rw [hn] at hcrashed
      cases hcrashed

theorem at_exists (h : Sound c) (hn : c.link.attempts[number]? = some (.ended (.ok session))) :
    ∃ p, c.At number session p := by
  obtain ⟨hlt, -⟩ := List.getElem?_eq_some_iff.mp hn
  rcases h.tells.fate number hlt with ⟨hbusy, hlast⟩ | ⟨err, herr⟩ | ⟨t, ht, hbusy, hnumber⟩
  · have hfound := h.tells.phase
    refine ⟨.held, ?_⟩
    unfold At
    cases hphase : c.link.phase with
    | idle =>
      rw [hphase] at hbusy
      cases hbusy
    | connecting current =>
      rw [hphase] at hfound
      obtain rfl : current = number := Nat.succ.inj (hfound.trans hlast.symm)
      exact Or.inl rfl
    | connected other =>
      rw [hphase] at hfound
      obtain ⟨current, hcurrent, hended⟩ := hfound
      obtain rfl : current = number := Nat.succ.inj (hcurrent.trans hlast.symm)
      rw [hn] at hended
      cases hended
      exact Or.inr ⟨rfl, hlast⟩
  · rw [hn] at herr
    cases herr
  · exact at_of_taking h ht hbusy hnumber hn

/-- Whose the sessions are that were opened. -/
structure Custody (c : Crowd σ H (Gain H)) : Prop where
  /-- A session that was opened is in one place, and in no other. -/
  place : ∀ number session, c.link.attempts[number]? = some (.ended (.ok session)) →
    ∃! p, c.At number session p
  /-- What was under way when somebody took it does not come back to the link. -/
  parted : ∀ t ∈ c.takings, ∀ number session, t.found = .connecting number →
    ¬ c.At number session .held
  /-- Who took a session has that of an attempt. -/
  origin : ∀ i session, c.members[i]? = some (.ready (.took (some session))) →
    ∃ number, c.link.attempts[number]? = some (.ended (.ok session)) ∧
      c.At number session (.returned i)
  /-- No two have that of the same. -/
  apart : ∀ i j number session other, c.At number session (.returned i) →
    c.At number other (.returned j) → i = j

theorem custody_reachable (h : Reachable world scene c) : Custody c where
  place number session hn := by
    obtain ⟨p, hp⟩ := at_exists (sound_reachable h) hn
    exact ⟨p, hp, fun q hq => at_unique (sound_reachable h) hq hp⟩
  parted t ht number session hfound := by
    have hattempts := (sound_reachable h).tells.found t ht
    rw [hfound] at hattempts
    exact not_held_of_taking (sound_reachable h) ht hattempts
  origin i session hi := by
    obtain ⟨number, found, hv, -, hn⟩ := returned_of_took (sound_reachable h) hi
    exact ⟨number, hn, hi, found, hv⟩
  apart i j number session other hi hj := by
    have hn := ended_of_returned (sound_reachable h) hi
    rw [ended_of_returned (sound_reachable h) hj] at hn
    cases hn
    cases at_unique (sound_reachable h) hi hj
    rfl

/-- A caller takes the session while it is being opened for another. -/
theorem custody_of_taken :
    let call := Task.get (Server.connect ⟨"10.0.0.1", ⟨"admin", "secret"⟩⟩)
    let opening := (Crowd.come { shared := { scene := { world := {} } } } call).act Script.world none 0
    let c := ((opening.come .take).act Script.world none 1).act Script.world none 1
    Reachable Script.world { world := {} } c ∧ Custody c ∧
      ∃ session, c.link.attempts[0]? = some (.ended (.ok session)) ∧ c.At 0 session (.returned 1) := by
  intro call opening c
  have hopening : Reachable Script.world { world := {} } opening :=
    (Reachable.come .refl (.get _)).act none 0
  have hc : Reachable Script.world { world := {} } c :=
    ((hopening.come .take).act none 1).act none 1
  exact ⟨hc, custody_reachable hc, _, rfl, rfl, _, rfl⟩

end Outband.Crowd
