import Outband.Proofs.Chronicle
import Outband.Proofs.Sharing
/-! Callers of one connection, whatever they come for. Each may be dropped at any point. -/

namespace Outband

/-- No wait has begun in the task, and it connects in these ways only. -/
def Task.Fresh (P : Job (Except DriverError H) → Prop) : Task H α → Prop
  | .done _ | .crashed _ => True
  | .work _ next => ∀ value, (next value).Fresh P
  | .enter connect next => P connect ∧ ∀ outcome, (next outcome).Fresh P
  | .detach next | .peek next => ∀ session, (next session).Fresh P
  | .lock _ next | .unlock next | .beginLookup next | .remember _ _ next => next.Fresh P
  | .recall _ next => ∀ slot, (next slot).Fresh P
  | .count next => ∀ n, (next n).Fresh P
  | .clock next => ∀ seconds, (next seconds).Fresh P
  | .join .. | .reclaim .. | .queued _ => False

variable {P : Job (Except DriverError H) → Prop}

/-- Nothing has happened yet. -/
theorem Since.about_nil {Q : Call → Prop} (base : List Event) : Since base (About Q) base :=
  ⟨[], (List.append_nil base).symm, by simp [About]⟩

theorem Job.Only.carry {Q : Call → Prop} {job : Job α} (h : job.Only Q) (world : World σ)
    (limit : Limit) (s : Scene σ) : (job.carry world limit s).1.Only Q :=
  (carry_only world limit h (Since.about_nil s.log)).1

namespace Stance

/-- The attempts that a caller has to do with are those of the link. -/
def Fits (P : Job (Except DriverError H) → Prop) (l : Link H) : Stance H α → Prop
  | .ready (.join number next) =>
    number < l.attempts.length ∧ ∀ outcome, (next outcome).Fresh P
  | .ready (.reclaim number next) =>
    number < l.attempts.length ∧ ∀ session, (next session).Fresh P
  | .ready (.queued next) => next.Fresh P
  | .ready task => task.Fresh P
  | .settling number outcome next =>
    l.attempts[number]? = some (.ended outcome) ∧ ∀ outcome, (next outcome).Fresh P
  | .gone => True

variable {l m : Link H} {stance : Stance H α}

theorem fits_of_fresh (l : Link H) {task : Task H α} (h : task.Fresh P) :
    Fits P l (.ready task) := by
  cases task <;> first | exact h | exact h.elim

theorem Fits.grows (h : stance.Fits P l) (hg : l.Grows m) : stance.Fits P m := by
  cases stance with
  | gone => trivial
  | settling number outcome next => exact ⟨hg.kept h.1 rfl, h.2⟩
  | ready task =>
    cases task with
    | join number next => exact ⟨Nat.lt_of_lt_of_le h.1 hg.length, h.2⟩
    | reclaim number next => exact ⟨Nat.lt_of_lt_of_le h.1 hg.length, h.2⟩
    | _ => exact h

/-- A step of a caller is a move of the link, of the kind that its visit shows. -/
theorem Fits.act {c : Connection σ H} (world : World σ) (owner : Nat) (limit : Limit)
    (hphase : c.link.FoundAt c.link.attempts.length c.link.phase) (h : stance.Fits P c.link) :
    c.link.Move (stance.visit? c.link) (stance.act world owner limit c).2.link ∧
      (stance.act world owner limit c).1.Fits P (stance.act world owner limit c).2.link := by
  have hnumber : ∀ {number}, c.link.phase = .connecting number →
      number < c.link.attempts.length := by
    intro number hconnecting
    rw [hconnecting] at hphase
    exact Nat.lt_of_succ_le (Nat.le_of_eq hphase)
  cases stance with
  | gone => exact ⟨.nothing _, trivial⟩
  | settling number outcome next => exact ⟨.settled h.1, fits_of_fresh _ (h.2 outcome)⟩
  | ready task =>
    cases task with
    | done value => exact ⟨.nothing _, h⟩
    | crashed cause => exact ⟨.nothing _, h⟩
    | work job next =>
      simp only [Stance.act]
      generalize job.carry world limit c.scene = carried
      obtain ⟨job, s⟩ := carried
      cases job with
      | done value => exact ⟨.nothing _, fits_of_fresh _ (h value)⟩
      | crashed cause => exact ⟨.nothing _, trivial⟩
      | _ => exact ⟨.nothing _, h⟩
    | enter connect next =>
      simp only [Stance.act, visit?]
      cases hp : c.link.phase with
      | idle => exact ⟨.opened connect hp, by simp [Link.start], h.2⟩
      | connecting number => exact ⟨.joined hp, hnumber hp, h.2⟩
      | connected session => exact ⟨.reused hp, fits_of_fresh _ (h.2 (.ok session))⟩
    | join number next =>
      obtain ⟨hmove, hshows⟩ := Link.advance_shows world limit h.1
      simp only [Stance.act]
      generalize c.advance world limit number = found at hmove hshows ⊢
      obtain ⟨finding, c⟩ := found
      cases finding with
      | pending => exact ⟨hmove, hshows, h.2⟩
      | ended outcome => exact ⟨hmove, hshows, h.2⟩
      | crashed cause => exact ⟨hmove, trivial⟩
    | detach next =>
      have hmove := Link.Move.detached c.link
      simp only [Link.detach] at hmove
      simp only [Stance.act, visit?, Link.detach]
      cases hp : c.link.phase with
      | idle =>
        rw [hp] at hmove
        exact ⟨hmove, fits_of_fresh _ (h none)⟩
      | connecting number =>
        rw [hp] at hmove
        exact ⟨hmove, hnumber hp, h⟩
      | connected session =>
        rw [hp] at hmove
        exact ⟨hmove, fits_of_fresh _ (h (some session))⟩
    | reclaim number next =>
      obtain ⟨hmove, hshows⟩ := Link.advance_shows world limit h.1
      simp only [Stance.act]
      generalize c.advance world limit number = found at hmove hshows ⊢
      obtain ⟨finding, c⟩ := found
      cases finding with
      | pending => exact ⟨hmove, hshows, h.2⟩
      | ended outcome => exact ⟨hmove, fits_of_fresh _ (h.2 outcome.toOption)⟩
      | crashed cause => exact ⟨hmove, trivial⟩
    | peek next => exact ⟨.nothing _, fits_of_fresh _ (h c.link.session?)⟩
    | lock access next =>
      simp only [Stance.act]
      split
      · exact ⟨.nothing _, fits_of_fresh _ h⟩
      · exact ⟨.nothing _, h⟩
    | queued next =>
      simp only [Stance.act]
      split
      · exact ⟨.nothing _, fits_of_fresh _ h⟩
      · exact ⟨.nothing _, h⟩
    | unlock next => exact ⟨.nothing _, fits_of_fresh _ h⟩
    | «recall» serial next => exact ⟨.nothing _, fits_of_fresh _ (h _)⟩
    | count next => exact ⟨.nothing _, fits_of_fresh _ (h _)⟩
    | beginLookup next => exact ⟨.nothing _, fits_of_fresh _ h⟩
    | remember serial slot next => exact ⟨.nothing _, fits_of_fresh _ h⟩
    | clock next => exact ⟨.nothing _, fits_of_fresh _ (h _)⟩

end Stance

namespace Crowd

variable {world : World σ} {c : Crowd σ H α} {i : Nat} {stance : Stance H α}

/-- The link is as the visits tell, and every caller fits to it. -/
structure Linked (P : Job (Except DriverError H) → Prop) (c : Crowd σ H α) : Prop where
  tells : c.link.Tells c.openings c.takings
  fits : ∀ {i : Nat} {stance : Stance H α}, c.members[i]? = some stance →
    stance.Fits P c.link
  strangers : ∀ i, c.members.length ≤ i → c.visitsOf i = []

theorem linked_initial (scene : Scene σ) :
    Linked P ({ shared := { scene := scene } } : Crowd σ H α) where
  tells := Link.Tells.initial
  fits h := by simp at h
  strangers _ _ := rfl

/-- A member is the one who came last, or was there before. -/
theorem members_come {task : Task H α} (h : (c.come task).members[i]? = some stance) :
    i = c.members.length ∧ stance = .ready task ∨ c.members[i]? = some stance := by
  by_cases hlt : i < c.members.length
  · exact Or.inr (by simpa [come, List.getElem?_append_left hlt] using h)
  · obtain rfl : i = c.members.length := by
      obtain ⟨hlen, -⟩ := List.getElem?_eq_some_iff.mp h
      simp only [come, List.length_append, List.length_singleton] at hlen
      omega
    exact Or.inl ⟨rfl, by simpa [come] using h.symm⟩

theorem members_leave {j : Nat} (h : (c.leave i).members[j]? = some stance) :
    j = i ∧ stance = .gone ∨ j ≠ i ∧ c.members[j]? = some stance := by
  by_cases hji : j = i
  · subst hji
    obtain ⟨hlt, -⟩ := List.getElem?_eq_some_iff.mp h
    rw [leave, List.length_set] at hlt
    rw [leave, List.getElem?_set_self hlt] at h
    exact Or.inl ⟨rfl, (Option.some.inj h).symm⟩
  · rw [leave, List.getElem?_set_ne (Ne.symm hji)] at h
    exact Or.inr ⟨hji, h⟩

@[simp] theorem length_act (world : World σ) (limit : Limit) (c : Crowd σ H α) (i : Nat) :
    (c.act world limit i).members.length = c.members.length := by
  cases hi : c.members[i]? with
  | none => rw [act_of_stranger limit hi]
  | some stance => rw [act_of_member limit hi, List.length_set]

@[simp] theorem length_leave (c : Crowd σ H α) (i : Nat) :
    (c.leave i).members.length = c.members.length := by
  rw [leave, List.length_set]

/-- A member stands where its own step has taken it, or where it stood before. -/
theorem members_of_act (limit : Limit) (hi : c.members[i]? = some stance) {j : Nat}
    {other : Stance H α} (h : (c.act world limit i).members[j]? = some other) :
    j = i ∧ other = (stance.act world i limit c.shared).1 ∨
      j ≠ i ∧ c.members[j]? = some other := by
  by_cases hji : j = i
  · subst hji
    rw [members_act world limit hi] at h
    exact Or.inl ⟨rfl, (Option.some.inj h).symm⟩
  · rw [members_act_other limit hji] at h
    exact Or.inr ⟨hji, h⟩

theorem linked_come (h : Linked P c) {task : Task H α} (ht : task.Fresh P) :
    Linked P (c.come task) where
  tells := h.tells
  fits hi := by
    rcases members_come hi with ⟨-, rfl⟩ | hi
    · exact Stance.fits_of_fresh _ ht
    · exact h.fits hi
  strangers i hi := by
    simp only [come, List.length_append, List.length_singleton] at hi
    exact h.strangers i (by omega)

theorem link_act (world : World σ) (limit : Limit) (hi : c.members[i]? = some stance) :
    (c.act world limit i).link = (stance.act world i limit c.shared).2.link := by
  rw [link, act_of_member limit hi]

/-- What a member does moves the link as its visit shows. -/
theorem linked_act (h : Linked P c) (world : World σ) (limit : Limit)
    (hi : c.members[i]? = some stance) :
    c.link.Move (stance.visit? c.link) (c.act world limit i).link ∧
      Linked P (c.act world limit i) := by
  obtain ⟨hmove, hfits⟩ := (h.fits hi).act world i limit h.tells.phase
  rw [← link_act world limit hi] at hmove hfits
  refine ⟨hmove, ?_, fun {j other} hj => ?_, fun j hj => ?_⟩
  · have htells := h.tells.move i hmove
    rw [act_of_member limit hi] at htells ⊢
    exact htells
  · rcases members_of_act limit hi hj with ⟨-, rfl⟩ | ⟨-, hj⟩
    · exact hfits
    · exact (h.fits hj).grows hmove.grows
  · obtain ⟨hlt, -⟩ := List.getElem?_eq_some_iff.mp hi
    rw [length_act] at hj
    rw [visitsOf_act_other limit (by omega)]
    exact h.strangers j hj

theorem linked_leave (h : Linked P c) (i : Nat) : Linked P (c.leave i) where
  tells := h.tells
  fits hj := by
    rcases members_leave hj with ⟨-, rfl⟩ | ⟨-, hj⟩
    · trivial
    · exact h.fits hj
  strangers j hj := h.strangers j (by simpa using hj)

end Crowd

/-- What an attempt was to do, and how it ended, agrees with what was done for it. -/
def Attempt.Keeps (k : Job.Contract (Except DriverError H)) : Attempt H → List Event → Prop
  | .running job, log => job.Keeps k log
  | .ended outcome, log => k.final outcome log
  | .crashed, _ => True

/-- Every attempt agrees with what was done for it. -/
def Link.Keeps (k : Job.Contract (Except DriverError H)) (l : Link H) (own : Nat → List Event) :
    Prop :=
  ∀ (n : Nat) (attempt : Attempt H), l.attempts[n]? = some attempt → attempt.Keeps k (own n)

/-- Running an attempt adds to what was done for it, and nothing to what was done for the others. -/
theorem Connection.advance_keeps {k : Job.Contract (Except DriverError H)} (world : World σ)
    (limit : Limit) (number : Nat) {c : Connection σ H} {own : Nat → List Event}
    (h : c.link.Keeps k own) {events : List Event}
    (hlog : (c.advance world limit number).2.scene.log = c.scene.log ++ events) :
    (c.advance world limit number).2.link.Keeps k
      fun n => if n = number then own n ++ events else own n := by
  have hsame : events = [] →
      c.link.Keeps k fun n => if n = number then own n ++ events else own n := by
    rintro rfl n attempt hn
    simpa using h n attempt hn
  have hset : ∀ (next : Attempt H), number < c.link.attempts.length →
      next.Keeps k (own number ++ events) →
      (c.link.record number next).Keeps k
        fun n => if n = number then own n ++ events else own n := by
    intro next hlt hnext n attempt hn
    by_cases hnumber : n = number
    · subst hnumber
      rw [Link.record, List.getElem?_set_self hlt] at hn
      cases hn
      simpa using hnext
    · rw [Link.record, List.getElem?_set_ne (Ne.symm hnumber)] at hn
      simpa only [if_neg hnumber] using h n attempt hn
  simp only [advance, Link.advance] at hlog ⊢
  cases hget : c.link.attempts[number]? with
  | none =>
    rw [hget] at hlog
    exact hsame (by simpa using hlog)
  | some attempt =>
    rw [hget] at hlog
    obtain ⟨hlt, -⟩ := List.getElem?_eq_some_iff.mp hget
    have hattempt := h number attempt hget
    cases attempt with
    | running job =>
      obtain ⟨more, hmore, hholds⟩ := Job.carry_holds_apart world limit hattempt c.scene
      dsimp only at hlog ⊢
      generalize job.carry world limit c.scene = carried at hlog hmore hholds ⊢
      obtain ⟨job, s⟩ := carried
      have heq : more = events := by
        cases job <;> exact List.append_cancel_left (hmore.symm.trans hlog)
      subst heq
      cases job with
      | done outcome => exact hset _ hlt hholds
      | crashed cause => exact hset _ hlt trivial
      | _ => exact hset _ hlt hholds.2.2
    | ended outcome => exact hsame (by simpa using hlog)
    | crashed => exact hsame (by simpa using hlog)

namespace Stance

variable {world : World σ} {owner : Nat} {limit : Limit} {stance : Stance H α}
  {c : Connection σ H} {events : List Event}

/-- Only who runs an attempt changes one, and only who enters adds one. -/
theorem act_attempts (world : World σ) (owner : Nat) (limit : Limit) (c : Connection σ H)
    (h : stance.attempt? = none) :
    (stance.act world owner limit c).2.link.attempts = c.link.attempts ∨
      ∃ connect next, stance = .ready (.enter connect next) ∧
        (stance.act world owner limit c).2.link.attempts =
          c.link.attempts ++ [.running connect] := by
  cases stance with
  | gone => exact Or.inl rfl
  | settling number outcome next => exact Or.inl (Link.settle_attempts _ _ _)
  | ready task =>
    cases task with
    | join number next => cases h
    | reclaim number next => cases h
    | work job next =>
      simp only [act]
      generalize job.carry world limit c.scene = carried
      obtain ⟨job, s⟩ := carried
      cases job <;> exact Or.inl rfl
    | enter connect next =>
      simp only [act]
      cases c.link.phase with
      | idle => exact Or.inr ⟨connect, next, rfl, rfl⟩
      | connecting number => exact Or.inl rfl
      | connected session => exact Or.inl rfl
    | detach next =>
      simp only [act, Link.detach]
      cases c.link.phase <;> exact Or.inl rfl
    | lock access next =>
      simp only [act]
      split <;> exact Or.inl rfl
    | queued next =>
      simp only [act]
      split <;> exact Or.inl rfl
    | _ => exact Or.inl rfl

/-- The work that a caller does with its next step, if it is to do some of its own. -/
def IsWork : Stance H α → Prop
  | .ready (.work _ _) => True
  | _ => False

/-- Who neither works nor runs an attempt makes no call. -/
theorem act_silent (hattempt : stance.attempt? = none) (hwork : ¬ stance.IsWork)
    (hlog : (stance.act world owner limit c).2.scene.log = c.scene.log ++ events) :
    events = [] := by
  have hsame : c.scene.log = c.scene.log ++ events → events = [] := fun h => by simpa using h
  cases stance with
  | gone => exact hsame hlog
  | settling number outcome next => exact hsame hlog
  | ready task =>
    cases task with
    | join number next => cases hattempt
    | reclaim number next => cases hattempt
    | work job next => exact absurd trivial hwork
    | enter connect next =>
      simp only [act] at hlog
      cases hp : c.link.phase <;> rw [hp] at hlog <;> exact hsame hlog
    | detach next =>
      simp only [act, Link.detach] at hlog
      cases hp : c.link.phase <;> rw [hp] at hlog <;> exact hsame hlog
    | lock access next =>
      simp only [act] at hlog
      split at hlog <;> exact hsame hlog
    | queued next =>
      simp only [act] at hlog
      split at hlog <;> exact hsame hlog
    | _ => exact hsame hlog

theorem act_work_log (world : World σ) (owner : Nat) (limit : Limit) (job : Job β)
    (next : β → Task H α) (c : Connection σ H) :
    ((Stance.ready (.work job next)).act world owner limit c).2.scene.log =
      (job.carry world limit c.scene).2.log := by
  simp only [act]
  generalize job.carry world limit c.scene = carried
  obtain ⟨job, s⟩ := carried
  cases job <;> rfl

/-- What a caller does as its own work is of the kind that its work is. -/
theorem act_work_only {Q : Call → Prop} {job : Job β} {next : β → Task H α} (h : job.Only Q)
    (hlog : ((Stance.ready (.work job next)).act world owner limit c).2.scene.log =
      c.scene.log ++ events) :
    (job.carry world limit c.scene).1.Only Q ∧ About Q events := by
  obtain ⟨honly, more, hmore, habout⟩ := Job.carry_only world limit h (Since.about_nil c.scene.log)
  rw [act_work_log] at hlog
  obtain rfl : more = events := List.append_cancel_left (hmore.symm.trans hlog)
  exact ⟨honly, habout⟩

end Stance

namespace Crowd

variable {world : World σ} {c : Crowd σ H α} {i : Nat} {stance : Stance H α}
  {deeds : List (Deed H α)} {k : Job.Contract (Except DriverError H)}

/-- Every attempt is as far as what was done for it. -/
structure Attributed (k : Job.Contract (Except DriverError H)) (deeds : List (Deed H α))
    (c : Crowd σ H α) : Prop where
  attempts : c.link.Keeps k (eventsOf deeds)
  later : ∀ n, c.link.attempts.length ≤ n → eventsOf deeds n = []

theorem attributed_initial (scene : Scene σ) :
    Attributed k [] ({ shared := { scene := scene } } : Crowd σ H α) where
  attempts n attempt hn := by simp at hn
  later n _ := rfl

section Act

variable {limit : Limit} {events : List Event}

/-- Who runs an attempt of the link adds to what was done for it. -/
theorem advance_of_attempt {number : Nat} (hattempt : stance.attempt? = some number)
    (hi : c.members[i]? = some stance)
    (hlog : (stance.act world i limit c.shared).2.scene.log = c.shared.scene.log ++ events) :
    (c.act world limit i).link = (c.shared.advance world limit number).2.link ∧
      (c.shared.advance world limit number).2.scene.log = c.shared.scene.log ++ events := by
  rw [link_act world limit hi]
  cases stance with
  | ready task =>
    cases task with
    | join other next =>
      cases hattempt
      simp only [Stance.act] at hlog ⊢
      generalize c.shared.advance world limit number = found at hlog ⊢
      obtain ⟨finding, d⟩ := found
      cases finding <;> exact ⟨rfl, hlog⟩
    | reclaim other next =>
      cases hattempt
      simp only [Stance.act] at hlog ⊢
      generalize c.shared.advance world limit number = found at hlog ⊢
      obtain ⟨finding, d⟩ := found
      cases finding <;> exact ⟨rfl, hlog⟩
    | _ => cases hattempt
  | _ => cases hattempt

theorem attributed_of_attempt (h : Attributed k deeds c) (hl : Linked P c) {number : Nat}
    (hattempt : stance.attempt? = some number) (hi : c.members[i]? = some stance)
    (hlog : (stance.act world i limit c.shared).2.scene.log = c.shared.scene.log ++ events) :
    Attributed k (deeds ++ [⟨i, stance, (stance.act world i limit c.shared).1, events⟩])
      (c.act world limit i) := by
  have hlt : number < c.link.attempts.length := by
    have hfits := hl.fits hi
    cases stance with
    | ready task => cases task <;> cases hattempt <;> exact hfits.1
    | _ => cases hattempt
  obtain ⟨hlink, hadded⟩ := advance_of_attempt hattempt hi hlog
  have hkeeps := c.shared.advance_keeps world limit number h.attempts hadded
  rw [← hlink] at hkeeps
  refine ⟨fun n attempt hn => ?_, fun n hn => ?_⟩
  · have hn' := hkeeps n attempt hn
    by_cases hnumber : n = number
    · subst hnumber
      rw [eventsOf_append _ _ hattempt]
      simpa using hn'
    · rw [eventsOf_append_other _ _ (by simpa [hattempt] using Ne.symm hnumber)]
      simpa only [if_neg hnumber] using hn'
  · have hle := (linked_act hl world limit hi).1.grows.length
    rw [eventsOf_append_other _ _ (by simp [hattempt]; omega)]
    exact h.later n (by omega)

theorem attributed_of_other (h : Attributed k deeds c) (hl : Linked P c)
    (hP : ∀ connect, P connect → connect.Keeps k []) (hattempt : stance.attempt? = none)
    (hi : c.members[i]? = some stance) :
    Attributed k (deeds ++ [⟨i, stance, (stance.act world i limit c.shared).1, events⟩])
      (c.act world limit i) := by
  have hsame : eventsOf
      (deeds ++ [⟨i, stance, (stance.act world i limit c.shared).1, events⟩]) = eventsOf deeds :=
    funext fun n => eventsOf_append_other _ _ (by simp [hattempt])
  have hlink := link_act world limit hi
  rcases Stance.act_attempts world i limit c.shared hattempt with
    heq | ⟨connect, next, rfl, heq⟩
  · have hattempts : (c.act world limit i).link.attempts = c.link.attempts := by rw [hlink, heq]
    constructor
    · rw [hsame, Link.Keeps, hattempts]
      exact h.attempts
    · rw [hsame, hattempts]
      exact h.later
  · have hattempts : (c.act world limit i).link.attempts =
        c.link.attempts ++ [.running connect] := by rw [hlink, heq]
    constructor
    · rw [hsame, Link.Keeps, hattempts]
      intro n attempt hn
      by_cases hold : n < c.link.attempts.length
      · rw [List.getElem?_append_left hold] at hn
        exact h.attempts n attempt hn
      · obtain ⟨hlen, -⟩ := List.getElem?_eq_some_iff.mp hn
        obtain rfl : n = c.link.attempts.length := by
          simp only [List.length_append, List.length_singleton] at hlen
          omega
        rw [List.getElem?_concat_length] at hn
        cases hn
        rw [h.later _ (Nat.le_refl _)]
        exact hP connect (hl.fits hi).1
    · rw [hsame, hattempts]
      intro n hn
      rw [List.length_append] at hn
      exact h.later n (by omega)

theorem attributed_act (h : Attributed k deeds c) (hl : Linked P c)
    (hP : ∀ connect, P connect → connect.Keeps k []) (hi : c.members[i]? = some stance)
    (hlog : (stance.act world i limit c.shared).2.scene.log = c.shared.scene.log ++ events) :
    Attributed k (deeds ++ [⟨i, stance, (stance.act world i limit c.shared).1, events⟩])
      (c.act world limit i) := by
  cases hattempt : stance.attempt? with
  | some number => exact attributed_of_attempt h hl hattempt hi hlog
  | none => exact attributed_of_other h hl hP hattempt hi

end Act

section Told

variable {MayCome : Task H α → Prop} {MayLeave : Stance H α → Prop} {scene : Scene σ}

theorem Chronicle.linked (hfresh : ∀ task, MayCome task → task.Fresh P)
    (h : Chronicle world MayCome MayLeave { shared := { scene := scene } } deeds c) :
    Linked P c := by
  induction h with
  | start => exact linked_initial scene
  | come _ task ht ih => exact linked_come ih (hfresh task ht)
  | act _ limit hi _ ih => exact (linked_act ih world limit hi).2
  | leave _ _ _ ih => exact linked_leave ih _
  | pass _ due ih => exact ⟨ih.tells, ih.fits, ih.strangers⟩

theorem Chronicle.attributed (hfresh : ∀ task, MayCome task → task.Fresh P)
    (hP : ∀ connect, P connect → connect.Keeps k [])
    (h : Chronicle world MayCome MayLeave { shared := { scene := scene } } deeds c) :
    Attributed k deeds c := by
  induction h with
  | start => exact attributed_initial scene
  | come _ task ht ih => exact ⟨ih.attempts, ih.later⟩
  | act h limit hi hlog ih => exact attributed_act ih (h.linked hfresh) hP hi hlog
  | leave _ _ _ ih => exact ⟨ih.attempts, ih.later⟩
  | pass _ due ih => exact ⟨ih.attempts, ih.later⟩

/-- Attempts to connect make calls of one kind only. -/
theorem Chronicle.only {Q : Call → Prop} (hfresh : ∀ task, MayCome task → task.Fresh P)
    (hQ : ∀ connect, P connect → connect.Only Q)
    (h : Chronicle world MayCome MayLeave { shared := { scene := scene } } deeds c) :
    c.link.Only Q ∧ ∀ deed ∈ deeds, deed.before.attempt? ≠ none → About Q deed.events := by
  induction h with
  | start => exact ⟨fun number job hn => by simp at hn, by simp⟩
  | come _ task ht ih => exact ih
  | @act deeds c h limit i stance hi events hlog ih =>
    obtain ⟨honly, hdeeds⟩ := ih
    have hlink := link_act world limit hi
    have hacts : (c.act world limit i).link.Only Q ∧
        (stance.attempt? ≠ none → About Q events) := by
      cases hattempt : stance.attempt? with
      | some number =>
        obtain ⟨hadvance, hadded⟩ := advance_of_attempt hattempt hi hlog
        have hshared : c.shared.Only Q c.shared.scene.log := ⟨honly, .about_nil _⟩
        obtain ⟨hafter, more, hmore, habout⟩ := hshared.advance world limit number
        obtain rfl : more = events := List.append_cancel_left (hmore.symm.trans hadded)
        rw [hadvance]
        exact ⟨hafter, fun _ => habout⟩
      | none =>
        refine ⟨?_, fun hne => absurd rfl hne⟩
        rcases Stance.act_attempts world i limit c.shared hattempt with
          heq | ⟨connect, next, rfl, heq⟩
        · intro number job hn
          rw [hlink, heq] at hn
          exact honly number job hn
        · intro number job hn
          rw [hlink, heq] at hn
          exact honly.start (hQ connect ((h.linked hfresh).fits hi).1) number job hn
    refine ⟨hacts.1, fun deed hmem => ?_⟩
    rcases List.mem_append.mp hmem with hmem | hmem
    · exact hdeeds deed hmem
    · rw [List.mem_singleton.mp hmem]
      exact hacts.2
  | leave _ _ _ ih => exact ih
  | pass _ due ih => exact ih

end Told

end Crowd

end Outband
