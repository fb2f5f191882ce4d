import Outband.Task
import Mathlib.Data.List.Basic
import Mathlib.Logic.Relation
/-! Callers of one connection whose steps are interleaved in any order. What a turn of a caller does
at once is taken apart here into the steps between which others may act. -/

namespace Outband

/-- Where a caller stands between two steps. One who found its attempt ended has yet to tell the
link. -/
inductive Stance (H α : Type) : Type 1 where
  | ready (task : Task H α)
  | settling (attempt : Nat) (outcome : Except DriverError H)
      (next : Except DriverError H → Task H α)
  | gone

/-- What a caller found on the link, and did there. -/
inductive Visit (H : Type) where
  | opened (attempt : Nat)
  | joined (attempt : Nat)
  | reused (session : H)
  /-- It took what it found, when that many attempts had been started. -/
  | detached (found : Phase H) (attempts : Nat)

namespace Stance

/-- The next step of a caller: it looks at what is shared once, or runs what it waits for once. -/
def act (world : World σ) (owner : Nat) (limit : Limit) :
    Stance H α → Connection σ H → Stance H α × Connection σ H
  | .gone, c => (.gone, c)
  | .settling number outcome next, c => (.ready (next outcome), c.settle number outcome)
  | .ready (.done value), c => (.ready (.done value), c)
  | .ready (.crashed cause), c => (.ready (.crashed cause), c)
  | .ready (.work job next), c =>
    match job.carry world limit c.scene with
    | (.done value, scene) => (.ready (next value), { c with scene := scene })
    | (.crashed cause, scene) => (.ready (.crashed cause), { c with scene := scene }.release owner)
    | (job, scene) => (.ready (.work job next), { c with scene := scene })
  | .ready (.enter connect next), c =>
    match c.link.phase with
    | .connected session => (.ready (next (.ok session)), c)
    | .connecting number => (.ready (.join number next), c)
    | .idle =>
      let (number, link) := c.link.start connect
      (.ready (.join number next), { c with link := link })
  | .ready (.join number next), c =>
    match c.advance world limit number with
    | (.ended outcome, c) => (.settling number outcome next, c)
    | (.crashed cause, c) => (.ready (.crashed cause), c.release owner)
    | (.pending, c) => (.ready (.join number next), c)
  | .ready (.detach next), c =>
    let (phase, link) := c.link.detach
    let c := { c with link := link }
    match phase with
    | .idle => (.ready (next none), c)
    | .connected session => (.ready (next (some session)), c)
    | .connecting number => (.ready (.reclaim number next), c)
  | .ready (.reclaim number next), c =>
    match c.advance world limit number with
    | (.ended outcome, c) => (.ready (next outcome.toOption), c)
    | (.crashed cause, c) => (.ready (.crashed cause), c.release owner)
    | (.pending, c) => (.ready (.reclaim number next), c)
  | .ready (.peek next), c => (.ready (next c.link.session?), c)
  | .ready (.lock access next), c =>
    let c := c.setLock (c.inventory.lock.request owner access)
    if c.inventory.lock.isHeldBy owner then (.ready next, c) else (.ready (.queued next), c)
  | .ready (.queued next), c =>
    if c.inventory.lock.isHeldBy owner then (.ready next, c) else (.ready (.queued next), c)
  | .ready (.unlock next), c => (.ready next, c.release owner)
  | .ready (.recall serial next), c => (.ready (next (c.inventory.slot? serial)), c)
  | .ready (.count next), c => (.ready (next c.inventory.slots.length), c)
  | .ready (.beginLookup next), c =>
    (.ready next, { c with inventory := { c.inventory with lookups := c.inventory.lookups + 1 } })
  | .ready (.remember serial slot next), c =>
    (.ready next, { c with inventory := c.inventory.remember serial slot })
  | .ready (.clock next), c => (.ready (next c.scene.unixSeconds), c)

/-- What the next step of a caller does on the link, if it goes there. -/
def visit? (l : Link H) : Stance H α → Option (Visit H)
  | .ready (.enter _ _) =>
    some <| match l.phase with
      | .idle => .opened l.attempts.length
      | .connecting number => .joined number
      | .connected session => .reused session
  | .ready (.detach _) => some (.detached l.phase l.attempts.length)
  | _ => none

/-- A caller takes some of its steps with nobody in between. -/
def Acts (world : World σ) (owner : Nat) (limit : Limit) :
    Stance H α × Connection σ H → Stance H α × Connection σ H → Prop :=
  Relation.ReflTransGen fun a b => b = a.1.act world owner limit a.2

variable {world : World σ} {owner : Nat} {limit : Limit} {a b : Stance H α × Connection σ H}

theorem Acts.step {st : Stance H α} {c : Connection σ H}
    (h : Acts world owner limit (st.act world owner limit c) b) :
    Acts world owner limit (st, c) b :=
  .head rfl h

/-- Waiting for an attempt of the link. -/
theorem acts_join {number : Nat} {next : Except DriverError H → Task H α}
    (ih : ∀ outcome c, Acts world owner limit (.ready (next outcome), c)
      (.ready ((next outcome).carry world owner limit c).1,
        ((next outcome).carry world owner limit c).2))
    (c : Connection σ H) :
    Acts world owner limit (.ready (.join number next), c)
      (.ready ((Task.join number next).carry world owner limit c).1,
        ((Task.join number next).carry world owner limit c).2) := by
  refine Acts.step ?_
  rw [act, Task.carry]
  generalize c.advance world limit number = found
  obtain ⟨finding, c⟩ := found
  cases finding with
  | ended outcome => exact Acts.step (ih outcome _)
  | crashed cause => exact .refl
  | pending => exact .refl

theorem acts_reclaim {number : Nat} {next : Option H → Task H α}
    (ih : ∀ session c, Acts world owner limit (.ready (next session), c)
      (.ready ((next session).carry world owner limit c).1,
        ((next session).carry world owner limit c).2))
    (c : Connection σ H) :
    Acts world owner limit (.ready (.reclaim number next), c)
      (.ready ((Task.reclaim number next).carry world owner limit c).1,
        ((Task.reclaim number next).carry world owner limit c).2) := by
  refine Acts.step ?_
  rw [act, Task.carry]
  generalize c.advance world limit number = found
  obtain ⟨finding, c⟩ := found
  cases finding with
  | ended outcome => exact ih _ _
  | crashed cause => exact .refl
  | pending => exact .refl

/-- To enter is to do what the link asks for first, and then to wait or to go on. -/
theorem carry_enter (connect : Job (Except DriverError H)) (next : Except DriverError H → Task H α)
    (c : Connection σ H) :
    (Task.enter connect next).carry world owner limit c =
      match c.link.phase with
      | .connected session => (next (.ok session)).carry world owner limit c
      | .connecting number => (Task.join number next).carry world owner limit c
      | .idle => (Task.join c.link.attempts.length next).carry world owner limit
          { c with link := (c.link.start connect).2 } := by
  cases hphase : c.link.phase with
  | idle => simp only [Task.carry, hphase, Link.start]
  | connecting number => simp only [Task.carry, hphase]
  | connected session => rw [Task.carry, hphase]

theorem carry_detach (next : Option H → Task H α) (c : Connection σ H) :
    (Task.detach next).carry world owner limit c =
      match c.link.phase with
      | .idle => (next none).carry world owner limit { c with link := c.link.detach.2 }
      | .connected session =>
        (next (some session)).carry world owner limit { c with link := c.link.detach.2 }
      | .connecting number =>
        (Task.reclaim number next).carry world owner limit { c with link := c.link.detach.2 } := by
  cases hphase : c.link.phase with
  | idle => simp only [Task.carry, Link.detach, hphase]
  | connecting number => simp only [Task.carry, Link.detach, hphase]
  | connected session => simp only [Task.carry, Link.detach, hphase]

/-- A turn of a caller is a number of its steps. -/
theorem acts_carry (task : Task H α) (c : Connection σ H) :
    Acts world owner limit (.ready task, c)
      (.ready (task.carry world owner limit c).1, (task.carry world owner limit c).2) := by
  induction task generalizing c with
  | done value => exact .refl
  | crashed cause => exact .refl
  | work job next ih =>
    refine Acts.step ?_
    rw [act, Task.carry]
    generalize job.carry world limit c.scene = carried
    obtain ⟨job, scene⟩ := carried
    cases job with
    | done value => exact ih value _
    | _ => exact .refl
  | enter connect next ih =>
    refine Acts.step ?_
    rw [act, carry_enter]
    cases c.link.phase with
    | idle => exact acts_join ih _
    | connecting number => exact acts_join ih c
    | connected session => exact ih _ c
  | join number next ih => exact acts_join ih c
  | detach next ih =>
    refine Acts.step ?_
    rw [act, carry_detach]
    simp only [Link.detach]
    cases c.link.phase with
    | idle => exact ih none _
    | connecting number => exact acts_reclaim ih _
    | connected session => exact ih (some session) _
  | reclaim number next ih => exact acts_reclaim ih c
  | peek next ih => exact Acts.step (ih _ _)
  | lock access next ih =>
    refine Acts.step ?_
    rw [act, Task.carry]
    split
    · exact ih _
    · exact .refl
  | queued next ih =>
    refine Acts.step ?_
    rw [act, Task.carry]
    split
    · exact ih _
    · exact .refl
  | unlock next ih => exact Acts.step (ih _)
  | «recall» serial next ih => exact Acts.step (ih _ _)
  | count next ih => exact Acts.step (ih _ _)
  | beginLookup next ih => exact Acts.step (ih _)
  | remember serial slot next ih => exact Acts.step (ih _)
  | clock next ih => exact Acts.step (ih _ _)

end Stance

/-- Callers of one connection, each known by its place, and the visits that they paid to the link. -/
structure Crowd (σ H α : Type) where
  shared : Connection σ H
  members : List (Stance H α) := []
  visits : List (Nat × Visit H) := []

namespace Crowd

abbrev link (c : Crowd σ H α) : Link H := c.shared.link

/-- The visits of one caller. -/
def visitsOf (c : Crowd σ H α) (i : Nat) : List (Visit H) :=
  c.visits.filterMap fun visit => if visit.1 = i then some visit.2 else none

def come (c : Crowd σ H α) (task : Task H α) : Crowd σ H α :=
  { c with members := c.members ++ [.ready task] }

def act (world : World σ) (limit : Limit) (i : Nat) (c : Crowd σ H α) : Crowd σ H α :=
  match c.members[i]? with
  | none => c
  | some stance =>
    let (next, shared) := stance.act world i limit c.shared
    { shared, members := c.members.set i next,
      visits := c.visits ++ ((stance.visit? c.link).map (i, ·)).toList }

/-- The caller is dropped where it stands. -/
def leave (c : Crowd σ H α) (i : Nat) : Crowd σ H α :=
  { c with shared := c.shared.release i, members := c.members.set i .gone }

def pass (c : Crowd σ H α) (due : Time) : Crowd σ H α :=
  { c with shared := { c.shared with scene := c.shared.scene.moveTo due } }

/-- What may happen next, if only some callers come and only some leave before their end. -/
inductive Step (world : World σ) (MayCome : Task H α → Prop) (MayLeave : Stance H α → Prop) :
    Crowd σ H α → Crowd σ H α → Prop
  | come {c} (task : Task H α) (h : MayCome task) : Step world MayCome MayLeave c (c.come task)
  | act {c} (i : Nat) (limit : Limit) : Step world MayCome MayLeave c (c.act world limit i)
  | leave {c} (i : Nat) (stance : Stance H α) (hi : c.members[i]? = some stance)
      (h : MayLeave stance) : Step world MayCome MayLeave c (c.leave i)
  | pass {c} (due : Time) : Step world MayCome MayLeave c (c.pass due)

/-- Any number of steps, of any callers. -/
def Run (world : World σ) (MayCome : Task H α → Prop) (MayLeave : Stance H α → Prop) :
    Crowd σ H α → Crowd σ H α → Prop :=
  Relation.ReflTransGen (Step world MayCome MayLeave)

variable {world : World σ} {MayCome : Task H α → Prop} {MayLeave : Stance H α → Prop}
  {c : Crowd σ H α} {i : Nat} {stance : Stance H α}

theorem act_of_member (limit : Limit) (h : c.members[i]? = some stance) :
    c.act world limit i =
      { shared := (stance.act world i limit c.shared).2
        members := c.members.set i (stance.act world i limit c.shared).1
        visits := c.visits ++ ((stance.visit? c.link).map (i, ·)).toList } := by
  simp only [act, h]

theorem act_of_stranger (limit : Limit) (h : c.members[i]? = none) : c.act world limit i = c := by
  simp only [act, h]

theorem members_act (world : World σ) (limit : Limit) (h : c.members[i]? = some stance) :
    (c.act world limit i).members[i]? = some (stance.act world i limit c.shared).1 := by
  obtain ⟨hi, -⟩ := List.getElem?_eq_some_iff.mp h
  rw [act_of_member limit h]
  exact List.getElem?_set_self hi

theorem members_act_other (limit : Limit) {j : Nat} (h : j ≠ i) :
    (c.act world limit i).members[j]? = c.members[j]? := by
  cases hi : c.members[i]? with
  | none => rw [act_of_stranger limit hi]
  | some stance =>
    rw [act_of_member limit hi]
    exact List.getElem?_set_ne h.symm

theorem visitsOf_act (limit : Limit) (hi : c.members[i]? = some stance) :
    (c.act world limit i).visitsOf i = c.visitsOf i ++ (stance.visit? c.link).toList := by
  rw [act_of_member limit hi]
  unfold visitsOf
  rw [List.filterMap_append]
  cases stance.visit? c.link <;> simp

theorem visitsOf_act_other (limit : Limit) {j : Nat} (hj : j ≠ i) :
    (c.act world limit i).visitsOf j = c.visitsOf j := by
  cases hi : c.members[i]? with
  | none => rw [act_of_stranger limit hi]
  | some stance =>
    rw [act_of_member limit hi]
    unfold visitsOf
    rw [List.filterMap_append]
    cases stance.visit? c.link <;> simp [hj.symm]

end Crowd

end Outband
