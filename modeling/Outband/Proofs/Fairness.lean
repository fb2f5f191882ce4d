import Outband.Proofs.Lookups
import Outband.Proofs.Turns
import Mathlib.Algebra.Order.BigOperators.Group.Finset
import Mathlib.Algebra.BigOperators.Intervals
/-! Every caller of a chassis connection who is given its turns comes to its end, whatever lookups
fail or are dropped. -/

namespace Outband

namespace Crowd

variable {world : World σ} {c d : Crowd σ H α} {i j n : Nat} {stance after : Stance H α}

/-- All members together come to their end with so many steps. -/
def Within (c : Crowd σ H α) (n : Nat) : Prop :=
  ∃ budget : Nat → Nat, (∀ {i : Nat} {stance : Stance H α}, c.members[i]? = some stance →
    stance.Within (budget i)) ∧ ∑ i ∈ Finset.range c.members.length, budget i ≤ n

/-- The member has steps to take, and does not wait for the lock. -/
def Free (c : Crowd σ H α) (i : Nat) : Prop :=
  ∃ stance, c.members[i]? = some stance ∧ stance.IsFree c.inventory.lock i

theorem within_set {m : Nat} (hi : i < c.members.length) {budget : Nat → Nat}
    (hb : ∀ {i : Nat} {stance : Stance H α}, c.members[i]? = some stance →
      stance.Within (budget i))
    (hm : m < budget i) (hd : d.members = c.members.set i after) (h : after.Within m)
    (hsum : ∑ i ∈ Finset.range c.members.length, budget i ≤ n) : ∃ k < n, d.Within k := by
  refine ⟨∑ j ∈ Finset.range c.members.length, if j = i then m else budget j, ?_,
    fun j => if j = i then m else budget j, fun {j other} hj => ?_, ?_⟩
  · refine Nat.lt_of_lt_of_le (Finset.sum_lt_sum (fun j _ => ?_) ⟨i, by simpa using hi, ?_⟩) hsum
    · by_cases hji : j = i
      · rw [if_pos hji, hji]
        exact Nat.le_of_lt hm
      · rw [if_neg hji]
    · simpa using hm
  · rw [hd] at hj
    by_cases hji : j = i
    · subst hji
      rw [List.getElem?_set_self hi] at hj
      cases hj
      simpa using h
    · rw [List.getElem?_set_ne (Ne.symm hji)] at hj
      simpa only [if_neg hji] using hb hj
  · rw [hd, List.length_set]

end Crowd

theorem Stance.IsFree.mono {l m : Lock} {owner : Nat} {stance : Stance H α}
    (h : stance.IsFree l owner) (hheld : l.isHeldBy owner → m.isHeldBy owner) :
    stance.IsFree m owner := by
  cases stance with
  | ready task =>
    cases task with
    | queued next => exact hheld h
    | _ => exact h
  | _ => exact h

theorem Lock.Moves.isHeldBy {l m : Lock} {i j : Nat} (h : l.Moves i m) (hne : j ≠ i)
    (hheld : l.isHeldBy j) : m.isHeldBy j := by
  obtain ⟨access, hmem⟩ := Lock.isHeldBy_iff.mp hheld
  exact Lock.isHeldBy_iff.mpr ⟨access, h.mem_holders hne hmem⟩

namespace Chassis

variable {e : Endpoint} {Looks : Job (Except DriverError Slot) → Prop} {Q : Call → Prop}
  {P : Job (Except DriverError ChassisSession) → Prop} {world : World σ} {scene : Scene σ}
  {c d : Crowd σ ChassisSession Answer} {deeds more : List (Deed ChassisSession Answer)}
  {i j n : Nat} {stance : Stance ChassisSession Answer}

theorem resolving_within (serial : String) (lookup : Job (Except DriverError Slot)) :
    (resolving serial lookup).Within 11 := by
  rw [resolving_eq]
  refine ⟨9, by omega, 8, by omega, fun found => ?_⟩
  cases found with
  | some slot => exact ⟨0, by omega, trivial⟩
  | none =>
    refine ⟨7, by omega, 5, by omega, 4, by omega, fun found => ?_⟩
    cases found with
    | some slot => exact ⟨0, by omega, trivial⟩
    | none =>
      refine ⟨3, by omega, 2, by omega, fun outcome => ?_⟩
      cases outcome with
      | ok slot => exact ⟨1, by omega, 0, by omega, trivial⟩
      | error err => exact ⟨0, by omega, trivial⟩

theorem Request.within {task : Caller} (h : Request e Looks task) : task.Within 14 := by
  cases h with
  | connect => exact ⟨0, by omega, fun _ => trivial⟩
  | operate op =>
    refine ⟨1, by omega, fun outcome => ?_⟩
    cases outcome with
    | ok session => exact ⟨0, by omega, fun _ => trivial⟩
    | error err => trivial
  | operateBlade op slot =>
    refine ⟨1, by omega, fun outcome => ?_⟩
    cases outcome with
    | ok session => exact ⟨0, by omega, fun _ => trivial⟩
    | error err => trivial
  | find serial =>
    refine ⟨11, by omega, fun outcome => ?_⟩
    cases outcome with
    | ok session => exact resolving_within serial _
    | error err => trivial
  | resolve serial hl =>
    rw [resolving_eq]
    obtain ⟨m, hm, hnext⟩ := resolving_eq serial _ ▸ resolving_within serial _
    exact ⟨m, by omega, hnext⟩
  | known serial => exact ⟨12, by omega, 11, by omega, fun _ => ⟨0, by omega, trivial⟩⟩
  | size => exact ⟨12, by omega, 11, by omega, fun _ => ⟨0, by omega, trivial⟩⟩
  | close =>
    rw [close_eq]
    refine ⟨1, by omega, fun session => ?_⟩
    cases session with
    | none => trivial
    | some session => exact ⟨0, by omega, fun _ => trivial⟩

theorem Placed.moves (h : Placed Q deeds c) (limit : Limit) (hi : c.members[i]? = some stance) :
    c.inventory.lock.Moves i (c.act world limit i).inventory.lock := by
  obtain ⟨footing, hagrees, hplace⟩ := h.place hi
  have harrives : Arrives (Place Q fun _ => True) c.inventory.lock i
      (stance.act world i limit c.shared) :=
    hplace.act h.sound hagrees (fun _ _ => trivial) ⟨[], trivial⟩
  rw [inventory_act limit hi]
  exact harrives.1

/-- Who is free stays free while others act. -/
theorem Placed.free_act (h : Placed Q deeds c) (limit : Limit) (hi : c.members[i]? = some stance)
    (hne : j ≠ i) (hf : c.Free j) : (c.act world limit i).Free j := by
  obtain ⟨other, hj, hfree⟩ := hf
  refine ⟨other, by rwa [Crowd.members_act_other limit hne], ?_⟩
  exact hfree.mono ((h.moves limit hi).isHeldBy hne)

theorem free_leave (hne : j ≠ i) (hf : c.Free j) : (c.leave i).Free j := by
  obtain ⟨other, hj, hfree⟩ := hf
  refine ⟨other, ?_, hfree.mono (Lock.Moves.leave.isHeldBy hne)⟩
  rwa [Crowd.leave, List.getElem?_set_ne (Ne.symm hne)]

/-- Whoever acts comes nearer to its end, or all stay as near as they were. -/
theorem nearer_of_act (h : Placed Q deeds c) (hl : c.Linked P) (hn : c.Within n) (limit : Limit)
    (hi : c.members[i]? = some stance) :
    (∃ m < n, (c.act world limit i).Within m) ∨
      (c.act world limit i).Within n ∧ ∀ j, c.Free j → (c.act world limit i).Free j := by
  obtain ⟨budget, hb, hsum⟩ := hn
  obtain ⟨hlt, -⟩ := List.getElem?_eq_some_iff.mp hi
  have hmembers : (c.act world limit i).members =
      c.members.set i (stance.act world i limit c.shared).1 := by rw [Crowd.act_of_member limit hi]
  rcases (hb hi).act (hl.fits hi) world i limit with ⟨m, hm, hafter⟩ | ⟨hafter, hfree⟩
  · exact Or.inl (Crowd.within_set hlt hb hm hmembers hafter hsum)
  · refine Or.inr ⟨⟨budget, fun {j other} hj => ?_, by rwa [Crowd.length_act]⟩,
      fun j hf => ?_⟩
    · rcases Crowd.members_of_act limit hi hj with ⟨rfl, rfl⟩ | ⟨-, hj⟩
      · exact hafter
      · exact hb hj
    · by_cases hji : j = i
      · subst hji
        obtain ⟨other, hj, hother⟩ := hf
        rw [hi] at hj
        cases hj
        refine ⟨_, Crowd.members_act world limit hi, ?_⟩
        rw [inventory_act limit hi]
        exact (hfree hother).2
      · exact h.free_act limit hi hji hf

theorem nearer_of_leave (hn : c.Within n) (hi : c.members[i]? = some stance) :
    (∃ m < n, (c.leave i).Within m) ∨
      (c.leave i).Within n ∧ ∀ j, c.Free j → (c.leave i).Free j := by
  obtain ⟨budget, hb, hsum⟩ := hn
  obtain ⟨hlt, -⟩ := List.getElem?_eq_some_iff.mp hi
  by_cases hf : c.Free i
  · obtain ⟨other, hj, hfree⟩ := hf
    exact Or.inl (Crowd.within_set hlt hb ((hb hj).pos hfree) rfl trivial hsum)
  · refine Or.inr ⟨⟨budget, fun {j other} hj => ?_, by rwa [Crowd.length_leave]⟩,
      fun j hj => ?_⟩
    · rcases Crowd.members_leave hj with ⟨rfl, rfl⟩ | ⟨-, hj⟩
      · trivial
      · exact hb hj
    · refine free_leave ?_ hj
      rintro rfl
      exact hf hj

/-- While nobody comes, all get nearer to their end together, or whoever is free stays so. -/
theorem nearer_of_step {MayLeave : Stance ChassisSession Answer → Prop} (h : Placed Q deeds c)
    (hl : c.Linked P) (hn : c.Within n) (hs : Crowd.Step world (fun _ => False) MayLeave c d) :
    (∃ m < n, d.Within m) ∨ d.Within n ∧ ∀ i, c.Free i → d.Free i := by
  cases hs with
  | come task ht => exact ht.elim
  | act i limit =>
    cases hi : c.members[i]? with
    | none =>
      rw [Crowd.act_of_stranger limit hi]
      exact Or.inr ⟨hn, fun _ hf => hf⟩
    | some stance => exact nearer_of_act h hl hn limit hi
  | leave i stance hi hm => exact nearer_of_leave hn hi
  | pass due => exact Or.inr ⟨hn, fun _ hf => hf⟩

/-- A free member who has its turn, for as long as it takes, comes nearer to its end. -/
theorem nearer_of_turn (hl : c.Linked P) (hn : c.Within n) (hf : c.Free i) :
    ∃ m < n, (c.act world none i).Within m := by
  obtain ⟨budget, hb, hsum⟩ := hn
  obtain ⟨stance, hi, hfree⟩ := hf
  obtain ⟨hlt, -⟩ := List.getElem?_eq_some_iff.mp hi
  rcases (hb hi).act (hl.fits hi) world i none with ⟨m, hm, hafter⟩ | ⟨-, hwaits⟩
  · exact Crowd.within_set hlt hb hm (by rw [Crowd.act_of_member none hi]) hafter hsum
  · cases (hwaits hfree).1

/-- Who has the lock can go on. -/
theorem Place.free {Did : Deed ChassisSession Answer → Prop} {slots : List (String × Slot)}
    {footing : Footing} {l : Lock} (h : Place Q Did slots footing stance) (hne : footing ≠ .away)
    (hheld : l.isHeldBy i) : stance.IsFree l i := by
  cases h with
  | resolving h =>
    cases h with
    | queued | waiting => exact hheld
    | checking | missed | rechecking | beginning | looking | found | failing | bringing =>
      exact trivial
    | _ => exact absurd rfl hne
  | waiting => exact hheld
  | looking hg => cases hg <;> exact trivial
  | _ => exact absurd rfl hne

theorem Place.waiting_of_queued {Did : Deed ChassisSession Answer → Prop}
    {slots : List (String × Slot)} {footing : Footing} {next : Caller}
    (h : Place Q Did slots footing (.ready (.queued next))) :
    ∃ access, footing = .waiting access := by
  cases h with
  | resolving h => cases h <;> exact ⟨_, rfl⟩
  | waiting => exact ⟨_, rfl⟩
  | looking hg => cases hg
  | outside ho =>
    cases ho with
    | serving hr => cases hr

/-- Someone can go on, unless all have come to their end: who waits for the lock waits for one who
has it. -/
theorem Placed.exists_free (h : Placed Q deeds c) (hi : c.members[i]? = some stance)
    (hover : ¬ stance.IsOver) : ∃ j, c.Free j := by
  by_cases hfree : stance.IsFree c.inventory.lock i
  · exact ⟨i, stance, hi, hfree⟩
  · obtain ⟨next, rfl, hheld⟩ : ∃ next, stance = .ready (.queued next) ∧
        ¬ c.inventory.lock.isHeldBy i := by
      cases stance with
      | ready task =>
        cases task with
        | queued next => exact ⟨next, rfl, hfree⟩
        | done _ | crashed _ => exact absurd trivial hover
        | _ => exact absurd trivial hfree
      | settling number outcome next => exact absurd trivial hfree
      | gone => exact absurd trivial hover
    obtain ⟨footing, hagrees, hplace⟩ := h.place hi
    obtain ⟨access, rfl⟩ := hplace.waiting_of_queued
    have hqueue : (i, access) ∈ c.inventory.lock.queue := by
      rcases List.mem_append.mp hagrees with hmem | hmem
      · exact absurd (Lock.isHeldBy_iff.mpr ⟨access, hmem⟩) hheld
      · exact hmem
    obtain ⟨⟨j, held⟩, hmem⟩ := h.sound.held hqueue
    have hentry := Lock.mem_entries_of_holders hmem
    have hj := List.getElem?_eq_getElem (h.members _ hentry)
    obtain ⟨other, hother, hplaced⟩ := h.place hj
    refine ⟨j, _, hj, hplaced.free ?_ (Lock.isHeldBy_iff.mpr ⟨held, hmem⟩)⟩
    rintro rfl
    exact hother held hentry

/-- Nobody comes any more, and everyone has its turn again and again, for as long as it takes. In
between, callers may be dropped. -/
structure Fair (world : World σ) (run : Nat → Crowd σ ChassisSession Answer) : Prop where
  step : ∀ n, Crowd.Step world (fun _ => False) (fun stance => stance.inHand? = none)
    (run n) (run (n + 1))
  turns : ∀ i n, i < (run 0).members.length → ∃ m, n ≤ m ∧ run (m + 1) = (run m).act world none i

/-- One after the other, round after round. -/
def rounds (world : World σ) (c : Crowd σ ChassisSession Answer) :
    Nat → Crowd σ ChassisSession Answer
  | 0 => c
  | n + 1 => (rounds world c n).act world none (n % c.members.length)

theorem fair_rounds (world : World σ) (c : Crowd σ ChassisSession Answer) :
    Fair world (rounds world c) where
  step n := .act _ none
  turns i n hi := by
    have hi : i < c.members.length := hi
    refine ⟨n * c.members.length + i, ?_, ?_⟩
    · exact Nat.le_add_right_of_le (Nat.le_mul_of_pos_right n (by omega))
    · rw [rounds, Nat.mul_add_mod', Nat.mod_eq_of_lt hi]

theorem step_closing
    (h : Crowd.Step world (fun _ => False) (fun stance => stance.inHand? = none) c d) :
    Crowd.Step world (Request e Looks) (fun stance => stance.inHand? = none) c d := by
  cases h with
  | come task ht => exact ht.elim
  | act i limit => exact .act i limit
  | leave i stance hi hl => exact .leave i stance hi hl
  | pass due => exact .pass due

theorem length_of_step {MayLeave : Stance ChassisSession Answer → Prop}
    (h : Crowd.Step world (fun _ => False) MayLeave c d) : d.members.length = c.members.length := by
  cases h with
  | come task ht => exact ht.elim
  | act i limit => exact Crowd.length_act world limit c i
  | leave i stance hi hl => exact Crowd.length_leave c i
  | pass due => rfl

theorem linked_tale (h : Tale e Looks world scene deeds c) : c.Linked (· = Chassis.connect e) :=
  h.linked fun _ ht => ht.fresh

theorem exists_within (h : Tale e Looks world scene deeds c)
    (hQ : ∀ lookup, Looks lookup → lookup.Only Q) : ∃ n, c.Within n := by
  have hstep : ∀ {deeds c d}, Tale e Looks world scene deeds c → (∃ n, c.Within n) →
      Crowd.Step world (fun _ => False) (fun _ => True) c d → ∃ n, d.Within n := by
    rintro deeds c d h ⟨n, hn⟩ hs
    rcases nearer_of_step (placed_tale hQ h) (linked_tale h) hn hs with ⟨m, -, hm⟩ | ⟨hn, -⟩
    · exact ⟨m, hm⟩
    · exact ⟨n, hn⟩
  induction h with
  | start => exact ⟨0, fun _ => 0, fun hi => by simp at hi, by simp⟩
  | @come deeds c h task ht ih =>
    obtain ⟨n, budget, hb, -⟩ := ih
    refine ⟨_, fun i => if i < c.members.length then budget i else 14, fun {i stance} hi => ?_,
      Nat.le_refl _⟩
    rcases Crowd.members_come hi with ⟨rfl, rfl⟩ | hi
    · have hnew : (Stance.ready task).Within 14 := ht.within
      simpa only [if_neg (Nat.lt_irrefl _)] using hnew
    · simpa only [if_pos (List.getElem?_eq_some_iff.mp hi).1] using hb hi
  | act h limit hi _ ih => exact hstep h ih (.act _ limit)
  | leave h hi _ ih => exact hstep h ih (.leave _ _ hi trivial)
  | pass h due ih => exact hstep h ih (.pass due)

namespace Fair

variable {run : Nat → Crowd σ ChassisSession Answer}

theorem further (hr : Fair world run) (e : Endpoint)
    (Looks : Job (Except DriverError Slot) → Prop) (n : Nat) :
    ∃ more, Further e Looks world (run 0) more (run n) := by
  refine Crowd.exists_chronicle ?_
  induction n with
  | zero => exact .refl
  | succ n ih => exact ih.tail (step_closing (hr.step n))

theorem tale (hr : Fair world run) (h : Tale e Looks world scene deeds (run 0)) (n : Nat) :
    ∃ deeds, Tale e Looks world scene deeds (run n) := by
  obtain ⟨more, hmore⟩ := hr.further e Looks n
  exact ⟨_, h.append hmore⟩

theorem length (hr : Fair world run) (n : Nat) :
    (run n).members.length = (run 0).members.length := by
  induction n with
  | zero => rfl
  | succ n ih => rw [length_of_step (hr.step n), ih]

/-- When it is the turn of a member who is free, all are nearer to their end, if not before. -/
theorem nearer (hr : Fair world run) (h : Tale e Looks world scene deeds (run 0))
    (hQ : ∀ lookup, Looks lookup → lookup.Only Q) {k : Nat} {i m : Nat}
    (hturn : run (m + 1) = (run m).act world none i) (t : Nat) (htm : t ≤ m)
    (hk : (run t).Within k) (hf : (run t).Free i) : ∃ u, ∃ n < k, (run u).Within n := by
  obtain ⟨span, rfl⟩ := Nat.exists_eq_add_of_le htm
  clear htm
  induction span generalizing t with
  | zero =>
    obtain ⟨told, htold⟩ := hr.tale h t
    rw [Nat.add_zero] at hturn
    refine ⟨t + 1, ?_⟩
    rw [hturn]
    exact nearer_of_turn (linked_tale htold) hk hf
  | succ span ih =>
    obtain ⟨told, htold⟩ := hr.tale h t
    rcases nearer_of_step (placed_tale hQ htold) (linked_tale htold) hk (hr.step t) with
      ⟨n, hn, hwithin⟩ | ⟨hwithin, hfree⟩
    · exact ⟨t + 1, n, hn, hwithin⟩
    · rw [Nat.add_comm span 1, ← Nat.add_assoc] at hturn
      exact ih (t + 1) hwithin (hfree i hf) hturn

/-- All come to their end. -/
theorem ends (hr : Fair world run) (h : Tale e Looks world scene deeds (run 0))
    (hQ : ∀ lookup, Looks lookup → lookup.Only Q) :
    ∃ n, ∀ stance ∈ (run n).members, stance.IsOver := by
  obtain ⟨k, hk⟩ := exists_within h hQ
  have hends : ∀ k t, (run t).Within k → ∃ n, ∀ stance ∈ (run n).members, stance.IsOver := by
    intro k
    induction k using Nat.strong_induction_on with
    | _ k ih =>
      intro t hk
      by_cases hover : ∀ stance ∈ (run t).members, stance.IsOver
      · exact ⟨t, hover⟩
      · push Not at hover
        obtain ⟨stance, hmem, hnot⟩ := hover
        obtain ⟨i, hi⟩ := List.mem_iff_getElem?.mp hmem
        obtain ⟨told, htold⟩ := hr.tale h t
        obtain ⟨j, hfree⟩ := (placed_tale hQ htold).exists_free hi hnot
        have hj : j < (run 0).members.length := by
          obtain ⟨other, hother, -⟩ := hfree
          rw [← hr.length t]
          exact (List.getElem?_eq_some_iff.mp hother).1
        obtain ⟨m, htm, hturn⟩ := hr.turns j t hj
        obtain ⟨u, n, hn, hwithin⟩ := hr.nearer h hQ hturn t htm hk hfree
        exact ih n hn u hwithin
  exact hends k 0 hk

end Fair

end Chassis

end Outband
