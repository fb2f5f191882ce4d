import Outband.Proofs.Seekers
/-! What is looked up of a chassis is looked up by one caller at a time, and found once. -/

namespace Outband

namespace Chassis

section Places

variable {Q : Call → Prop} {Did : Deed ChassisSession Answer → Prop} {serial : String}
  {slots : List (String × Slot)} {footing : Footing} {stance : Stance ChassisSession Answer}

theorem conclude_injective {other : String} (h : conclude serial = conclude other) :
    serial = other := by
  have herror := congrFun h (.error .notActive)
  simp only [conclude, Task.unlock.injEq, Task.done.injEq, Answer.slot.injEq] at herror
  exact herror.1

/-- Who looks something up has the lock for itself, and looks up what is not known. -/
theorem Place.of_seeks (h : Place Q Did slots footing stance) (hs : Seeks serial stance) :
    footing = .holding .exclusive ∧ slots.lookup serial = none ∧
      ∃ job, Lookup Q serial job ∧ stance = .ready (.work job (conclude serial)) := by
  obtain ⟨job, rfl⟩ := hs
  generalize hnext : conclude serial = next at h
  cases h with
  | resolving h =>
    cases h with
    | looking hl hnone =>
      obtain rfl := conclude_injective hnext
      exact ⟨rfl, hnone, job, hl, rfl⟩
  | looking hg => cases hg
  | outside ho =>
    cases ho with
    | serving he =>
      cases he with
      | work hjob hdone =>
        obtain ⟨answer, hanswer, -⟩ := hdone (.error .notActive)
        rw [← hnext] at hanswer
        cases hanswer

/-- Who makes an entry has the lock for itself, and enters what was not known. -/
theorem Place.of_entry (h : Place Q Did slots footing stance) {slot : Slot}
    (he : stance.inHand? = some (serial, slot)) :
    footing = .holding .exclusive ∧ slots.lookup serial = none := by
  cases h with
  | resolving h =>
    cases h with
    | found slot hnone =>
      cases he
      exact ⟨rfl, hnone⟩
    | _ => cases he
  | looking hg => cases hg <;> cases he
  | outside ho =>
    cases ho with
    | serving hr => cases hr <;> cases he
    | _ => cases he
  | _ => cases he

theorem Place.entry_none (h : Place Q Did slots .away stance) : stance.inHand? = none := by
  cases he : stance.inHand? with
  | none => rfl
  | some entry => cases (h.of_entry he).1

variable {c : Connection σ ChassisSession} (world : World σ) (owner : Nat) (limit : Limit)

/-- An entry is in hand only after a lookup. -/
theorem Place.seeks_of_entry (h : Place Q Did slots footing stance) {slot : Slot}
    (he : (stance.act world owner limit c).1.inHand? = some (serial, slot)) :
    Seeks serial stance := by
  cases h with
  | resolving h =>
    cases h with
    | asking hl | queued hl | returning hl | waiting hl =>
      simp only [Stance.act] at he
      split at he <;> cases he
    | checking hl | rechecking hl =>
      simp only [Stance.act] at he
      generalize c.inventory.slot? _ = found at he
      cases found <;> cases he
    | @looking lookup hl hnone =>
      simp only [Stance.act] at he
      generalize lookup.carry world limit c.scene = carried at he
      obtain ⟨job, s⟩ := carried
      cases job with
      | done outcome =>
        cases outcome with
        | ok found =>
          cases he
          exact ⟨lookup, rfl⟩
        | error err => cases he
      | _ => cases he
    | _ => cases he
  | asking hg | waiting hg =>
    simp only [Stance.act] at he
    split at he <;> cases hg <;> cases he
  | looking hg => cases hg <;> cases he
  | outside ho =>
    have hnot : ∀ {stance}, Place Q Did slots .away stance →
        stance.inHand? ≠ some (serial, slot) := by
      intro stance h
      rw [h.entry_none]
      simp
    cases ho with
    | entering hs =>
      simp only [Stance.act] at he
      cases hphase : c.link.phase with
      | connected session =>
        rw [hphase] at he
        exact absurd he (hnot (.opened hs session))
      | _ =>
        rw [hphase] at he
        cases he
    | @joining number next hs =>
      simp only [Stance.act] at he
      generalize c.advance world limit number = found at he
      obtain ⟨finding, d⟩ := found
      cases finding <;> cases he
    | @settling number outcome next hs =>
      cases outcome with
      | ok session => exact absurd he (hnot (.opened hs session))
      | error err =>
        obtain ⟨answer, hanswer, -⟩ := hs.failed err
        simp only [Stance.act, hanswer] at he
        cases he
    | serving hr =>
      cases hr with
      | done ha => cases he
      | @work β job next hjob hnext =>
        simp only [Stance.act] at he
        generalize job.carry world limit c.scene = carried at he
        obtain ⟨job, s⟩ := carried
        cases job with
        | done value =>
          obtain ⟨answer, hanswer, -⟩ := hnext value
          simp only [hanswer] at he
          cases he
        | _ => cases he
    | releasing =>
      simp only [Stance.act, Link.detach] at he
      cases hphase : c.link.phase with
      | connected session =>
        rw [hphase] at he
        exact absurd he (hnot (.released (some session)))
      | _ =>
        rw [hphase] at he
        cases he
    | reclaiming number =>
      simp only [Stance.act] at he
      generalize c.advance world limit number = found at he
      obtain ⟨finding, d⟩ := found
      cases finding with
      | ended outcome => exact absurd he (hnot (.released outcome.toOption))
      | _ => cases he
    | _ => cases he

end Places

section Requests

variable {e : Endpoint} {Looks : Job (Except DriverError Slot) → Prop} {task : Caller}
  {Q : Call → Prop} {Did : Deed ChassisSession Answer → Prop} {slots : List (String × Slot)}

theorem close_eq :
    (Chassis.close.bind fun r => .done (.closed r) : Caller) = .detach release := by
  refine congrArg Task.detach (funext fun session => ?_)
  cases session <;> rfl

theorem Request.place (h : Request e Looks task)
    (hQ : ∀ lookup, Looks lookup → lookup.Only Q) : Place Q Did slots .away (.ready task) := by
  cases h with
  | connect =>
    exact .outside (.entering ⟨fun err => ⟨_, rfl, rfl⟩, fun session => Or.inl (.done trivial)⟩)
  | operate op =>
    refine .outside (.entering ⟨fun err => ⟨_, rfl, rfl⟩, fun session => Or.inl ?_⟩)
    exact .work ⟨rfl, fun _ => trivial⟩ fun _ => ⟨_, rfl, trivial⟩
  | operateBlade op slot =>
    refine .outside (.entering ⟨fun err => ⟨_, rfl, rfl⟩, fun session => Or.inl ?_⟩)
    exact .work ⟨rfl, fun _ => trivial⟩ fun _ => ⟨_, rfl, trivial⟩
  | find serial =>
    refine .outside (.entering ⟨fun err => ⟨_, rfl, rfl⟩, fun session => Or.inr ?_⟩)
    exact ⟨serial, _, .call session, rfl⟩
  | resolve serial hl =>
    rw [resolving_eq]
    exact .resolving (.asking (.other (hQ _ hl)))
  | known serial => exact .asking (.known serial)
  | size => exact .asking .size
  | close =>
    rw [close_eq]
    exact .outside .releasing

theorem Request.entry_none (h : Request e Looks task) : (Stance.ready task).inHand? = none := by
  cases h <;> rfl

theorem resolving_fresh (serial : String) (lookup : Job (Except DriverError Slot))
    (P : Job (Except DriverError ChassisSession) → Prop) : (resolving serial lookup).Fresh P := by
  rw [resolving_eq]
  intro found
  cases found with
  | some slot => trivial
  | none =>
    intro found
    cases found with
    | some slot => trivial
    | none =>
      intro outcome
      cases outcome <;> trivial

theorem Request.fresh (h : Request e Looks task) : task.Fresh (· = Chassis.connect e) := by
  cases h with
  | connect => exact ⟨rfl, fun _ => trivial⟩
  | operate op =>
    refine ⟨rfl, fun outcome => ?_⟩
    cases outcome <;> simp [Task.bind, Task.Fresh]
  | operateBlade op slot =>
    refine ⟨rfl, fun outcome => ?_⟩
    cases outcome <;> simp [Task.bind, Task.Fresh]
  | find serial =>
    refine ⟨rfl, fun outcome => ?_⟩
    cases outcome with
    | ok session => exact resolving_fresh serial _ _
    | error err => trivial
  | resolve serial hl => exact resolving_fresh serial _ _
  | known serial => exact fun _ => trivial
  | size => exact fun _ => trivial
  | close =>
    rw [close_eq]
    intro session
    cases session with
    | none => trivial
    | some session => exact fun _ => trivial

end Requests

/-- The steps of one caller. -/
def Own (deeds : List (Deed H α)) (i : Nat) (deed : Deed H α) : Prop :=
  deed ∈ deeds ∧ deed.owner = i

theorem Own.append {deeds : List (Deed H α)} {i : Nat} {deed : Deed H α} (h : Own deeds i deed)
    (more : List (Deed H α)) : Own (deeds ++ more) i deed :=
  ⟨List.mem_append_left _ h.1, h.2⟩

theorem own_last (deeds : List (Deed H α)) (deed : Deed H α) :
    Own (deeds ++ [deed]) deed.owner deed :=
  ⟨by simp, rfl⟩

/-- Every caller stands where it may, and the lock has it down so. -/
structure Placed (Q : Call → Prop) (deeds : List (Deed ChassisSession Answer))
    (c : Crowd σ ChassisSession Answer) : Prop where
  sound : c.inventory.lock.Sound
  place : ∀ {i stance}, c.members[i]? = some stance → ∃ footing : Footing,
    footing.Agrees c.inventory.lock i ∧ Place Q (Own deeds i) c.inventory.slots footing stance
  members : ∀ entry ∈ c.inventory.lock.entries, entry.1 < c.members.length

section Placing

variable {e : Endpoint} {Looks : Job (Except DriverError Slot) → Prop} {Q : Call → Prop}
  {world : World σ} {scene : Scene σ} {c d : Crowd σ ChassisSession Answer}
  {deeds more : List (Deed ChassisSession Answer)} {i j : Nat}
  {stance other : Stance ChassisSession Answer}

theorem placed_initial (scene : Scene σ) :
    Placed Q [] ({ shared := { scene := scene } } : Crowd σ ChassisSession Answer) where
  sound := Lock.sound_empty
  place h := by simp at h
  members _ h := by simp [Lock.entries] at h

theorem placed_come (h : Placed Q deeds c) {task : Caller}
    (hp : ∀ {Did slots}, Place Q Did slots .away (.ready task)) : Placed Q deeds (c.come task) where
  sound := h.sound
  place {j other} hj := by
    rcases Crowd.members_come hj with ⟨rfl, rfl⟩ | hj
    · refine ⟨.away, fun access hmem => ?_, hp⟩
      exact Nat.lt_irrefl _ (h.members _ hmem)
    · exact h.place hj
  members entry hmem := by
    simp only [Crowd.come, List.length_append, List.length_singleton]
    exact Nat.lt_succ_of_lt (h.members entry hmem)

/-- While a caller makes an entry, no other has the lock for itself. -/
theorem Placed.apart (h : Placed Q deeds c) (hi : c.members[i]? = some stance) (hne : j ≠ i)
    {footing : Footing} (hj : footing.Agrees c.inventory.lock j) :
    stance.inHand?.toList = [] ∨ footing ≠ .holding .exclusive := by
  cases he : stance.inHand? with
  | none => exact Or.inl rfl
  | some entry =>
    obtain ⟨own, hagrees, hplace⟩ := h.place hi
    obtain ⟨rfl, -⟩ := hplace.of_entry he
    refine Or.inr ?_
    rintro rfl
    cases h.sound.alone hagrees hj
    exact hne rfl

theorem inventory_act (limit : Limit) (hi : c.members[i]? = some stance) :
    (c.act world limit i).inventory = (stance.act world i limit c.shared).2.inventory := by
  rw [Crowd.inventory, Crowd.act_of_member limit hi]

theorem slots_act (limit : Limit) (hi : c.members[i]? = some stance) :
    (c.act world limit i).inventory.slots = c.inventory.slots ++ stance.inHand?.toList := by
  rw [inventory_act limit hi, Stance.act_slots]

theorem placed_act (h : Placed Q deeds c) (limit : Limit) (hi : c.members[i]? = some stance)
    (events : List Event) :
    Placed Q (deeds ++ [⟨i, stance, (stance.act world i limit c.shared).1, events⟩])
      (c.act world limit i) := by
  obtain ⟨footing, hagrees, hplace⟩ := h.place hi
  have harrives : Arrives
      (Place Q (Own (deeds ++ [⟨i, stance, (stance.act world i limit c.shared).1, events⟩]) i))
      c.inventory.lock i (stance.act world i limit c.shared) :=
    hplace.act h.sound hagrees (fun _ hown => hown.append _) ⟨events, own_last deeds _⟩
  obtain ⟨hmoves, after, hafter, hplaced⟩ := harrives
  rw [← inventory_act limit hi] at hmoves hafter hplaced
  refine ⟨hmoves.sound h.sound, fun {j other} hj => ?_, fun entry hmem => ?_⟩
  · rcases Crowd.members_of_act limit hi hj with ⟨rfl, rfl⟩ | ⟨hji, hj⟩
    · exact ⟨after, hafter, hplaced⟩
    · obtain ⟨footing, hagrees, hplace⟩ := h.place hj
      refine ⟨footing, hagrees.moves hmoves hji, ?_⟩
      rw [slots_act limit hi]
      exact hplace.grows (fun _ hown => hown.append _) (h.apart hi hji hagrees)
  · rw [Crowd.length_act]
    by_cases hentry : entry.1 = i
    · rw [hentry]
      exact (List.getElem?_eq_some_iff.mp hi).1
    · exact h.members entry ((hmoves.entries_iff hentry).mp hmem)

theorem placed_leave (h : Placed Q deeds c) (i : Nat) : Placed Q deeds (c.leave i) where
  sound := h.sound.leave i
  place {j other} hj := by
    rcases Crowd.members_leave hj with ⟨rfl, rfl⟩ | ⟨hne, hj⟩
    · exact ⟨.away, Footing.away_of_leave _ _, .outside .gone⟩
    · obtain ⟨footing, hagrees, hplace⟩ := h.place hj
      exact ⟨footing, hagrees.moves .leave hne, hplace⟩
  members entry hmem := by
    rw [Crowd.length_leave]
    exact h.members entry (Lock.mem_entries_leave.mp hmem).1

/-- What is told of callers from here on. They may be dropped at any point but one: a caller whose
lookup has ended enters what it found without waiting for anything. -/
abbrev Further (e : Endpoint) (Looks : Job (Except DriverError Slot) → Prop) (world : World σ) :
    Crowd σ ChassisSession Answer → List (Deed ChassisSession Answer) →
      Crowd σ ChassisSession Answer → Prop :=
  Crowd.Chronicle world (Request e Looks) fun stance => stance.inHand? = none

/-- What is told of callers from a fresh connection on. -/
abbrev Tale (e : Endpoint) (Looks : Job (Except DriverError Slot) → Prop) (world : World σ)
    (scene : Scene σ) (deeds : List (Deed ChassisSession Answer))
    (c : Crowd σ ChassisSession Answer) : Prop :=
  Further e Looks world { shared := { scene := scene } } deeds c

theorem placed_tale (hQ : ∀ lookup, Looks lookup → lookup.Only Q)
    (h : Tale e Looks world scene deeds c) : Placed Q deeds c := by
  induction h with
  | start => exact placed_initial scene
  | come _ task ht ih => exact placed_come ih (ht.place hQ)
  | act _ limit hi _ ih => exact placed_act ih limit hi _
  | leave _ hi _ ih => exact placed_leave ih _
  | pass _ due ih => exact ⟨ih.sound, ih.place, ih.members⟩

/-- A caller is in the middle of a lookup, or has yet to enter what it found. -/
def Busy (stance : Stance ChassisSession Answer) : Prop :=
  (∃ serial, Seeks serial stance) ∨ ∃ entry, stance.inHand? = some entry

theorem Place.of_busy {Did : Deed ChassisSession Answer → Prop} {slots : List (String × Slot)}
    {footing : Footing} (h : Place Q Did slots footing stance) (hb : Busy stance) :
    footing = .holding .exclusive := by
  rcases hb with ⟨serial, hs⟩ | ⟨entry, he⟩
  · exact (h.of_seeks hs).1
  · exact (h.of_entry he).1

theorem Placed.alone (h : Placed Q deeds c) (hi : c.members[i]? = some stance)
    (hj : c.members[j]? = some other) (hb : Busy stance) (hbusy : Busy other) : i = j := by
  obtain ⟨footing, hagrees, hplace⟩ := h.place hi
  obtain ⟨footing', hagrees', hplace'⟩ := h.place hj
  obtain rfl := hplace.of_busy hb
  obtain rfl := hplace'.of_busy hbusy
  cases h.sound.alone hagrees hagrees'
  rfl

theorem Seeks.entry_none {serial : String} (h : Seeks serial stance) : stance.inHand? = none := by
  obtain ⟨job, rfl⟩ := h
  rfl

/-- What lookups found, in order. -/
def findings (deeds : List (Deed ChassisSession Answer)) : List (String × Slot) :=
  deeds.filterMap (·.after.inHand?)

theorem findings_append (deeds : List (Deed ChassisSession Answer))
    (deed : Deed ChassisSession Answer) :
    findings (deeds ++ [deed]) = findings deeds ++ deed.after.inHand?.toList := by
  rw [findings, List.filterMap_append]
  cases h : deed.after.inHand? <;> simp [findings, h]

/-- A caller is about to make this entry. -/
def Enters (c : Crowd σ ChassisSession Answer) (entry : String × Slot) : Prop :=
  ∃ (i : Nat) (stance : Stance ChassisSession Answer),
    c.members[i]? = some stance ∧ stance.inHand? = some entry

/-- What was found is what is known, but for the entry that a caller has yet to make. Nothing was
found twice. -/
structure Booked (deeds : List (Deed ChassisSession Answer)) (c : Crowd σ ChassisSession Answer) :
    Prop where
  sought : ∀ deed ∈ deeds, ∀ entry, deed.after.inHand? = some entry → Seeks entry.1 deed.before
  once : ((findings deeds).map (·.1)).Nodup
  pending : ∃ pending : Option (String × Slot),
    findings deeds = c.inventory.slots ++ pending.toList ∧
      ∀ entry, pending = some entry ↔ Enters c entry

theorem booked_initial (scene : Scene σ) :
    Booked [] ({ shared := { scene := scene } } : Crowd σ ChassisSession Answer) where
  sought _ h := by simp at h
  once := List.nodup_nil
  pending := ⟨none, rfl, fun entry => by simp [Enters]⟩

theorem Booked.congr (h : Booked deeds c) (hslots : d.inventory.slots = c.inventory.slots)
    (henters : ∀ entry, Enters d entry ↔ Enters c entry) : Booked deeds d where
  sought := h.sought
  once := h.once
  pending := by
    obtain ⟨pending, hfound, hpending⟩ := h.pending
    refine ⟨pending, by rw [hslots, hfound], fun entry => ?_⟩
    rw [hpending, henters]

theorem booked_come (h : Booked deeds c) {task : Caller}
    (hnone : (Stance.ready task).inHand? = none) : Booked deeds (c.come task) := by
  refine h.congr rfl fun entry => ⟨?_, ?_⟩
  · rintro ⟨j, other, hj, he⟩
    rcases Crowd.members_come hj with ⟨-, rfl⟩ | hj
    · rw [hnone] at he
      cases he
    · exact ⟨j, other, hj, he⟩
  · rintro ⟨j, other, hj, he⟩
    obtain ⟨hlt, -⟩ := List.getElem?_eq_some_iff.mp hj
    exact ⟨j, other, by rwa [Crowd.come, List.getElem?_append_left hlt], he⟩

theorem booked_leave (h : Booked deeds c) (hi : c.members[i]? = some stance)
    (hnone : stance.inHand? = none) : Booked deeds (c.leave i) := by
  refine h.congr rfl fun entry => ⟨?_, ?_⟩
  · rintro ⟨j, other, hj, he⟩
    rcases Crowd.members_leave hj with ⟨-, rfl⟩ | ⟨-, hj⟩
    · cases he
    · exact ⟨j, other, hj, he⟩
  · rintro ⟨j, other, hj, he⟩
    refine ⟨j, other, ?_, he⟩
    rw [Crowd.leave, List.getElem?_set_ne, hj]
    rintro rfl
    rw [hi] at hj
    cases hj
    rw [hnone] at he
    cases he

/-- Which entries are still to be made after a step: that of the caller who took it, and those of
the others. -/
theorem enters_act (limit : Limit) (hi : c.members[i]? = some stance) (entry : String × Slot) :
    Enters (c.act world limit i) entry ↔
      (stance.act world i limit c.shared).1.inHand? = some entry ∨
        ∃ j other, j ≠ i ∧ c.members[j]? = some other ∧ other.inHand? = some entry := by
  constructor
  · rintro ⟨j, other, hj, he⟩
    rcases Crowd.members_of_act limit hi hj with ⟨-, rfl⟩ | ⟨hji, hj⟩
    · exact Or.inl he
    · exact Or.inr ⟨j, other, hji, hj, he⟩
  · rintro (he | ⟨j, other, hji, hj, he⟩)
    · exact ⟨i, _, Crowd.members_act world limit hi, he⟩
    · exact ⟨j, other, by rwa [Crowd.members_act_other limit hji], he⟩

section Act

variable {limit : Limit} {entry : String × Slot} {events : List Event}

/-- Nobody else has an entry in hand while a caller is busy. -/
theorem Placed.only (hp : Placed Q deeds c) (hi : c.members[i]? = some stance) (hb : Busy stance)
    (entry : String × Slot) :
    ¬ ∃ j other, j ≠ i ∧ c.members[j]? = some other ∧ other.inHand? = some entry := by
  rintro ⟨j, other, hji, hj, he⟩
  exact hji (hp.alone hj hi (Or.inr ⟨entry, he⟩) hb)

theorem Placed.seeks (hp : Placed Q deeds c) (hi : c.members[i]? = some stance)
    (he : (stance.act world i limit c.shared).1.inHand? = some entry) : Seeks entry.1 stance := by
  obtain ⟨footing, -, hplace⟩ := hp.place hi
  exact hplace.seeks_of_entry world i limit he

theorem Booked.sought_append (h : Booked deeds c) (hp : Placed Q deeds c)
    (hi : c.members[i]? = some stance) :
    ∀ deed ∈ deeds ++ [⟨i, stance, (stance.act world i limit c.shared).1, events⟩],
      ∀ entry, deed.after.inHand? = some entry → Seeks entry.1 deed.before := by
  intro deed hmem entry he
  rcases List.mem_append.mp hmem with hmem | hmem
  · exact h.sought deed hmem entry he
  · rw [List.mem_singleton.mp hmem] at he ⊢
    exact hp.seeks hi he

/-- The caller enters what it found, and has nothing more in hand. -/
theorem booked_entered (h : Booked deeds c) (hp : Placed Q deeds c)
    (hi : c.members[i]? = some stance) (hbefore : stance.inHand? = some entry) :
    Booked (deeds ++ [⟨i, stance, (stance.act world i limit c.shared).1, events⟩])
      (c.act world limit i) := by
  have hafter : (stance.act world i limit c.shared).1.inHand? = none := by
    cases hafter : (stance.act world i limit c.shared).1.inHand? with
    | none => rfl
    | some other =>
      rw [(hp.seeks hi hafter).entry_none] at hbefore
      cases hbefore
  obtain ⟨pending, hfound, hpending⟩ := h.pending
  obtain rfl : pending = some entry := (hpending entry).mpr ⟨i, stance, hi, hbefore⟩
  have hsame : findings (deeds ++ [⟨i, stance, (stance.act world i limit c.shared).1, events⟩]) =
      findings deeds := by simp [findings_append, hafter]
  refine ⟨h.sought_append hp hi, by rw [hsame]; exact h.once, none, ?_, fun other => ?_⟩
  · rw [hsame, slots_act limit hi, hfound, hbefore]
    simp
  · rw [enters_act limit hi, hafter]
    simpa using hp.only hi (Or.inr ⟨entry, hbefore⟩) other

/-- While a lookup is on, everything that was found is known. -/
theorem Booked.settled (h : Booked deeds c) (hp : Placed Q deeds c)
    (hi : c.members[i]? = some stance) {serial : String} (hs : Seeks serial stance) :
    findings deeds = c.inventory.slots := by
  obtain ⟨pending, hfound, hpending⟩ := h.pending
  cases pending with
  | none => rw [hfound, Option.toList_none, List.append_nil]
  | some entry =>
    obtain ⟨j, other, hj, he⟩ := (hpending entry).mp rfl
    refine absurd ⟨j, other, ?_, hj, he⟩ (hp.only hi (Or.inl ⟨_, hs⟩) entry)
    rintro rfl
    rw [hi] at hj
    cases hj
    rw [hs.entry_none] at he
    cases he

/-- What is being looked up has not been found before. -/
theorem Booked.unfound (h : Booked deeds c) (hp : Placed Q deeds c)
    (hi : c.members[i]? = some stance) {serial : String} (hs : Seeks serial stance) :
    serial ∉ (findings deeds).map (·.1) := by
  rw [h.settled hp hi hs]
  obtain ⟨footing, -, hplace⟩ := hp.place hi
  have hmissing := List.lookup_eq_none_iff.mp (hplace.of_seeks hs).2.1
  intro hmem
  obtain ⟨known, hknown, rfl⟩ := List.mem_map.mp hmem
  simpa using hmissing known hknown

/-- The caller has found what nobody had found. -/
theorem booked_found (h : Booked deeds c) (hp : Placed Q deeds c)
    (hi : c.members[i]? = some stance)
    (hafter : (stance.act world i limit c.shared).1.inHand? = some entry) :
    Booked (deeds ++ [⟨i, stance, (stance.act world i limit c.shared).1, events⟩])
      (c.act world limit i) := by
  have hseeks := hp.seeks hi hafter
  have hnew : findings (deeds ++ [⟨i, stance, (stance.act world i limit c.shared).1, events⟩]) =
      findings deeds ++ [entry] := by simp [findings_append, hafter]
  refine ⟨h.sought_append hp hi, ?_, some entry, ?_, fun other => ?_⟩
  · rw [hnew, List.map_append, List.nodup_append]
    refine ⟨h.once, by simp, fun serial hmem last hlast => ?_⟩
    obtain rfl : last = entry.1 := by simpa using hlast
    rintro rfl
    exact h.unfound hp hi hseeks hmem
  · rw [hnew, slots_act limit hi, h.settled hp hi hseeks, hseeks.entry_none]
    simp
  · rw [enters_act limit hi, hafter]
    exact (or_iff_left (hp.only hi (Or.inl ⟨_, hseeks⟩) other)).symm

theorem booked_act (h : Booked deeds c) (hp : Placed Q deeds c) (limit : Limit)
    (hi : c.members[i]? = some stance) (events : List Event) :
    Booked (deeds ++ [⟨i, stance, (stance.act world i limit c.shared).1, events⟩])
      (c.act world limit i) := by
  cases hbefore : stance.inHand? with
  | some entry => exact booked_entered h hp hi hbefore
  | none =>
    cases hafter : (stance.act world i limit c.shared).1.inHand? with
    | some entry => exact booked_found h hp hi hafter
    | none =>
      have hsame : findings
          (deeds ++ [⟨i, stance, (stance.act world i limit c.shared).1, events⟩]) =
            findings deeds := by simp [findings_append, hafter]
      obtain ⟨pending, hfound, hpending⟩ := h.pending
      refine ⟨h.sought_append hp hi, by rw [hsame]; exact h.once, pending, ?_, fun entry => ?_⟩
      · rw [hsame, slots_act limit hi, hfound, hbefore]
        simp
      · rw [hpending, enters_act limit hi, hafter]
        constructor
        · rintro ⟨j, other, hj, he⟩
          refine Or.inr ⟨j, other, ?_, hj, he⟩
          rintro rfl
          rw [hi] at hj
          cases hj
          rw [hbefore] at he
          cases he
        · rintro (he | ⟨j, other, -, hj, he⟩)
          · cases he
          · exact ⟨j, other, hj, he⟩

end Act

theorem booked_tale (h : Tale e Looks world scene deeds c)
    (hQ : ∀ lookup, Looks lookup → lookup.Only Q) : Booked deeds c := by
  induction h with
  | start => exact booked_initial scene
  | come h task ht ih => exact booked_come ih ht.entry_none
  | act h limit hi _ ih => exact booked_act ih (placed_tale hQ h) limit hi _
  | leave _ hi hl ih => exact booked_leave ih hi hl
  | pass _ due ih => exact ih.congr rfl fun _ => Iff.rfl

end Placing

end Chassis

end Outband
