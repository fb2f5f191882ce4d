import Outband.Proofs.Interleaving
import Mathlib.Data.List.Nodup
/-! The lock of the inventory: who has it, who waits for it, and what a step does to both. -/

namespace Outband

namespace Lock

/-- Everyone who has the lock or waits for it. -/
def entries (l : Lock) : List (Nat × Access) := l.holders ++ l.queue

/-- Nobody but readers shares the lock, and who waits first could not be let in. -/
structure Sound (l : Lock) : Prop where
  apart : ∀ entry ∈ l.holders, entry.2 = .exclusive → l.holders = [entry]
  waits : ∀ entry ∈ l.queue.head?, admits l.holders entry.2 = false
  nodup : (l.entries.map (·.1)).Nodup

theorem sound_empty : Sound {} where
  apart _ h := by simp at h
  waits _ h := by simp at h
  nodup := List.nodup_nil

variable {l m : Lock} {holders queue : List (Nat × Access)} {owner : Nat} {access : Access}
  {entry : Nat × Access}

@[simp] theorem entries_promote (holders queue : List (Nat × Access)) :
    (promote holders queue).entries = holders ++ queue := by
  induction queue generalizing holders with
  | nil => rfl
  | cons entry rest ih =>
    simp only [promote]
    split
    · rw [ih, List.append_assoc, List.singleton_append]
    · rfl

theorem holders_promote (holders queue : List (Nat × Access)) :
    holders <+: (promote holders queue).holders := by
  induction queue generalizing holders with
  | nil => exact List.prefix_rfl
  | cons entry rest ih =>
    simp only [promote]
    split
    · exact (List.prefix_append holders _).trans (ih _)
    · exact List.prefix_rfl

/-- Whoever is admitted does not break in on a writer. -/
theorem apart_of_admits (h : ∀ entry ∈ holders, entry.2 = .exclusive → holders = [entry])
    (hadmits : admits holders access) :
    ∀ entry ∈ holders ++ [(owner, access)], entry.2 = .exclusive →
      holders ++ [(owner, access)] = [entry] := by
  intro entry hmem hexclusive
  cases access with
  | shared =>
    simp only [admits, List.all_eq_true, beq_iff_eq] at hadmits
    rcases List.mem_append.mp hmem with hmem | hmem
    · rw [hadmits entry hmem] at hexclusive
      cases hexclusive
    · rw [List.mem_singleton.mp hmem] at hexclusive
      cases hexclusive
  | exclusive =>
    obtain rfl : holders = [] := List.isEmpty_iff.mp hadmits
    rw [List.mem_singleton.mp hmem, List.nil_append]

theorem sound_promote (h : ∀ entry ∈ holders, entry.2 = .exclusive → holders = [entry])
    (hnodup : ((holders ++ queue).map (·.1)).Nodup) : (promote holders queue).Sound := by
  induction queue generalizing holders with
  | nil => exact ⟨h, by simp [promote], by simpa [promote, entries] using hnodup⟩
  | cons entry rest ih =>
    obtain ⟨owner, access⟩ := entry
    simp only [promote]
    split
    · next hadmits =>
      exact ih (apart_of_admits h hadmits) (by simpa using hnodup)
    · next hadmits =>
      refine ⟨h, fun first hfirst => ?_, hnodup⟩
      rw [List.head?_cons, Option.mem_some_iff] at hfirst
      rw [← hfirst]
      simpa using hadmits

theorem mem_entries_request :
    entry ∈ (l.request owner access).entries ↔ entry ∈ l.entries ∨ entry = (owner, access) := by
  rw [request, entries_promote, ← List.append_assoc, List.mem_append, List.mem_singleton, entries]

theorem mem_entries_leave :
    entry ∈ (l.leave owner).entries ↔ entry ∈ l.entries ∧ entry.1 ≠ owner := by
  rw [leave, entries_promote, ← List.filter_append, List.mem_filter, bne_iff_ne, entries]

theorem mem_holders_request (h : entry ∈ l.holders) : entry ∈ (l.request owner access).holders :=
  (holders_promote _ _).subset h

theorem mem_holders_leave (h : entry ∈ l.holders) (hne : entry.1 ≠ owner) :
    entry ∈ (l.leave owner).holders :=
  (holders_promote _ _).subset (List.mem_filter.mpr ⟨h, bne_iff_ne.mpr hne⟩)

theorem mem_entries_of_holders (h : entry ∈ l.holders) : entry ∈ l.entries :=
  List.mem_append_left _ h

theorem isHeldBy_iff : l.isHeldBy owner ↔ ∃ access, (owner, access) ∈ l.holders := by
  simp only [isHeldBy, List.any_eq_true, beq_iff_eq]
  constructor
  · rintro ⟨⟨other, access⟩, hmem, rfl⟩
    exact ⟨access, hmem⟩
  · rintro ⟨access, hmem⟩
    exact ⟨_, hmem, rfl⟩

namespace Sound

theorem request (h : l.Sound) (hnew : ∀ access, (owner, access) ∉ l.entries) (access : Access) :
    (l.request owner access).Sound := by
  refine sound_promote h.apart ?_
  rw [← List.append_assoc, List.map_append, List.nodup_append]
  refine ⟨h.nodup, by simp, fun other hother this hthis => ?_⟩
  obtain ⟨⟨other, held⟩, hmem, rfl⟩ := List.mem_map.mp hother
  obtain rfl : this = owner := by simpa using hthis
  rintro rfl
  exact hnew held hmem

theorem leave (h : l.Sound) (owner : Nat) : (l.leave owner).Sound := by
  refine sound_promote (fun entry hmem hexclusive => ?_) ?_
  · obtain ⟨hholds, hkept⟩ := List.mem_filter.mp hmem
    rw [h.apart entry hholds hexclusive]
    exact List.filter_cons_of_pos hkept
  · rw [← List.filter_append]
    exact h.nodup.sublist (List.filter_sublist.map _)

/-- A caller has one entry only. -/
theorem unique (h : l.Sound) {other : Access} (ha : (owner, access) ∈ l.entries)
    (hb : (owner, other) ∈ l.entries) : access = other := by
  have heq := List.inj_on_of_nodup_map h.nodup ha hb rfl
  cases heq
  rfl

theorem mem_holders (h : l.Sound) (he : (owner, access) ∈ l.entries) (hheld : l.isHeldBy owner) :
    (owner, access) ∈ l.holders := by
  obtain ⟨other, hmem⟩ := isHeldBy_iff.mp hheld
  rwa [h.unique he (mem_entries_of_holders hmem)]

/-- Two who have the lock, one of them alone, are one. -/
theorem alone (h : l.Sound) {other : Nat × Access} (he : (owner, .exclusive) ∈ l.holders)
    (ho : other ∈ l.holders) : other = (owner, .exclusive) := by
  rw [h.apart _ he rfl] at ho
  exact List.mem_singleton.mp ho

/-- As long as anyone waits, someone has the lock. -/
theorem held (h : l.Sound) (hq : entry ∈ l.queue) : ∃ holder, holder ∈ l.holders := by
  cases hqueue : l.queue with
  | nil => simp [hqueue] at hq
  | cons first rest =>
    cases hholders : l.holders with
    | nil =>
      have hfirst := h.waits first (by rw [hqueue]; rfl)
      rw [hholders] at hfirst
      cases hheld : first.2 <;> simp [hheld, admits] at hfirst
    | cons holder _ => exact ⟨holder, by simp⟩

end Sound

/-- What a caller may do to the lock with one step. -/
inductive Moves (l : Lock) (owner : Nat) : Lock → Prop
  | same : Moves l owner l
  | request (access : Access) (h : ∀ access, (owner, access) ∉ l.entries) :
    Moves l owner (l.request owner access)
  | leave : Moves l owner (l.leave owner)

namespace Moves

theorem sound (h : l.Moves owner m) (hs : l.Sound) : m.Sound := by
  cases h with
  | same => exact hs
  | request access hnew => exact hs.request hnew access
  | leave => exact hs.leave owner

theorem entries_iff (h : l.Moves owner m) (hne : entry.1 ≠ owner) :
    entry ∈ m.entries ↔ entry ∈ l.entries := by
  cases h with
  | same => exact Iff.rfl
  | request access hnew =>
    rw [mem_entries_request]
    refine or_iff_left ?_
    rintro rfl
    exact hne rfl
  | leave =>
    rw [mem_entries_leave]
    exact and_iff_left hne

theorem mem_holders (h : l.Moves owner m) (hne : entry.1 ≠ owner) (he : entry ∈ l.holders) :
    entry ∈ m.holders := by
  cases h with
  | same => exact he
  | request access hnew => exact mem_holders_request he
  | leave => exact mem_holders_leave he hne

end Moves

end Lock

/-- How a caller stands to the lock. Who waits may have been let in without having seen it. -/
inductive Footing where
  | away
  | waiting (access : Access)
  | holding (access : Access)

/-- The lock has the caller down as it stands. -/
def Footing.Agrees (l : Lock) (owner : Nat) : Footing → Prop
  | .away => ∀ access, (owner, access) ∉ l.entries
  | .waiting access => (owner, access) ∈ l.entries
  | .holding access => (owner, access) ∈ l.holders

theorem Footing.Agrees.moves {l m : Lock} {owner other : Nat} {footing : Footing}
    (h : footing.Agrees l owner) (hm : l.Moves other m) (hne : owner ≠ other) :
    footing.Agrees m owner := by
  cases footing with
  | away => exact fun access hmem => h access ((hm.entries_iff hne).mp hmem)
  | waiting access => exact (hm.entries_iff hne).mpr h
  | holding access => exact hm.mem_holders hne h

theorem Footing.away_of_leave (l : Lock) (owner : Nat) : away.Agrees (l.leave owner) owner :=
  fun _ hmem => (Lock.mem_entries_leave.mp hmem).2 rfl

abbrev Crowd.inventory (c : Crowd σ H α) : Inventory := c.shared.inventory

@[simp] theorem Connection.setLock_lock (c : Connection σ H) (lock : Lock) :
    (c.setLock lock).inventory.lock = lock := rfl

/-- The entry that a caller makes in the inventory with its next step. -/
def Stance.inHand? : Stance H α → Option (String × Slot)
  | .ready (.remember serial slot _) => some (serial, slot)
  | _ => none

/-- Nothing else changes what the inventory has. -/
theorem Stance.act_slots (world : World σ) (owner : Nat) (limit : Limit) (stance : Stance H α)
    (c : Connection σ H) :
    (stance.act world owner limit c).2.inventory.slots =
      c.inventory.slots ++ stance.inHand?.toList := by
  have hadvance : ∀ number, (c.advance world limit number).2.inventory = c.inventory :=
    fun _ => rfl
  have hnone : c.inventory.slots = c.inventory.slots ++ (none : Option (String × Slot)).toList := by
    simp
  cases stance with
  | gone => exact hnone
  | settling number outcome next => exact hnone
  | ready task =>
    cases task with
    | work job next =>
      simp only [act]
      generalize job.carry world limit c.scene = carried
      obtain ⟨job, s⟩ := carried
      cases job <;> exact hnone
    | enter connect next =>
      simp only [act]
      cases c.link.phase <;> exact hnone
    | join number next =>
      specialize hadvance number
      simp only [act]
      generalize c.advance world limit number = found at hadvance ⊢
      obtain ⟨finding, d⟩ := found
      cases finding <;> exact (congrArg Inventory.slots hadvance).trans hnone
    | detach next =>
      simp only [act, Link.detach]
      cases c.link.phase <;> exact hnone
    | reclaim number next =>
      specialize hadvance number
      simp only [act]
      generalize c.advance world limit number = found at hadvance ⊢
      obtain ⟨finding, d⟩ := found
      cases finding <;> exact (congrArg Inventory.slots hadvance).trans hnone
    | lock access next =>
      simp only [act]
      split <;> exact hnone
    | queued next =>
      simp only [act]
      split <;> exact hnone
    | remember serial slot next => rfl
    | _ => exact hnone

/-- A step keeps to the lock, and leaves its caller where `P` allows it to stand. -/
def Arrives (P : List (String × Slot) → Footing → Stance H α → Prop) (l : Lock) (owner : Nat)
    (after : Stance H α × Connection σ H) : Prop :=
  l.Moves owner after.2.inventory.lock ∧ ∃ footing : Footing,
    footing.Agrees after.2.inventory.lock owner ∧ P after.2.inventory.slots footing after.1

section Arriving

variable {P : List (String × Slot) → Footing → Stance H α → Prop} {world : World σ} {owner : Nat}
  {limit : Limit} {c : Connection σ H} {next : Task H α} {access : Access} {footing : Footing}

theorem Arrives.mono {Q : List (String × Slot) → Footing → Stance H α → Prop} {l : Lock}
    {after : Stance H α × Connection σ H} (h : Arrives P l owner after)
    (hPQ : ∀ {footing stance}, P after.2.inventory.slots footing stance →
      Q after.2.inventory.slots footing stance) : Arrives Q l owner after := by
  obtain ⟨hmoves, footing, hagrees, hplace⟩ := h
  exact ⟨hmoves, footing, hagrees, hPQ hplace⟩

/-- The step does nothing to the lock. -/
theorem arrives_same {after : Stance H α × Connection σ H}
    (hlock : after.2.inventory.lock = c.inventory.lock)
    (ha : footing.Agrees c.inventory.lock owner)
    (hnext : P after.2.inventory.slots footing after.1) :
    Arrives P c.inventory.lock owner after := by
  rw [← hlock] at ha ⊢
  exact ⟨.same, footing, ha, hnext⟩

/-- Who asks for the lock has it, or waits for it. -/
theorem arrives_lock (hs : c.inventory.lock.Sound)
    (ha : Footing.away.Agrees c.inventory.lock owner)
    (hheld : P c.inventory.slots (.holding access) (.ready next))
    (hwaits : P c.inventory.slots (.waiting access) (.ready (.queued next))) :
    Arrives P c.inventory.lock owner
      ((Stance.ready (.lock access next)).act world owner limit c) := by
  have hentry : (owner, access) ∈ (c.inventory.lock.request owner access).entries :=
    Lock.mem_entries_request.mpr (Or.inr rfl)
  have hsound := hs.request ha access
  rw [Stance.act, Connection.setLock_lock]
  by_cases h : (c.inventory.lock.request owner access).isHeldBy owner
  · rw [if_pos h]
    exact ⟨.request access ha, .holding access, hsound.mem_holders hentry h, hheld⟩
  · rw [if_neg h]
    exact ⟨.request access ha, .waiting access, hentry, hwaits⟩

/-- Who waits for the lock goes on once it has been let in. -/
theorem arrives_queued (hs : c.inventory.lock.Sound)
    (ha : (Footing.waiting access).Agrees c.inventory.lock owner)
    (hheld : P c.inventory.slots (.holding access) (.ready next))
    (hwaits : P c.inventory.slots (.waiting access) (.ready (.queued next))) :
    Arrives P c.inventory.lock owner ((Stance.ready (.queued next)).act world owner limit c) := by
  rw [Stance.act]
  by_cases h : c.inventory.lock.isHeldBy owner
  · rw [if_pos h]
    exact ⟨.same, .holding access, hs.mem_holders ha h, hheld⟩
  · rw [if_neg h]
    exact ⟨.same, .waiting access, ha, hwaits⟩

/-- Who ends, or gives up the lock, has no part in it any more. -/
theorem arrives_release {stance : Stance H α} (d : Connection σ H)
    (hlock : d.inventory.lock = c.inventory.lock)
    (hnext : P d.inventory.slots .away stance) :
    Arrives P c.inventory.lock owner (stance, d.release owner) := by
  rw [← hlock]
  exact ⟨.leave, .away, Footing.away_of_leave _ owner, hnext⟩

end Arriving

end Outband
