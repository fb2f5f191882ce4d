import Outband.Proofs.Callers
import Outband.Proofs.Cues
import Outband.Proofs.Locking
import Outband.Chassis
/-! Callers of a chassis connection who share what is known of its slots: where each of them may
stand, and where a step takes it. -/

namespace Outband

namespace Chassis

/-- What a caller of a chassis connection comes away with. -/
inductive Answer where
  | session (outcome : Except DriverError ChassisSession)
  | status (outcome : Except DriverError Bool)
  | slot (serial : String) (outcome : Except DriverError Slot)
  | known (serial : String) (found : Option Slot)
  | size (count : Nat)
  | closed (outcome : Except DriverError Unit)

namespace Answer

def error? : Answer → Option DriverError
  | .session (.error err) | .status (.error err) | .slot _ (.error err) | .closed (.error err) =>
    some err
  | _ => none

/-- Nothing was looked up for this answer, and what it says of the inventory is so. -/
def Holds (slots : List (String × Slot)) : Answer → Prop
  | .slot .. => False
  | .known serial (some found) => slots.lookup serial = some found
  | .size count => count ≤ slots.length
  | _ => True

end Answer

abbrev Caller := Task ChassisSession Answer

/-- Comes for the slot of a serial number, to be looked up in this way. -/
def resolving (serial : String) (lookup : Job (Except DriverError Slot)) : Caller :=
  (Inventory.resolve serial lookup).bind fun r => .done (.slot serial r)

/-- What callers may do with a chassis connection, and with what it knows of its slots. -/
inductive Request (e : Endpoint) (Looks : Job (Except DriverError Slot) → Prop) : Caller → Prop
  | connect : Request e Looks ((session e).bind fun r => .done (.session r))
  | operate (op : ChassisOp) :
    Request e Looks ((Chassis.operate e op).bind fun r => .done (.status r))
  | operateBlade (op : BladeOp) (slot : Slot) :
    Request e Looks ((Chassis.operateBlade e op slot).bind fun r => .done (.status r))
  | find (serial : String) :
    Request e Looks ((Chassis.find e serial).bind fun r => .done (.slot serial r))
  | resolve (serial : String) {lookup : Job (Except DriverError Slot)} (h : Looks lookup) :
    Request e Looks (resolving serial lookup)
  | known (serial : String) :
    Request e Looks ((Inventory.known serial).bind fun found => .done (.known serial found))
  | size : Request e Looks (Inventory.size.bind fun n => .done (.size n))
  | close : Request e Looks (Chassis.close.bind fun r => .done (.closed r))

/-! How a caller goes on who comes for a slot: when it has looked among what is known, when it has
looked there once more with the lock for itself, and when its lookup has ended. -/

def conclude (serial : String) : Except DriverError Slot → Caller
  | .ok slot => .remember serial slot (.unlock (.done (.slot serial (.ok slot))))
  | .error err => .unlock (.done (.slot serial (.error err)))

def recheck (serial : String) (lookup : Job (Except DriverError Slot)) : Option Slot → Caller
  | some slot => .unlock (.done (.slot serial (.ok slot)))
  | none => .beginLookup (.work lookup (conclude serial))

def check (serial : String) (lookup : Job (Except DriverError Slot)) : Option Slot → Caller
  | some slot => .unlock (.done (.slot serial (.ok slot)))
  | none => .unlock (.lock .exclusive (.recall serial (recheck serial lookup)))

theorem resolving_eq (serial : String) (lookup : Job (Except DriverError Slot)) :
    resolving serial lookup = .lock .shared (.recall serial (check serial lookup)) := by
  have hconclude : (fun outcome => (match outcome with
      | .ok slot => .remember serial slot (.unlock (.done (.ok slot)))
      | .error err => .unlock (.done (.error err)) : Task ChassisSession _).bind
        fun r => .done (.slot serial r)) = conclude serial := by
    funext outcome
    cases outcome <;> rfl
  refine congrArg (fun next => Task.lock .shared (.recall serial next)) (funext fun found => ?_)
  cases found with
  | some slot => rfl
  | none =>
    refine congrArg (fun next => Task.unlock (.lock .exclusive (.recall serial next)))
      (funext fun found => ?_)
    cases found with
    | some slot => rfl
    | none => exact congrArg (fun next => Task.beginLookup (.work lookup next)) hconclude

/-- The caller is looking up this serial number. -/
def Seeks (serial : String) (stance : Stance ChassisSession Answer) : Prop :=
  ∃ job, stance = .ready (.work job (conclude serial))

/-- With this step a lookup of the caller's failed. -/
def Fails (serial : String) (err : DriverError) (deed : Deed ChassisSession Answer) : Prop :=
  Seeks serial deed.before ∧ deed.after = .ready (.unlock (.done (.slot serial (.error err))))

/-- The attempt to connect that the caller had waited for has failed. -/
def Refused (err : DriverError) (deed : Deed ChassisSession Answer) : Prop :=
  ∃ number next, deed.before = .settling number (.error err) next

/-- A lookup: the call to the chassis, as far as it has got, or work of another kind. -/
inductive Lookup (Q : Call → Prop) (serial : String) : Job (Except DriverError Slot) → Prop
  | call (session : ChassisSession) : Lookup Q serial (.ask (.findBlade session serial) .done)
  | asked (session : ChassisSession) (due : Time) (outcome : Outcome (Except DriverError Slot)) :
    Lookup Q serial (.asked (.findBlade session serial) due outcome .done)
  | other {job : Job (Except DriverError Slot)} (h : job.Only Q) : Lookup Q serial job

/-- Where a caller stands who has come for a slot. `Did` are the steps that it has taken. -/
inductive Resolving (Q : Call → Prop) (Did : Deed ChassisSession Answer → Prop) (serial : String)
    (slots : List (String × Slot)) : Footing → Stance ChassisSession Answer → Prop
  | asking {lookup} (hl : Lookup Q serial lookup) :
    Resolving Q Did serial slots .away
      (.ready (.lock .shared (.recall serial (check serial lookup))))
  | queued {lookup} (hl : Lookup Q serial lookup) :
    Resolving Q Did serial slots (.waiting .shared)
      (.ready (.queued (.recall serial (check serial lookup))))
  | checking {lookup} (hl : Lookup Q serial lookup) :
    Resolving Q Did serial slots (.holding .shared)
      (.ready (.recall serial (check serial lookup)))
  | missed {lookup} (hl : Lookup Q serial lookup) :
    Resolving Q Did serial slots (.holding .shared)
      (.ready (.unlock (.lock .exclusive (.recall serial (recheck serial lookup)))))
  | returning {lookup} (hl : Lookup Q serial lookup) :
    Resolving Q Did serial slots .away
      (.ready (.lock .exclusive (.recall serial (recheck serial lookup))))
  | waiting {lookup} (hl : Lookup Q serial lookup) :
    Resolving Q Did serial slots (.waiting .exclusive)
      (.ready (.queued (.recall serial (recheck serial lookup))))
  | rechecking {lookup} (hl : Lookup Q serial lookup) :
    Resolving Q Did serial slots (.holding .exclusive)
      (.ready (.recall serial (recheck serial lookup)))
  | beginning {lookup} (hl : Lookup Q serial lookup) (hnone : slots.lookup serial = none) :
    Resolving Q Did serial slots (.holding .exclusive)
      (.ready (.beginLookup (.work lookup (conclude serial))))
  | looking {lookup} (hl : Lookup Q serial lookup) (hnone : slots.lookup serial = none) :
    Resolving Q Did serial slots (.holding .exclusive) (.ready (.work lookup (conclude serial)))
  | found (slot : Slot) (hnone : slots.lookup serial = none) :
    Resolving Q Did serial slots (.holding .exclusive) (.ready (conclude serial (.ok slot)))
  | failing {err deed} (hd : Did deed) (hf : Fails serial err deed) :
    Resolving Q Did serial slots (.holding .exclusive) (.ready (conclude serial (.error err)))
  | bringing (access : Access) {slot} (hslot : slots.lookup serial = some slot) :
    Resolving Q Did serial slots (.holding access)
      (.ready (.unlock (.done (.slot serial (.ok slot)))))
  | brought {slot} (hslot : slots.lookup serial = some slot) :
    Resolving Q Did serial slots .away (.ready (.done (.slot serial (.ok slot))))
  | failed {err deed} (hd : Did deed) (hf : Fails serial err deed) :
    Resolving Q Did serial slots .away (.ready (.done (.slot serial (.error err))))
  | crashed {cause deed} (hd : Did deed) (hs : Seeks serial deed.before) :
    Resolving Q Did serial slots .away (.ready (.crashed cause))
  | gone : Resolving Q Did serial slots .away .gone

section Steps

variable {Q : Call → Prop} {Did Done : Deed ChassisSession Answer → Prop} {serial : String}
  {slots : List (String × Slot)} {footing : Footing} {stance : Stance ChassisSession Answer}
  {world : World σ} {owner : Nat} {limit : Limit} {c : Connection σ ChassisSession}

theorem Lookup.carry {job : Job (Except DriverError Slot)} (h : Lookup Q serial job)
    (world : World σ) (limit : Limit) (s : Scene σ) :
    Lookup Q serial (job.carry world limit s).1 := by
  have hasked : ∀ session due outcome (s : Scene σ),
      Lookup Q serial ((Job.asked (.findBlade session serial) due outcome .done).carry
        world limit s).1 := by
    intro session due outcome s
    rw [Job.carry]
    by_cases hdue : limit.allows s.now due
    · rw [if_pos hdue]
      cases outcome <;> exact .other trivial
    · rw [if_neg hdue]
      exact .asked session due outcome
  cases h with
  | call session =>
    rw [Job.carry_ask]
    exact hasked _ _ _ _
  | asked session due outcome => exact hasked _ _ _ _
  | other h => exact .other (h.carry world limit s)

theorem lookup_append_of_some {more : List (String × Slot)} {slot : Slot}
    (h : slots.lookup serial = some slot) : (slots ++ more).lookup serial = some slot := by
  rw [List.lookup_append, h, Option.some_or]

/-- Who does not have the lock for itself, or sees nothing change, stays where it stands. -/
theorem Resolving.grows (h : Resolving Q Did serial slots footing stance)
    (hd : ∀ deed, Did deed → Done deed) {more : List (String × Slot)}
    (hmore : more = [] ∨ footing ≠ .holding .exclusive) :
    Resolving Q Done serial (slots ++ more) footing stance := by
  have hnone : footing = .holding .exclusive → slots.lookup serial = none →
      (slots ++ more).lookup serial = none := by
    rintro hfooting hnone
    obtain rfl : more = [] := hmore.resolve_right fun hnot => hnot hfooting
    rwa [List.append_nil]
  cases h with
  | asking hl => exact .asking hl
  | queued hl => exact .queued hl
  | checking hl => exact .checking hl
  | missed hl => exact .missed hl
  | returning hl => exact .returning hl
  | waiting hl => exact .waiting hl
  | rechecking hl => exact .rechecking hl
  | beginning hl hslot => exact .beginning hl (hnone rfl hslot)
  | looking hl hslot => exact .looking hl (hnone rfl hslot)
  | found slot hslot => exact .found slot (hnone rfl hslot)
  | failing hdid hf => exact .failing (hd _ hdid) hf
  | bringing access hslot => exact .bringing access (lookup_append_of_some hslot)
  | brought hslot => exact .brought (lookup_append_of_some hslot)
  | failed hdid hf => exact .failed (hd _ hdid) hf
  | crashed hdid hs => exact .crashed (hd _ hdid) hs
  | gone => exact .gone

/-- A lookup goes on, or its end is taken in. -/
theorem Resolving.look {lookup : Job (Except DriverError Slot)} (hl : Lookup Q serial lookup)
    (hnone : c.inventory.slots.lookup serial = none)
    (ha : (Footing.holding .exclusive).Agrees c.inventory.lock owner)
    (hnew : ∃ events, Done ⟨owner, .ready (.work lookup (conclude serial)),
      ((Stance.ready (.work lookup (conclude serial))).act world owner limit c).1, events⟩) :
    Arrives (Resolving Q Done serial) c.inventory.lock owner
      ((Stance.ready (.work lookup (conclude serial))).act world owner limit c) := by
  obtain ⟨events, hnew⟩ := hnew
  have hcarried := hl.carry world limit c.scene
  rw [Stance.act] at hnew ⊢
  generalize lookup.carry world limit c.scene = carried at hnew hcarried ⊢
  obtain ⟨job, s⟩ := carried
  cases job with
  | done outcome =>
    cases outcome with
    | ok slot => exact arrives_same rfl ha (.found slot hnone)
    | error err => exact arrives_same rfl ha (.failing hnew ⟨⟨_, rfl⟩, rfl⟩)
  | crashed cause => exact arrives_release _ rfl (.crashed hnew ⟨_, rfl⟩)
  | _ => exact arrives_same rfl ha (.looking hcarried hnone)

/-- A step of a caller who has come for a slot. -/
theorem Resolving.act (h : Resolving Q Did serial c.inventory.slots footing stance)
    (hs : c.inventory.lock.Sound) (ha : footing.Agrees c.inventory.lock owner)
    (hd : ∀ deed, Did deed → Done deed)
    (hnew : ∃ events, Done ⟨owner, stance, (stance.act world owner limit c).1, events⟩) :
    Arrives (Resolving Q Done serial) c.inventory.lock owner (stance.act world owner limit c) := by
  cases h with
  | asking hl => exact arrives_lock hs ha (.checking hl) (.queued hl)
  | queued hl => exact arrives_queued hs ha (.checking hl) (.queued hl)
  | checking hl =>
    refine arrives_same rfl ha ?_
    cases hslot : c.inventory.slot? serial with
    | some slot =>
      simp only [Stance.act, hslot]
      exact .bringing _ hslot
    | none =>
      simp only [Stance.act, hslot]
      exact .missed hl
  | missed hl => exact arrives_release c rfl (.returning hl)
  | returning hl => exact arrives_lock hs ha (.rechecking hl) (.waiting hl)
  | waiting hl => exact arrives_queued hs ha (.rechecking hl) (.waiting hl)
  | rechecking hl =>
    refine arrives_same rfl ha ?_
    cases hslot : c.inventory.slot? serial with
    | some slot =>
      simp only [Stance.act, hslot]
      exact .bringing _ hslot
    | none =>
      simp only [Stance.act, hslot]
      exact .beginning hl hslot
  | beginning hl hnone => exact arrives_same rfl ha (.looking hl hnone)
  | looking hl hnone => exact Resolving.look hl hnone ha hnew
  | found slot hnone =>
    refine arrives_same rfl ha (.bringing _ ?_)
    rw [Stance.act_slots]
    simp [conclude, Stance.inHand?, List.lookup_append, hnone]
  | failing hdid hf => exact arrives_release c rfl (.failed (hd _ hdid) hf)
  | bringing access hslot => exact arrives_release c rfl (.brought hslot)
  | brought hslot => exact arrives_same rfl ha (.brought hslot)
  | failed hdid hf => exact arrives_same rfl ha (.failed (hd _ hdid) hf)
  | crashed hdid hseeks => exact arrives_same rfl ha (.crashed (hd _ hdid) hseeks)
  | gone => exact arrives_same rfl ha .gone

/-- How a caller goes on who has come to know something, or to count what is known. -/
inductive Glance (slots : List (String × Slot)) : Caller → Prop
  | known (serial : String) :
    Glance slots (.recall serial fun found => .unlock (.done (.known serial found)))
  | size : Glance slots (.count fun n => .unlock (.done (.size n)))
  | leaving {answer : Answer} (ha : answer.Holds slots) : Glance slots (.unlock (.done answer))

/-- How a caller goes on with the session: it makes calls that look nothing up, and then returns. -/
inductive Errand : Caller → Prop
  | done {answer : Answer} (ha : answer.Holds []) : Errand (.done answer)
  | work {job : Job β} {next : β → Caller} (hjob : job.Only fun call => call.isLookup = false)
      (hnext : ∀ value, ∃ answer : Answer, next value = .done answer ∧ answer.Holds []) :
    Errand (.work job next)

/-- How a caller goes on when it has waited for the session. An error is what it returns. -/
structure Serves (Q : Call → Prop) (next : Except DriverError ChassisSession → Caller) : Prop where
  failed : ∀ err, ∃ answer : Answer, next (.error err) = .done answer ∧ answer.error? = some err
  opened : ∀ session, Errand (next (.ok session)) ∨
    ∃ serial lookup, Lookup Q serial lookup ∧ next (.ok session) = resolving serial lookup

/-- How a caller goes on who releases the session. -/
def release (session : Option ChassisSession) : Caller :=
  match session with
  | some session => .work (Job.call (.closeChassis session)) fun r => .done (.closed r)
  | none => .done (.closed (.ok ()))

/-- Where a caller stands who has no business with the inventory, or none yet. -/
inductive Outside (Q : Call → Prop) (Did : Deed ChassisSession Answer → Prop)
    (slots : List (String × Slot)) : Stance ChassisSession Answer → Prop
  | entering {connect next} (hs : Serves Q next) :
    Outside Q Did slots (.ready (.enter connect next))
  | joining {number next} (hs : Serves Q next) : Outside Q Did slots (.ready (.join number next))
  | settling {number outcome next} (hs : Serves Q next) :
    Outside Q Did slots (.settling number outcome next)
  | refused {answer : Answer} {err deed} (ha : answer.error? = some err) (hd : Did deed)
      (hr : Refused err deed) : Outside Q Did slots (.ready (.done answer))
  | serving {task} (he : Errand task) : Outside Q Did slots (.ready task)
  | releasing : Outside Q Did slots (.ready (.detach release))
  | reclaiming (number : Nat) : Outside Q Did slots (.ready (.reclaim number release))
  | told {answer : Answer} (ha : answer.Holds slots) : Outside Q Did slots (.ready (.done answer))
  | crashed (cause : Crash) : Outside Q Did slots (.ready (.crashed cause))
  | gone : Outside Q Did slots .gone

/-- Where a caller may stand. -/
inductive Place (Q : Call → Prop) (Did : Deed ChassisSession Answer → Prop)
    (slots : List (String × Slot)) : Footing → Stance ChassisSession Answer → Prop
  | resolving {serial : String} {footing : Footing} {stance : Stance ChassisSession Answer}
      (h : Resolving Q Did serial slots footing stance) :
    Place Q Did slots footing stance
  | asking {task} (hg : Glance slots task) : Place Q Did slots .away (.ready (.lock .shared task))
  | waiting {task} (hg : Glance slots task) :
    Place Q Did slots (.waiting .shared) (.ready (.queued task))
  | looking {task} (hg : Glance slots task) : Place Q Did slots (.holding .shared) (.ready task)
  | outside {stance : Stance ChassisSession Answer} (ho : Outside Q Did slots stance) :
    Place Q Did slots .away stance

theorem Answer.Holds.grows {answer : Answer} (h : answer.Holds slots)
    (more : List (String × Slot)) : answer.Holds (slots ++ more) := by
  cases answer with
  | known serial found =>
    cases found with
    | none => trivial
    | some slot => exact lookup_append_of_some h
  | size count =>
    refine Nat.le_trans h ?_
    rw [List.length_append]
    exact Nat.le_add_right _ _
  | slot serial outcome => exact h
  | session _ | status _ | closed _ => trivial

theorem Glance.grows {task : Caller} (h : Glance slots task) (more : List (String × Slot)) :
    Glance (slots ++ more) task := by
  cases h with
  | known serial => exact .known serial
  | size => exact .size
  | leaving ha => exact .leaving (ha.grows more)

theorem Outside.grows (h : Outside Q Did slots stance) (hd : ∀ deed, Did deed → Done deed)
    (more : List (String × Slot)) : Outside Q Done (slots ++ more) stance := by
  cases h with
  | entering hs => exact .entering hs
  | joining hs => exact .joining hs
  | settling hs => exact .settling hs
  | refused ha hdid hr => exact .refused ha (hd _ hdid) hr
  | serving he => exact .serving he
  | releasing => exact .releasing
  | reclaiming number => exact .reclaiming number
  | told ha => exact .told (ha.grows more)
  | crashed cause => exact .crashed cause
  | gone => exact .gone

theorem Place.grows (h : Place Q Did slots footing stance) (hd : ∀ deed, Did deed → Done deed)
    {more : List (String × Slot)} (hmore : more = [] ∨ footing ≠ .holding .exclusive) :
    Place Q Done (slots ++ more) footing stance := by
  cases h with
  | resolving h => exact .resolving (h.grows hd hmore)
  | asking hg => exact .asking (hg.grows more)
  | waiting hg => exact .waiting (hg.grows more)
  | looking hg => exact .looking (hg.grows more)
  | outside ho => exact .outside (ho.grows hd more)

/-- Who has the session goes on with it. -/
theorem Place.opened {next : Except DriverError ChassisSession → Caller} (hs : Serves Q next)
    (session : ChassisSession) : Place Q Did slots .away (.ready (next (.ok session))) := by
  rcases hs.opened session with he | ⟨serial, lookup, hl, hnext⟩
  · exact .outside (.serving he)
  · rw [hnext, resolving_eq]
    exact .resolving (.asking hl)

theorem errand_release (session : ChassisSession) : Errand (release (some session)) :=
  .work ⟨rfl, fun _ => trivial⟩ fun _ => ⟨_, rfl, trivial⟩

theorem Place.released (session : Option ChassisSession) :
    Place Q Did slots .away (.ready (release session)) := by
  cases session with
  | none => exact .outside (.told trivial)
  | some session => exact .outside (.serving (errand_release session))

theorem Errand.act {task : Caller} (h : Errand task)
    (ha : Footing.away.Agrees c.inventory.lock owner) :
    Arrives (Place Q Done) c.inventory.lock owner
      ((Stance.ready task).act world owner limit c) := by
  cases h with
  | done hanswer => exact arrives_same rfl ha (.outside (.serving (.done hanswer)))
  | @work β job next hjob hnext =>
    have honly := hjob.carry world limit c.scene
    rw [Stance.act]
    generalize job.carry world limit c.scene = carried at honly ⊢
    obtain ⟨job, s⟩ := carried
    cases job with
    | done value =>
      obtain ⟨answer, hvalue, hanswer⟩ := hnext value
      refine arrives_same rfl ha ?_
      dsimp only
      rw [hvalue]
      exact .outside (.serving (.done hanswer))
    | crashed cause => exact arrives_release _ rfl (.outside (.crashed cause))
    | _ => exact arrives_same rfl ha (.outside (.serving (.work honly hnext)))

/-- A step of a caller who has no business with the inventory. -/
theorem Outside.act (h : Outside Q Did c.inventory.slots stance)
    (ha : Footing.away.Agrees c.inventory.lock owner) (hd : ∀ deed, Did deed → Done deed)
    (hnew : ∃ events, Done ⟨owner, stance, (stance.act world owner limit c).1, events⟩) :
    Arrives (Place Q Done) c.inventory.lock owner (stance.act world owner limit c) := by
  cases h with
  | entering hs =>
    rw [Stance.act]
    cases c.link.phase with
    | idle => exact arrives_same rfl ha (.outside (.joining hs))
    | connecting number => exact arrives_same rfl ha (.outside (.joining hs))
    | connected session => exact arrives_same rfl ha (.opened hs session)
  | @joining number next hs =>
    have hinventory : (c.advance world limit number).2.inventory = c.inventory := rfl
    rw [Stance.act]
    generalize c.advance world limit number = found at hinventory ⊢
    obtain ⟨finding, d⟩ := found
    have hlock : d.inventory.lock = c.inventory.lock := congrArg Inventory.lock hinventory
    cases finding with
    | pending => exact arrives_same hlock ha (.outside (.joining hs))
    | ended outcome => exact arrives_same hlock ha (.outside (.settling hs))
    | crashed cause => exact arrives_release d hlock (.outside (.crashed cause))
  | @settling number outcome next hs =>
    refine arrives_same rfl ha ?_
    cases outcome with
    | ok session => exact .opened hs session
    | error err =>
      obtain ⟨answer, hanswer, herror⟩ := hs.failed err
      obtain ⟨events, hnew⟩ := hnew
      rw [Stance.act] at hnew ⊢
      rw [hanswer] at hnew ⊢
      exact .outside (.refused herror hnew ⟨number, next, rfl⟩)
  | refused hanswer hdid hr =>
    exact arrives_same rfl ha (.outside (.refused hanswer (hd _ hdid) hr))
  | serving he => exact he.act ha
  | releasing =>
    rw [Stance.act]
    simp only [Link.detach]
    cases c.link.phase with
    | idle => exact arrives_same rfl ha (.released none)
    | connecting number => exact arrives_same rfl ha (.outside (.reclaiming number))
    | connected session => exact arrives_same rfl ha (.released (some session))
  | reclaiming number =>
    have hinventory : (c.advance world limit number).2.inventory = c.inventory := rfl
    rw [Stance.act]
    generalize c.advance world limit number = found at hinventory ⊢
    obtain ⟨finding, d⟩ := found
    have hlock : d.inventory.lock = c.inventory.lock := congrArg Inventory.lock hinventory
    cases finding with
    | pending => exact arrives_same hlock ha (.outside (.reclaiming number))
    | ended outcome => exact arrives_same hlock ha (.released outcome.toOption)
    | crashed cause => exact arrives_release d hlock (.outside (.crashed cause))
  | told hanswer => exact arrives_same rfl ha (.outside (.told hanswer))
  | crashed cause => exact arrives_same rfl ha (.outside (.crashed cause))
  | gone => exact arrives_same rfl ha (.outside .gone)

/-- A step of a caller who looks at what is known. -/
theorem Glance.act {task : Caller} (h : Glance c.inventory.slots task)
    (ha : (Footing.holding .shared).Agrees c.inventory.lock owner) :
    Arrives (Place Q Done) c.inventory.lock owner
      ((Stance.ready task).act world owner limit c) := by
  cases h with
  | known serial =>
    refine arrives_same rfl ha (.looking (.leaving ?_))
    cases hslot : c.inventory.slot? serial with
    | none => trivial
    | some slot => exact hslot
  | size => exact arrives_same rfl ha (.looking (.leaving (Nat.le_refl _)))
  | leaving hanswer => exact arrives_release c rfl (.outside (.told hanswer))

/-- A step keeps a caller among the places where it may stand. -/
theorem Place.act (h : Place Q Did c.inventory.slots footing stance)
    (hs : c.inventory.lock.Sound) (ha : footing.Agrees c.inventory.lock owner)
    (hd : ∀ deed, Did deed → Done deed)
    (hnew : ∃ events, Done ⟨owner, stance, (stance.act world owner limit c).1, events⟩) :
    Arrives (Place Q Done) c.inventory.lock owner (stance.act world owner limit c) := by
  cases h with
  | resolving h => exact (h.act hs ha hd hnew).mono .resolving
  | asking hg => exact arrives_lock hs ha (.looking hg) (.waiting hg)
  | waiting hg => exact arrives_queued hs ha (.looking hg) (.waiting hg)
  | looking hg => exact hg.act ha
  | outside ho => exact ho.act ha hd hnew

end Steps

end Chassis

end Outband
