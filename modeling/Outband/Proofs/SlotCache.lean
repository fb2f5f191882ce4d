import Outband.Proofs.Fairness
/-! What callers get of a chassis whose slots they look up: the slot that the one lookup found, or
the error of their own. -/

namespace Outband

theorem Job.only_true (job : Job α) : job.Only fun _ => True := by
  induction job with
  | done value => trivial
  | crashed cause => trivial
  | ask call next ih => exact ⟨trivial, ih⟩
  | asked call due outcome next ih => exact ⟨trivial, ih⟩
  | pause span next ih => exact ih
  | paused due next ih => exact ih

namespace Event

/-- The serial number that the chassis is asked for. -/
def asks? : Event → Option String
  | .called (.findBlade _ serial) => some serial
  | _ => none

/-- What the chassis found. -/
def finds? : Event → Option (String × Slot)
  | .ended (.findBlade _ serial) (.returns (.ok slot)) => some (serial, slot)
  | _ => none

theorem asks?_of_other {event : Event} (h : event.call.isLookup = false) : event.asks? = none := by
  cases event with
  | called call => cases call <;> first | rfl | cases h
  | ended call outcome => rfl

theorem finds?_of_other {event : Event} (h : event.call.isLookup = false) :
    event.finds? = none := by
  cases event with
  | called call => rfl
  | ended call outcome => cases call <;> first | rfl | cases h

end Event

/-- What was found before is not asked for later. -/
def AsksNoMore (earlier later : Event) : Prop :=
  ∀ entry, earlier.finds? = some entry → later.asks? ≠ some entry.1

theorem pairwise_of_asks_none {events : List Event} (h : ∀ event ∈ events, event.asks? = none) :
    events.Pairwise AsksNoMore :=
  List.pairwise_iff_forall_sublist.mpr fun hpair _ _ => by
    rw [h _ (hpair.subset (by simp))]
    simp

namespace Chassis

/-- The slot that the caller was told. -/
def Answer.slot? : Answer → Option (String × Slot)
  | .slot serial (.ok found) | .known serial (some found) => some (serial, found)
  | _ => none

section Answers

variable {Q : Call → Prop} {Did : Deed ChassisSession Answer → Prop} {serial : String}
  {slots : List (String × Slot)} {footing : Footing} {answer : Answer}

theorem Answer.Holds.lookup {slot : Slot} (h : answer.Holds slots)
    (ha : answer.slot? = some (serial, slot)) : slots.lookup serial = some slot := by
  cases answer with
  | slot other outcome => exact h.elim
  | known other found =>
    cases found with
    | none => cases ha
    | some found =>
      cases ha
      exact h
  | _ => cases ha

/-- A caller is told what is known. -/
theorem Place.told {slot : Slot} (h : Place Q Did slots footing (.ready (.done answer)))
    (ha : answer.slot? = some (serial, slot)) : slots.lookup serial = some slot := by
  cases h with
  | resolving h =>
    cases h with
    | brought hslot =>
      cases ha
      exact hslot
    | failed hd hf => cases ha
  | looking hg => cases hg
  | outside ho =>
    cases ho with
    | refused herror hd hr =>
      cases answer with
      | slot other outcome =>
        cases outcome with
        | ok found => cases herror
        | error err => cases ha
      | known other found => cases herror
      | _ => cases ha
    | serving hr =>
      cases hr with
      | done hanswer => exact (hanswer.grows slots).lookup ha
    | told hanswer => exact hanswer.lookup ha

theorem Place.counted {count : Nat}
    (h : Place Q Did slots footing (.ready (.done (.size count)))) : count ≤ slots.length := by
  cases h with
  | resolving h => cases h
  | looking hg => cases hg
  | outside ho =>
    cases ho with
    | refused herror hd hr => cases herror
    | serving hr =>
      cases hr with
      | done hanswer => exact hanswer.grows slots
    | told hanswer => exact hanswer

/-- An error that a caller returns comes from a lookup of its own, or from an attempt to connect. -/
theorem Place.error {err : DriverError}
    (h : Place Q Did slots footing (.ready (.done (.slot serial (.error err))))) :
    ∃ deed, Did deed ∧ (Fails serial err deed ∨ Refused err deed) := by
  cases h with
  | resolving h =>
    cases h with
    | failed hd hf => exact ⟨_, hd, Or.inl hf⟩
  | looking hg => cases hg
  | outside ho =>
    cases ho with
    | refused herror hd hr =>
      cases herror
      exact ⟨_, hd, Or.inr hr⟩
    | serving hr =>
      cases hr with
      | done hanswer => exact hanswer.elim
    | told hanswer => exact hanswer.elim

end Answers

/-- What a step shows of the lookup that the chassis does. -/
structure Shows (deed : Deed ChassisSession Answer) : Prop where
  asks : ∀ event ∈ deed.events, ∀ serial, event.asks? = some serial → Seeks serial deed.before
  finds : ∀ event ∈ deed.events, ∀ entry, event.finds? = some entry →
    deed.after.inHand? = some entry
  settled : deed.events.Pairwise AsksNoMore

theorem shows_of_other {deed : Deed ChassisSession Answer}
    (h : About (fun call => call.isLookup = false) deed.events) : Shows deed where
  asks event hmem serial hasks := by
    rw [Event.asks?_of_other (h event hmem)] at hasks
    cases hasks
  finds event hmem entry hfinds := by
    rw [Event.finds?_of_other (h event hmem)] at hfinds
    cases hfinds
  settled := pairwise_of_asks_none fun event hmem => Event.asks?_of_other (h event hmem)

section Telling

variable {Q : Call → Prop} {serial : String} {job : Job (Except DriverError Slot)}

/-- The chassis answers a call with what the lookup ends with. -/
theorem carry_findBlade (session : ChassisSession) (serial : String) (due : Time)
    (outcome : Outcome (Except DriverError Slot)) (world : World σ) (limit : Limit) (s : Scene σ) :
    let carried := (Job.asked (.findBlade session serial) due outcome .done).carry world limit s
    ∃ events, carried.2.log = s.log ++ events ∧ (∀ event ∈ events, event.asks? = none) ∧
      ∀ event ∈ events, ∀ entry, event.finds? = some entry →
        entry.1 = serial ∧ carried.1 = .done (.ok entry.2) := by
  rw [Job.carry]
  by_cases hdue : limit.allows s.now due
  · rw [if_pos hdue]
    cases outcome with
    | crashes => exact ⟨[_], rfl, by simp [Event.asks?], by simp [Event.finds?]⟩
    | returns answer =>
      refine ⟨[_], rfl, by simp [Event.asks?], fun event hmem entry hfinds => ?_⟩
      rw [List.mem_singleton.mp hmem] at hfinds
      cases answer with
      | ok slot =>
        cases hfinds
        exact ⟨rfl, rfl⟩
      | error err => cases hfinds
  · rw [if_neg hdue]
    exact ⟨[], by simp, by simp, by simp⟩

theorem Lookup.carry_events (h : Lookup Q serial job)
    (hQ : ∀ call, Q call → call.isLookup = false) (world : World σ) (limit : Limit) (s : Scene σ) :
    ∃ events, (job.carry world limit s).2.log = s.log ++ events ∧
      (∀ event ∈ events, ∀ other, event.asks? = some other → other = serial) ∧
      (∀ event ∈ events, ∀ entry, event.finds? = some entry →
        entry.1 = serial ∧ (job.carry world limit s).1 = .done (.ok entry.2)) ∧
      events.Pairwise AsksNoMore := by
  cases h with
  | call session =>
    rw [Job.carry_ask]
    obtain ⟨events, hlog, hasks, hfinds⟩ := carry_findBlade session serial
      (s.now + (world (.findBlade session serial) s.world).1.delay)
      (world (.findBlade session serial) s.world).1.outcome world limit
      (s.ask world (.findBlade session serial)).2
    refine ⟨.called (.findBlade session serial) :: events, ?_, ?_, ?_, ?_⟩
    · rw [hlog, List.append_cons]
      rfl
    · rintro event (_ | ⟨_, hmem⟩) other h
      · cases h
        rfl
      · rw [hasks event hmem] at h
        cases h
    · rintro event (_ | ⟨_, hmem⟩) entry h
      · cases h
      · exact hfinds event hmem entry h
    · refine List.pairwise_cons.mpr ⟨fun _ _ entry h => ?_, pairwise_of_asks_none hasks⟩
      cases h
  | asked session due outcome =>
    obtain ⟨events, hlog, hasks, hfinds⟩ :=
      carry_findBlade session serial due outcome world limit s
    refine ⟨events, hlog, fun event hmem other h => ?_, hfinds, pairwise_of_asks_none hasks⟩
    rw [hasks event hmem] at h
    cases h
  | other honly =>
    obtain ⟨-, events, hlog, habout⟩ := job.carry_only world limit honly (.about_nil s.log)
    have hother : ∀ event ∈ events, event.call.isLookup = false :=
      fun event hmem => hQ _ (habout event hmem)
    refine ⟨events, hlog, fun event hmem other h => ?_, fun event hmem entry h => ?_,
      pairwise_of_asks_none fun event hmem => Event.asks?_of_other (hother event hmem)⟩
    · rw [Event.asks?_of_other (hother event hmem)] at h
      cases h
    · rw [Event.finds?_of_other (hother event hmem)] at h
      cases h

variable {world : World σ} {owner : Nat} {limit : Limit} {c : Connection σ ChassisSession}
  {events : List Event}

theorem Lookup.shows (h : Lookup Q serial job) (hQ : ∀ call, Q call → call.isLookup = false)
    (hlog : ((Stance.ready (.work job (conclude serial))).act world owner limit c).2.scene.log =
      c.scene.log ++ events) :
    Shows ⟨owner, .ready (.work job (conclude serial)),
      ((Stance.ready (.work job (conclude serial))).act world owner limit c).1, events⟩ := by
  obtain ⟨more, hmore, hasks, hfinds, hsettled⟩ := h.carry_events hQ world limit c.scene
  rw [Stance.act_work_log] at hlog
  obtain rfl : more = events := List.append_cancel_left (hmore.symm.trans hlog)
  refine ⟨fun event hmem other hother => ?_, fun event hmem entry hentry => ?_, hsettled⟩
  · rw [hasks event hmem other hother]
    exact ⟨job, rfl⟩
  · obtain ⟨hserial, hdone⟩ := hfinds event hmem entry hentry
    simp only [Stance.act]
    generalize job.carry world limit c.scene = carried at hdone ⊢
    obtain ⟨job, s⟩ := carried
    cases hdone
    rw [← hserial]
    rfl

/-- What a step shows of lookups is its caller's own lookup. -/
theorem Place.shows {Did : Deed ChassisSession Answer → Prop} {slots : List (String × Slot)}
    {footing : Footing} {stance : Stance ChassisSession Answer}
    (h : Place Q Did slots footing stance) (hQ : ∀ call, Q call → call.isLookup = false)
    (hattempt : stance.attempt? ≠ none → About (fun call => call.isConnect) events)
    (hlog : (stance.act world owner limit c).2.scene.log = c.scene.log ++ events) :
    Shows ⟨owner, stance, (stance.act world owner limit c).1, events⟩ := by
  by_cases hnone : stance.attempt? = none
  · by_cases hwork : stance.IsWork
    · cases h with
      | resolving h =>
        cases h with
        | looking hl _ => exact hl.shows hQ hlog
        | _ => exact hwork.elim
      | looking hg => cases hg <;> exact hwork.elim
      | outside ho =>
        cases ho with
        | serving hr =>
          cases hr with
          | done ha => exact hwork.elim
          | work hjob hnext => exact shows_of_other (Stance.act_work_only hjob hlog).2
        | _ => exact hwork.elim
      | _ => exact hwork.elim
    · obtain rfl := Stance.act_silent hnone hwork hlog
      exact shows_of_other fun event hmem => by simp at hmem
  · refine shows_of_other fun event hmem => ?_
    have hconnect := hattempt hnone event hmem
    cases hcall : event.call <;> simp [hcall, Call.isConnect, Call.isLookup] at hconnect ⊢

end Telling

section Told

variable {e : Endpoint} {Looks : Job (Except DriverError Slot) → Prop} {Q : Call → Prop}
  {world : World σ} {scene : Scene σ} {c d : Crowd σ ChassisSession Answer}
  {deeds more : List (Deed ChassisSession Answer)} {i : Nat}
  {stance : Stance ChassisSession Answer}

theorem shows_tale (h : Tale e Looks world scene deeds c)
    (hQ : ∀ lookup, Looks lookup → lookup.Only Q) (hno : ∀ call, Q call → call.isLookup = false) :
    ∀ deed ∈ deeds, Shows deed := by
  have honly : ∀ {deeds c}, Tale e Looks world scene deeds c →
      ∀ deed ∈ deeds, deed.before.attempt? ≠ none →
        About (fun call => call.isConnect) deed.events := fun h =>
    (h.only (fun _ ht => ht.fresh) (by rintro _ rfl; exact chassis_connect_only e)).2
  induction h with
  | start => simp
  | come _ task ht ih => exact ih
  | @act deeds c h limit i stance hi events hlog ih =>
    intro deed hmem
    have hconnect := honly (h.act limit hi hlog) deed hmem
    rcases List.mem_append.mp hmem with hmem | hmem
    · exact ih deed hmem
    · rw [List.mem_singleton.mp hmem] at hconnect ⊢
      obtain ⟨footing, -, hplace⟩ := (placed_tale hQ h).place hi
      exact hplace.shows hno hconnect hlog
  | leave _ _ _ ih => exact ih
  | pass _ due ih => exact ih

theorem mem_findings {deed : Deed ChassisSession Answer} {entry : String × Slot}
    (hmem : deed ∈ deeds) (h : deed.after.inHand? = some entry) : entry ∈ findings deeds :=
  List.mem_filterMap.mpr ⟨deed, hmem, h⟩

/-- The chassis is not asked again for what it found. -/
theorem settled_tale (h : Tale e Looks world scene deeds c)
    (hQ : ∀ lookup, Looks lookup → lookup.Only Q) (hno : ∀ call, Q call → call.isLookup = false) :
    (deeds.flatMap (·.events)).Pairwise AsksNoMore := by
  induction h with
  | start => exact List.Pairwise.nil
  | come _ task ht ih => exact ih
  | @act deeds c h limit i stance hi events hlog ih =>
    have hshows := shows_tale (h.act limit hi hlog) hQ hno
    have hlast := hshows ⟨i, stance, (stance.act world i limit c.shared).1, events⟩ (by simp)
    have hp := placed_tale hQ h
    rw [List.flatMap_append, List.pairwise_append, List.flatMap_singleton]
    refine ⟨ih, hlast.settled, fun earlier hearlier later hlater entry hfinds hasks => ?_⟩
    obtain ⟨deed, hmem, hevent⟩ := List.mem_flatMap.mp hearlier
    have hfound := (hshows deed (List.mem_append_left _ hmem)).finds earlier hevent entry hfinds
    refine (booked_tale h hQ).unfound hp hi (hlast.asks later hlater _ hasks) ?_
    exact List.mem_map.mpr ⟨entry, mem_findings hmem hfound, rfl⟩
  | leave _ _ _ ih => exact ih
  | pass _ due ih => exact ih

theorem any_only : ∀ lookup, Looks lookup → lookup.Only fun _ => True :=
  fun lookup _ => Job.only_true lookup

theorem Place.away_of_lock {Did : Deed ChassisSession Answer → Prop}
    {slots : List (String × Slot)} {footing : Footing} {access : Access} {next : Caller}
    (h : Place Q Did slots footing (.ready (.lock access next))) : footing = .away := by
  cases h with
  | resolving h => cases h <;> rfl
  | asking => rfl
  | looking hg => cases hg
  | outside => rfl

/-- Who has come for a slot goes the way of one who does. -/
theorem resolving_tale (h : Tale e Looks world scene deeds c) {serial : String}
    {lookup : Job (Except DriverError Slot)}
    (hi : c.members[i]? = some (.ready (resolving serial lookup)))
    (hmore : Further e Looks world c more d) :
    ∃ stance, d.members[i]? = some stance ∧ ∃ footing : Footing,
      footing.Agrees d.inventory.lock i ∧
        Resolving (fun _ => True) (Own more i) serial d.inventory.slots footing stance := by
  induction hmore with
  | start =>
    refine ⟨_, hi, ?_⟩
    obtain ⟨footing, hagrees, hplace⟩ := (placed_tale any_only h).place hi
    rw [resolving_eq] at hplace ⊢
    obtain rfl := hplace.away_of_lock
    exact ⟨.away, hagrees, .asking (.other (Job.only_true lookup))⟩
  | @come more d hmore task ht ih =>
    obtain ⟨stance, hd, ih⟩ := ih
    obtain ⟨hlt, -⟩ := List.getElem?_eq_some_iff.mp hd
    exact ⟨stance, by rwa [Crowd.come, List.getElem?_append_left hlt], ih⟩
  | @act more d hmore limit j other hj events hlog ih =>
    obtain ⟨stance, hd, footing, hagrees, hresolving⟩ := ih
    have hp := placed_tale any_only (h.append hmore)
    by_cases hij : i = j
    · subst hij
      rw [hd] at hj
      cases hj
      have harrives : Arrives (Resolving (fun _ => True)
          (Own (more ++ [⟨i, other, (other.act world i limit d.shared).1, events⟩]) i) serial)
          d.inventory.lock i (other.act world i limit d.shared) :=
        hresolving.act hp.sound hagrees (fun _ hown => hown.append _) ⟨events, own_last more _⟩
      obtain ⟨-, after, hafter, hresolving⟩ := harrives
      rw [← inventory_act limit hd] at hafter hresolving
      exact ⟨_, Crowd.members_act world limit hd, after, hafter, hresolving⟩
    · refine ⟨stance, by rwa [Crowd.members_act_other limit hij], footing,
        hagrees.moves (hp.moves limit hj) hij, ?_⟩
      rw [slots_act limit hj]
      exact hresolving.grows (fun _ hown => hown.append _) (hp.apart hj hij hagrees)
  | @leave more d hmore j other hj hl ih =>
    obtain ⟨stance, hd, footing, hagrees, hresolving⟩ := ih
    by_cases hij : i = j
    · subst hij
      obtain ⟨hlt, -⟩ := List.getElem?_eq_some_iff.mp hd
      exact ⟨.gone, by rw [Crowd.leave, List.getElem?_set_self hlt], .away,
        Footing.away_of_leave _ _, .gone⟩
    · exact ⟨stance, by rwa [Crowd.leave, List.getElem?_set_ne (Ne.symm hij)], footing,
        hagrees.moves .leave hij, hresolving⟩
  | pass _ due ih => exact ih

/-- Who comes for a slot that was not found before, and comes to its end, has looked it up itself,
or it was found in the meantime. -/
theorem sought_again (h : Tale e Looks world scene deeds c) {serial : String}
    {lookup : Job (Except DriverError Slot)}
    (hi : c.members[i]? = some (.ready (resolving serial lookup)))
    (hnew : serial ∉ (findings deeds).map (·.1))
    (hmore : Further e Looks world c more d)
    (hd : d.members[i]? = some stance) (hover : stance.IsOver) (hne : stance ≠ .gone) :
    ∃ deed ∈ more, Seeks serial deed.before ∧
      (deed.owner = i ∨ ∃ slot, deed.after.inHand? = some (serial, slot)) := by
  obtain ⟨other, hother, footing, -, hresolving⟩ := resolving_tale h hi hmore
  rw [hd] at hother
  cases hother
  cases hresolving with
  | @brought slot hslot =>
    have hb := booked_tale (h.append hmore) any_only
    have hfound : (serial, slot) ∈ findings (deeds ++ more) := by
      obtain ⟨pending, hfound, -⟩ := hb.pending
      obtain ⟨before, after, hslots, -⟩ := List.lookup_eq_some_iff.mp hslot
      simp [hfound, hslots]
    rw [findings, List.filterMap_append] at hfound
    rcases List.mem_append.mp hfound with hmem | hmem
    · exact absurd (List.mem_map.mpr ⟨_, hmem, rfl⟩) hnew
    · obtain ⟨deed, hdeed, hentry⟩ := List.mem_filterMap.mp hmem
      exact ⟨deed, hdeed, hb.sought deed (List.mem_append_right _ hdeed) _ hentry,
        Or.inr ⟨slot, hentry⟩⟩
  | failed hown hf => exact ⟨_, hown.1, hf.1, Or.inl hown.2⟩
  | crashed hown hs => exact ⟨_, hown.1, hs, Or.inl hown.2⟩
  | gone => exact absurd rfl hne
  | _ => exact hover.elim

/-- A lookup goes on, finds the slot, fails or crashes. -/
theorem Seeks.act {serial : String} (h : Seeks serial stance) (world : World σ) (owner : Nat)
    (limit : Limit) (c : Connection σ ChassisSession) :
    let after := (stance.act world owner limit c).1
    Seeks serial after ∨ (∃ slot, after.inHand? = some (serial, slot)) ∨
      (∃ err, after = .ready (.unlock (.done (.slot serial (.error err))))) ∨
      ∃ cause, after = .ready (.crashed cause) := by
  obtain ⟨job, rfl⟩ := h
  rw [Stance.act]
  generalize job.carry world limit c.scene = carried
  obtain ⟨job, s⟩ := carried
  cases job with
  | done outcome =>
    cases outcome with
    | ok slot => exact Or.inr (Or.inl ⟨slot, rfl⟩)
    | error err => exact Or.inr (Or.inr (Or.inl ⟨err, rfl⟩))
  | crashed cause => exact Or.inr (Or.inr (Or.inr ⟨cause, rfl⟩))
  | _ => exact Or.inl ⟨_, rfl⟩

theorem slots_step {MayCome : Caller → Prop} {MayLeave : Stance ChassisSession Answer → Prop}
    (h : Crowd.Step world MayCome MayLeave c d) :
    d.inventory.slots = c.inventory.slots ∨
      ∃ entry, Enters c entry ∧ d.inventory.slots = c.inventory.slots ++ [entry] := by
  cases h with
  | act i limit =>
    cases hi : c.members[i]? with
    | none =>
      rw [Crowd.act_of_stranger limit hi]
      exact Or.inl rfl
    | some stance =>
      rw [slots_act limit hi]
      cases he : stance.inHand? with
      | none => exact Or.inl (List.append_nil _)
      | some entry => exact Or.inr ⟨entry, ⟨i, stance, hi, he⟩, rfl⟩
  | _ => exact Or.inl rfl

theorem slots_run {MayCome : Caller → Prop} {MayLeave : Stance ChassisSession Answer → Prop}
    (h : Crowd.Run world MayCome MayLeave c d) : c.inventory.slots <+: d.inventory.slots := by
  induction h with
  | refl => exact List.prefix_rfl
  | tail _ hs ih =>
    rcases slots_step hs with hslots | ⟨entry, -, hslots⟩
    · rwa [hslots]
    · rw [hslots]
      exact ih.trans (List.prefix_append _ _)

/-- How callers share what is known of the slots of a chassis, whatever they do at the same time. -/
structure LooksUpOnce (e : Endpoint) (Looks : Job (Except DriverError Slot) → Prop)
    (world : World σ) (deeds : List (Deed ChassisSession Answer))
    (c : Crowd σ ChassisSession Answer) : Prop where
  /-- No two lookups are on at the same time. -/
  alone : ∀ (i j : Nat) stance other serial serial', c.members[i]? = some stance →
    c.members[j]? = some other → Seeks serial stance → Seeks serial' other → i = j
  /-- A lookup is for what is not known. -/
  missing : ∀ (i : Nat) stance serial, c.members[i]? = some stance → Seeks serial stance →
    c.inventory.slots.lookup serial = none
  /-- A step of a lookup leaves it under way, or finds the slot, fails or crashes. -/
  looked : ∀ deed ∈ deeds, ∀ serial, Seeks serial deed.before → Seeks serial deed.after ∨
    (∃ slot, deed.after.inHand? = some (serial, slot)) ∨ (∃ err, Fails serial err deed) ∨
    ∃ cause, deed.after = .ready (.crashed cause)
  sought : ∀ deed ∈ deeds, ∀ entry, deed.after.inHand? = some entry → Seeks entry.1 deed.before
  /-- No serial number is found twice. -/
  once : ((findings deeds).map (·.1)).Nodup
  /-- What was found is what is known, but for an entry that a caller has yet to make. -/
  booked : ∃ pending : Option (String × Slot),
    findings deeds = c.inventory.slots ++ pending.toList ∧
      ∀ entry, pending = some entry ↔ Enters c entry
  /-- Who is told a slot is told the one that was found. -/
  told : ∀ (i : Nat) (answer : Answer) entry, c.members[i]? = some (.ready (.done answer)) →
    answer.slot? = some entry → c.inventory.slots.lookup entry.1 = some entry.2 ∧
      entry ∈ findings deeds
  /-- Who counted what is known saw no more than is known now. -/
  counted : ∀ (i count : Nat), c.members[i]? = some (.ready (.done (.size count))) →
    count ≤ c.inventory.slots.length
  /-- Who comes away with an error has it from a lookup of its own, or could not connect. -/
  errors : ∀ (i : Nat) serial err,
    c.members[i]? = some (.ready (.done (.slot serial (.error err)))) →
    ∃ deed ∈ deeds, deed.owner = i ∧ (Fails serial err deed ∨ Refused err deed)
  /-- Nothing but an entry that a caller has in hand changes what is known. -/
  changes : ∀ d, Crowd.Step world (Request e Looks) (fun _ => True) c d →
    d.inventory.slots = c.inventory.slots ∨
      ∃ entry, Enters c entry ∧ d.inventory.slots = c.inventory.slots ++ [entry]
  kept : ∀ d, Crowd.Run world (Request e Looks) (fun _ => True) c d →
    c.inventory.slots <+: d.inventory.slots
  /-- Whoever comes for what was not found before looks it up, or another finds it meanwhile. -/
  again : ∀ (i : Nat) serial lookup, c.members[i]? = some (.ready (resolving serial lookup)) →
    serial ∉ (findings deeds).map (·.1) → ∀ more d, Further e Looks world c more d →
      ∀ stance, d.members[i]? = some stance → stance.IsOver → stance ≠ .gone →
        ∃ deed ∈ more, Seeks serial deed.before ∧
          (deed.owner = i ∨ ∃ slot, deed.after.inHand? = some (serial, slot))
  /-- Turns can be given to all, and bring all to their end. -/
  ends : (∃ run, run 0 = c ∧ Fair world run) ∧
    ∀ run, run 0 = c → Fair world run → ∃ n, ∀ stance ∈ (run n).members, stance.IsOver
  /-- The chassis is not asked again for what it found, unless lookups of another kind ask it. -/
  settled : (∀ lookup, Looks lookup → lookup.Only fun call => call.isLookup = false) →
    (deeds.flatMap (·.events)).Pairwise AsksNoMore

theorem looksUpOnce (h : Tale e Looks world scene deeds c) :
    LooksUpOnce e Looks world deeds c := by
  have hp : Placed (fun _ => True) deeds c := placed_tale any_only h
  have hb := booked_tale h any_only
  constructor
  case alone =>
    intro i j stance other serial serial' hi hj hs hs'
    exact hp.alone hi hj (Or.inl ⟨_, hs⟩) (Or.inl ⟨_, hs'⟩)
  case missing =>
    intro i stance serial hi hs
    obtain ⟨footing, -, hplace⟩ := hp.place hi
    exact (hplace.of_seeks hs).2.1
  case looked =>
    intro deed hmem serial hs
    obtain ⟨limit, shared, hafter⟩ := h.after_eq deed hmem
    have hact := hs.act world deed.owner limit shared
    rw [← hafter] at hact
    rcases hact with hon | hfound | ⟨err, hfailed⟩ | hcrashed
    · exact Or.inl hon
    · exact Or.inr (Or.inl hfound)
    · exact Or.inr (Or.inr (Or.inl ⟨err, hs, hfailed⟩))
    · exact Or.inr (Or.inr (Or.inr hcrashed))
  case sought => exact hb.sought
  case once => exact hb.once
  case booked => exact hb.pending
  case told =>
    rintro i answer ⟨serial, slot⟩ hi ha
    obtain ⟨footing, -, hplace⟩ := hp.place hi
    have hslot := hplace.told ha
    refine ⟨hslot, ?_⟩
    obtain ⟨pending, hfound, -⟩ := hb.pending
    obtain ⟨before, after, hslots, -⟩ := List.lookup_eq_some_iff.mp hslot
    simp [hfound, hslots]
  case counted =>
    intro i count hi
    obtain ⟨footing, -, hplace⟩ := hp.place hi
    exact hplace.counted
  case errors =>
    intro i serial err hi
    obtain ⟨footing, -, hplace⟩ := hp.place hi
    obtain ⟨deed, ⟨hmem, howner⟩, hcause⟩ := hplace.error
    exact ⟨deed, hmem, howner, hcause⟩
  case changes => exact fun d hs => slots_step hs
  case kept => exact fun d hrun => slots_run hrun
  case again =>
    intro i serial lookup hi hnew more d hmore stance hd hover hne
    exact sought_again h hi hnew hmore hd hover hne
  case ends =>
    refine ⟨⟨rounds world c, rfl, fair_rounds world c⟩, ?_⟩
    rintro run rfl hfair
    exact hfair.ends h any_only
  case settled => exact fun hother => settled_tale h hother fun _ hcall => hcall

/-- Steps of one caller in a row are a run. -/
theorem run_iterate {MayCome : Caller → Prop} {MayLeave : Stance ChassisSession Answer → Prop}
    (world : World σ) (c : Crowd σ ChassisSession Answer) (i n : Nat) :
    Crowd.Run world MayCome MayLeave c ((Crowd.act world none i)^[n] c) := by
  induction n generalizing c with
  | zero => exact .refl
  | succ n ih => exact .head (.act i none) (ih _)

/-- A lookup that fails, and a blade that is found once, before and after the session was closed. -/
theorem looksUpOnce_of_retry :
    let e : Endpoint := ⟨"10.0.1.1", ⟨"admin", "secret"⟩⟩
    let slot : Slot := ⟨5, by decide, by decide⟩
    let scene : Scene Script := { world := { blades := [("SN2", slot)] } }
    let come : Caller → Nat → Nat → Crowd Script ChassisSession Answer →
        Crowd Script ChassisSession Answer :=
      fun task i turns c => (Crowd.act Script.world none i)^[turns] (c.come task)
    let find : Caller := (Chassis.find e "SN2").bind fun r => .done (.slot "SN2" r)
    let close : Caller := Chassis.close.bind fun r => .done (.closed r)
    let missing : Caller := resolving "SN2" (.done (.error (.bladeNotFound "SN2")))
    let c := come find 3 6 <| come close 2 2 <| come find 1 12 <| come missing 0 8
      { shared := { scene := scene } }
    ∃ deeds, Tale e (fun _ => True) Script.world scene deeds c ∧
      LooksUpOnce e (fun _ => True) Script.world deeds c ∧
      c.inventory.slots = [("SN2", slot)] ∧ c.inventory.lookups = 2 ∧
      c.link.attempts.length = 2 := by
  intro e slot scene come find close missing c
  have hknown : c.inventory.slots = [("SN2", slot)] ∧ c.inventory.lookups = 2 ∧
      c.link.attempts.length = 2 := by
    decide +kernel +revert
  have hcome : ∀ {task : Caller} {d : Crowd Script ChassisSession Answer} (i turns : Nat),
      Request e (fun _ => True) task →
      Crowd.Run Script.world (Request e fun _ => True) (fun stance => stance.inHand? = none)
        { shared := { scene := scene } } d →
      Crowd.Run Script.world (Request e fun _ => True) (fun stance => stance.inHand? = none)
        { shared := { scene := scene } } (come task i turns d) :=
    fun i turns ht hd => (hd.tail (.come _ ht)).trans (run_iterate Script.world _ i turns)
  have hrun : Crowd.Run Script.world (Request e fun _ => True) (fun stance => stance.inHand? = none)
      { shared := { scene := scene } } c :=
    hcome 3 6 (.find "SN2") <| hcome 2 2 .close <| hcome 1 12 (.find "SN2") <|
      hcome 0 8 (.resolve "SN2" trivial) .refl
  obtain ⟨deeds, h⟩ := Crowd.exists_chronicle hrun
  exact ⟨deeds, h, looksUpOnce h, hknown⟩

end Told

end Chassis

end Outband
