import Outband.Proofs.BladeSession
import Outband.Proofs.Course
/-! What each step of a run on a chassis, or on a blade in it, does and comes to. A blade is looked
up by the first step that has a session and does not know the slot. -/

namespace Outband

namespace Chassis

/-- What an attempt to connect to a chassis controller asks, and comes to. -/
inductive Attempted (e : Endpoint) : List Event → Except DriverError ChassisSession → Prop
  | opened : Attempted e
      [.called (.connectChassis e), .ended (.connectChassis e) (.returns (.ok ()))] (.ok ⟨e⟩)
  | refused (cause : DriverError) : Attempted e
      [.called (.connectChassis e), .ended (.connectChassis e) (.returns (.error cause))]
      (.error cause)

theorem connect_attempted (world : World σ) (e : Endpoint) (s : Scene σ) :
    Concludes world (Attempted e) s ((connect e).carry world none s) := by
  refine concludes_ask fun answer => ?_
  cases answer with
  | ok opened => exact concludes_done .opened
  | error cause => exact concludes_done (.refused cause)

/-- An action on a chassis is one call. -/
inductive Serving (session : ChassisSession) (token : String) :
    ChassisOp → List Event → ActionResult → Prop
  | operated (op : ChassisOp) (answer : Except DriverError Bool) :
    Serving session token op
      [.called (.chassis session op), .ended (.chassis session op) (.returns answer)]
      (.ofStatus token answer)

def manner (e : Endpoint) : Manner ChassisSession Unit ChassisOp where
  Attempted := Attempted e
  Serving _ session _ token op events result _ := Serving session token op events result
  token_eq h := by
    cases h with
    | operated answer => exact token_ofStatus _ answer

theorem follows (world : World σ) (e : Endpoint) :
    (Executor.chassis e).Follows world (connect e) (manner e) fun _ _ => True where
  enters _ _ := ⟨_, rfl, fun _ => rfl⟩
  attempts := connect_attempted world e
  serves token op c session known origin start hphase _ _ _ := by
    rw [show (Executor.chassis e).perform token op = .enter (connect e) _ from rfl,
      carry_enter_connected _ _ hphase]
    refine comes_call fun answer => comes_done ?_
    exact ⟨hphase, (), trivial, fun _ _ => .operated op answer⟩
  closes hphase := (chassis_keeps e).comes_close hphase

end Chassis

/-- The slot as far as it is known without a lookup. -/
def Locator.slot? : Locator → Option Slot
  | .position slot => some slot
  | .serial _ => none

namespace Blade

/-- What an action on a blade does with the open session and the slot that is known, if one is, and
comes to. What it finds out is known then. -/
inductive Serving (locator : Locator) (session : ChassisSession) (token : String) (op : BladeOp) :
    Option Slot → List Event → ActionResult → Option Slot → Prop
  | known (slot : Slot) (answer : Except DriverError Bool) :
    Serving locator session token op (some slot)
      [.called (.blade session op slot), .ended (.blade session op slot) (.returns answer)]
      (.ofStatus token answer) (some slot)
  | found {serial : String} (h : locator = .serial serial) (slot : Slot)
      (answer : Except DriverError Bool) :
    Serving locator session token op none
      [.called (.findBlade session serial),
        .ended (.findBlade session serial) (.returns (.ok slot)),
        .called (.blade session op slot), .ended (.blade session op slot) (.returns answer)]
      (.ofStatus token answer) (some slot)
  | lost {serial : String} (h : locator = .serial serial) (cause : DriverError) :
    Serving locator session token op none
      [.called (.findBlade session serial),
        .ended (.findBlade session serial) (.returns (.error cause))]
      (.failed token (.driver cause)) none

def manner (e : Endpoint) (locator : Locator) : Manner ChassisSession (Option Slot) BladeOp where
  Attempted := Chassis.Attempted e
  Serving _ session known token op events result after :=
    Serving locator session token op known events result after
  token_eq h := by
    cases h with
    | known slot answer | found _ slot answer => exact token_ofStatus _ answer
    | lost => rfl

/-- The slot is known from the plan, or it is what is remembered for the serial number. -/
def Knows : Locator → Option Slot → Inventory → Prop
  | .position slot, known, _ => known = some slot
  | .serial serial, known, inventory => inventory.lock = {} ∧ inventory.slot? serial = known

section Following

variable {world : World σ} {e : Endpoint} {token : String} {op : BladeOp}
  {c : Connection σ ChassisSession} {session : ChassisSession}

/-- In a slot that is known the blade is asked at once. -/
theorem comes_position (slot : Slot) (hphase : c.link.phase = .connected session) :
    Comes world (fun result events d => ∃ answer, d = c.after world (.blade session op slot) ∧
        events = [.called (.blade session op slot),
          .ended (.blade session op slot) (.returns answer)] ∧
        result = .ofStatus token answer) c
      (((Executor.blade e (.position slot)).perform token op).carry world 0 none c) := by
  rw [position_perform world none slot hphase]
  exact comes_call fun answer => comes_done ⟨answer, rfl, rfl, rfl⟩

theorem comes_serving (locator : Locator) (token : String) (op : BladeOp) {known : Option Slot}
    (hphase : c.link.phase = .connected session) (hknows : Knows locator known c.inventory) :
    Comes world (fun result events d => d.link.phase = .connected session ∧
        ∃ after, Knows locator after d.inventory ∧
          Serving locator session token op known events result after) c
      (((Executor.blade e locator).perform token op).carry world 0 none c) := by
  cases locator with
  | position slot =>
    obtain rfl : known = some slot := hknows
    refine (comes_position slot hphase).mono ?_
    rintro _ _ d ⟨answer, rfl, rfl, rfl⟩
    exact ⟨hphase, some slot, rfl, .known slot answer⟩
  | serial serial =>
    obtain ⟨hlock, hslot⟩ := hknows
    cases known with
    | some slot =>
      rw [serial_perform_known world none hphase hlock hslot]
      refine (comes_position slot hphase).mono ?_
      rintro _ _ d ⟨answer, rfl, rfl, rfl⟩
      exact ⟨hphase, some slot, ⟨hlock, hslot⟩, .known slot answer⟩
    | none =>
      have hleads := c.scene.leads_after world (.findBlade session serial)
      rw [serial_perform_unknown world hphase hlock hslot]
      dsimp only
      cases houtcome : (world (.findBlade session serial) c.scene.world).1.outcome with
      | crashes => exact Or.inl ⟨_, rfl⟩
      | returns answer =>
        rw [houtcome] at hleads
        cases answer with
        | error cause => exact Or.inr ⟨_, _, _, rfl, hleads, hphase, none, ⟨hlock, hslot⟩,
            .lost rfl cause⟩
        | ok slot =>
          have hknown := known_of_remember hlock hslot world (.findBlade session serial) slot
          have hopen : ((c.lookedUp world (.findBlade session serial)).remember serial
              slot).link.phase = .connected session := hphase
          refine Comes.after_events ((comes_position slot hopen).mono ?_) hleads
          rintro _ _ d ⟨answer, rfl, rfl, rfl⟩
          exact ⟨hphase, some slot, hknown, .found rfl slot answer⟩

end Following

theorem follows (world : World σ) (e : Endpoint) (locator : Locator) :
    (Executor.blade e locator).Follows world (Chassis.connect e) (manner e locator)
      (Knows locator) where
  enters := perform_enters e locator
  attempts := Chassis.connect_attempted world e
  serves token op c session known origin start hphase hknows _ _ := by
    refine (comes_serving locator token op hphase hknows).mono fun result events d h => ?_
    obtain ⟨hopen, after, hafter, hserving⟩ := h
    exact ⟨hopen, after, hafter, fun _ _ => hserving⟩
  closes hphase := (blade_keeps e locator).comes_close hphase

theorem knows_slot? (locator : Locator) : Knows locator locator.slot? {} := by
  cases locator with
  | position slot => rfl
  | serial serial => exact ⟨rfl, rfl⟩

end Blade

namespace Sleep

/-- A plan of sleeps has no target to connect to, and no actions. -/
def manner : Manner Unit Unit Empty where
  Attempted events outcome := events = [] ∧ outcome = .ok ()
  Serving _ _ _ _ _ _ _ _ := False
  token_eq h := h.elim

theorem follows (world : World σ) :
    Executor.sleep.Follows world (.done (.ok ())) manner fun _ _ => True where
  enters _ op := op.elim
  attempts _ := concludes_done ⟨rfl, rfl⟩
  serves _ op := op.elim
  closes _ := comes_done (by simp [About])

end Sleep

end Outband
