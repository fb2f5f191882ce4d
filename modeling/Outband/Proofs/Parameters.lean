import Outband.Proofs.Compilation
import Outband.Proofs.Requests
import Outband.Proofs.SlotGrammar
/-! Targets and the parameters that describe them. A target whose texts say something reads back from
its parameters, whatever parameters it was read from, and so does the device of a command line. -/

namespace Outband

namespace Target

/-- The texts that a target is named by, and their parameters. -/
def texts : Target → List (String × String)
  | .host address | .chassis address | .bladeByPosition address _ => [(hostParam, address)]
  | .bladeBySerial address serial => [(hostParam, address), (serialParam, serial)]

/-- None of its texts is blank. -/
def IsNamed (t : Target) : Prop := ∀ name text, (name, text) ∈ t.texts → Text.trim text ≠ ""

/-- The parameters give all that the target consists of. -/
structure Describes (params : Params) (t : Target) : Prop where
  texts : ∀ name text, (name, text) ∈ t.texts → textParam params name = .ok text
  slot : ∀ address position, t = .bladeByPosition address position →
    slotParam params = .ok position

variable {params : Params} {name text address serial : String} {slot : Slot} {t : Target}
  {kind : Kind}

theorem describes_host (h : textParam params hostParam = .ok address) :
    Describes params (.host address) where
  texts := by simpa [Target.texts] using h
  slot := by simp

theorem describes_chassis (h : textParam params hostParam = .ok address) :
    Describes params (.chassis address) where
  texts := by simpa [Target.texts] using h
  slot := by simp

theorem describes_bladeByPosition (h : textParam params hostParam = .ok address)
    (hslot : slotParam params = .ok slot) : Describes params (.bladeByPosition address slot) := by
  refine ⟨by simpa [Target.texts] using h, fun other position heq => ?_⟩
  cases heq
  exact hslot

theorem describes_bladeBySerial (h : textParam params hostParam = .ok address)
    (hserial : textParam params serialParam = .ok serial) :
    Describes params (.bladeBySerial address serial) := by
  refine ⟨fun name text hmem => ?_, by simp⟩
  rcases List.mem_pair.mp hmem with heq | heq <;> cases heq
  · exact h
  · exact hserial

/-- What is read from parameters is what they describe. -/
theorem ofParams_eq_some_iff :
    ofParams kind params = .ok (some t) ↔ t.kind = kind ∧ Describes params t := by
  constructor
  · intro h
    cases haddress : textParam params hostParam with
    | error e =>
      cases kind <;>
        simp [ofParams, hostOf, chassisOf, bladeByPositionOf, bladeBySerialOf, haddress, bind,
          Except.bind, Functor.map, Except.map] at h
    | ok address =>
      cases kind with
      | host =>
        simp only [ofParams, hostOf, haddress] at h
        cases h
        exact ⟨rfl, describes_host haddress⟩
      | chassis =>
        simp only [ofParams, chassisOf, haddress] at h
        cases h
        exact ⟨rfl, describes_chassis haddress⟩
      | bladeByPosition =>
        simp only [ofParams, bladeByPositionOf, haddress] at h
        cases hslot : slotParam params with
        | error e =>
          rw [hslot] at h
          cases h
        | ok slot =>
          rw [hslot] at h
          cases h
          exact ⟨rfl, describes_bladeByPosition haddress hslot⟩
      | bladeBySerial =>
        simp only [ofParams, bladeBySerialOf, haddress] at h
        cases hserial : textParam params serialParam with
        | error e =>
          rw [hserial] at h
          cases h
        | ok serial =>
          rw [hserial] at h
          cases h
          exact ⟨rfl, describes_bladeBySerial haddress hserial⟩
      | sleep => cases h
  · rintro ⟨rfl, h⟩
    have haddress : textParam params hostParam = .ok t.controller :=
      h.texts hostParam t.controller (by cases t <;> simp [Target.texts, controller])
    cases t with
    | host address =>
      simp only [kind, ofParams, hostOf, haddress]
      rfl
    | chassis address =>
      simp only [kind, ofParams, chassisOf, haddress]
      rfl
    | bladeByPosition address slot =>
      simp only [kind, ofParams, bladeByPositionOf, haddress, h.slot address slot rfl]
      rfl
    | bladeBySerial address serial =>
      have hserial := h.texts serialParam serial (by simp [Target.texts])
      simp only [kind, ofParams, bladeBySerialOf, haddress, hserial]
      rfl

theorem textParam_eq {value : Json} (h : params.lookup name = some value) :
    textParam params name =
      if Text.isBlankText value.plain then
        .error (.invalidParameter name value.plain "must not be empty")
      else .ok value.plain := by
  unfold textParam required
  rw [h]
  rfl

theorem textParam_eq_ok_iff {other : String} (h : params.lookup name = some (.text text)) :
    textParam params name = .ok other ↔ other = text ∧ Text.trim text ≠ "" := by
  rw [textParam_eq h, ne_eq, ← Text.isBlankText_iff, show Json.plain (.text text) = text from rfl]
  cases Text.isBlankText text <;> simp [eq_comm]

/-- A text that is accepted is not blank. -/
theorem trim_of_textParam (h : textParam params name = .ok text) : Text.trim text ≠ "" := by
  cases hlookup : params.lookup name with
  | none =>
    unfold textParam required at h
    rw [hlookup] at h
    cases h
  | some value =>
    rw [textParam_eq hlookup] at h
    split at h
    · cases h
    · rename_i hfull
      cases h
      exact fun hblank => hfull (Text.isBlankText_iff.mpr hblank)

theorem Describes.isNamed (h : Describes params t) : t.IsNamed :=
  fun name text hmem => trim_of_textParam (h.texts name text hmem)

theorem lookup_toParams (hmem : (name, text) ∈ t.texts) :
    t.toParams.lookup name = some (.text text) := by
  cases t with
  | bladeBySerial address serial =>
    rcases List.mem_pair.mp hmem with heq | heq <;> cases heq <;> rfl
  | _ =>
    cases List.mem_singleton.mp hmem
    rfl

theorem slotParam_toParams (address : String) (slot : Slot) :
    slotParam (bladeByPosition address slot).toParams = .ok slot := by
  rw [toParams, slotParam_cons_int, Slot.ofInt_eq_ok_iff.mpr rfl]
  rfl

/-- The parameters of a target describe it. -/
theorem describes_toParams (h : t.IsNamed) : Describes t.toParams t := by
  refine ⟨fun name text hmem => ?_, ?_⟩
  · exact (textParam_eq_ok_iff (lookup_toParams hmem)).mpr ⟨rfl, h name text hmem⟩
  · rintro address slot rfl
    exact slotParam_toParams address slot

/-- A text of the target that is blank is reported. -/
theorem ofParams_toParams_of_blank (h : ¬ t.IsNamed) :
    ∃ name text, (name, text) ∈ t.texts ∧ Text.trim text = "" ∧ ofParams t.kind t.toParams =
      .error (.invalidParameter name text "must not be empty") := by
  have hblank : ∀ {name text}, (name, text) ∈ t.texts → Text.trim text = "" →
      textParam t.toParams name = .error (.invalidParameter name text "must not be empty") := by
    intro name text hmem htext
    rw [textParam_eq (lookup_toParams hmem)]
    exact if_pos (Text.isBlankText_iff.mpr htext)
  have hcontroller : (hostParam, t.controller) ∈ t.texts := by
    cases t <;> simp [texts, controller]
  by_cases haddress : Text.trim t.controller = ""
  · refine ⟨hostParam, t.controller, hcontroller, haddress, ?_⟩
    have hfault := hblank hcontroller haddress
    cases t <;>
      simp only [kind, ofParams, hostOf, chassisOf, bladeByPositionOf, bladeBySerialOf, hfault] <;>
      rfl
  · cases t with
    | bladeBySerial address serial =>
      have hserial : Text.trim serial = "" := by
        by_contra hfull
        refine h fun name text hmem => ?_
        rcases List.mem_pair.mp hmem with heq | heq <;> cases heq
        · exact haddress
        · exact hfull
      refine ⟨serialParam, serial, by simp [texts], hserial, ?_⟩
      have hfault := @hblank serialParam serial (by simp [texts]) hserial
      have hread : textParam (bladeBySerial address serial).toParams hostParam = .ok address :=
        (textParam_eq_ok_iff (lookup_toParams hcontroller)).mpr ⟨rfl, haddress⟩
      simp only [kind, ofParams, bladeBySerialOf, hread, hfault]
      rfl
    | _ =>
      refine absurd (fun name text hmem => ?_) h
      cases List.mem_singleton.mp hmem
      exact haddress

end Target

/-- The target that a command line selects. A slot is given by its text. -/
inductive CommandLine.Selection.Addresses : CommandLine.Selection → Target → Prop
  | host (address : String) : Addresses (.host address) (.host address)
  | chassis (address : String) : Addresses (.chassis address) (.chassis address)
  | bladePosition (address : String) {position : String} {slot : Slot}
      (h : Slot.Reads position.toList slot.number) :
    Addresses (.bladePosition address position) (.bladeByPosition address slot)
  | bladeSerial (address serial : String) :
    Addresses (.bladeSerial address serial) (.bladeBySerial address serial)

namespace CommandLine.Selection

open Target

def address : Selection → String
  | .host address | .chassis address | .bladePosition address _ | .bladeSerial address _ => address

theorem lookup_host_params (selection : Selection) :
    selection.params.lookup hostParam = some (.text selection.address) := by
  cases selection <;> rfl

theorem lookup_position_params (address position : String) :
    (bladePosition address position).params.lookup positionParam = some (.text position) := rfl

/-- The parameters of a selection describe the target that it addresses, and no other. -/
theorem describes_iff (selection : Selection) (t : Target) :
    t.kind = selection.kind ∧ Describes selection.params t ↔
      selection.Addresses t ∧ t.IsNamed := by
  constructor
  · rintro ⟨hkind, h⟩
    refine ⟨?_, h.isNamed⟩
    have haddress : t.controller = selection.address := by
      have hread := h.texts hostParam t.controller (by cases t <;> simp [texts, controller])
      exact ((textParam_eq_ok_iff selection.lookup_host_params).mp hread).1
    cases selection <;> cases t <;> cases hkind <;> cases haddress
    · exact .host _
    · exact .chassis _
    · rename_i position slot
      exact .bladePosition _ ((slotParam_eq_ok_iff (lookup_position_params _ _)).mp (h.slot _ _ rfl))
    · rename_i other serial
      have hread := h.texts serialParam serial (by simp [texts])
      obtain ⟨rfl, -⟩ := (@textParam_eq_ok_iff _ _ other _ rfl).mp hread
      exact .bladeSerial _ _
  · rintro ⟨haddresses, hnamed⟩
    refine ⟨by cases haddresses <;> rfl, ?_⟩
    cases haddresses with
    | host address => exact describes_toParams hnamed
    | chassis address => exact describes_toParams hnamed
    | @bladePosition address position slot h =>
      have haddress := hnamed hostParam address (by simp [texts])
      refine describes_bladeByPosition ((textParam_eq_ok_iff rfl).mpr ⟨rfl, haddress⟩) ?_
      exact (slotParam_eq_ok_iff (lookup_position_params address position)).mpr h
    | bladeSerial address serial => exact describes_toParams hnamed

end CommandLine.Selection

/-- The target that a plan acts on. -/
def Plan.target? : Plan → Option Target
  | .server address _ => some (.host address)
  | .chassis address _ => some (.chassis address)
  | .blade address (.position slot) _ => some (.bladeByPosition address slot)
  | .blade address (.serial serial) _ => some (.bladeBySerial address serial)
  | .sleep _ => none

theorem Plan.target_of_compile {kind : Kind} {params : Params} {tokens : List String} {plan : Plan}
    (h : compile kind params tokens = .ok plan) :
    Target.ofParams kind params = .ok plan.target? := by
  have hmap : ∀ {ω : Type} {steps : Except Error (List (Step ω))} {make : List (Step ω) → Plan},
      make <$> steps = .ok plan → ∃ steps, make steps = plan := by
    intro ω steps make h
    cases steps with
    | error e => cases h
    | ok steps => exact ⟨steps, Except.ok.inj h⟩
  unfold compile at h
  cases htarget : Target.ofParams kind params with
  | error e =>
    rw [htarget] at h
    cases h
  | ok target =>
    rw [htarget] at h
    cases target with
    | none =>
      obtain ⟨steps, rfl⟩ := hmap h
      rfl
    | some target =>
      cases target <;>
        · obtain ⟨steps, rfl⟩ := hmap h
          rfl

/-- A target whose texts say something reads back from its parameters, and one with a blank text is
refused for it. What any parameters describe reads back as well. The device of a command line is read
as the target that it addresses, a slot as the number of its text, and tokens that resolve make a
plan that acts on it. -/
theorem Target.reads_back :
    (∀ t : Target, (t.IsNamed → ofParams t.kind t.toParams = .ok (some t)) ∧
      (¬ t.IsNamed → ∃ name text, (name, text) ∈ t.texts ∧ Text.trim text = "" ∧
        ofParams t.kind t.toParams =
          .error (.invalidParameter name text "must not be empty"))) ∧
    (∀ (kind : Kind) (params : Params) (t : Target), ofParams kind params = .ok (some t) →
      t.kind = kind ∧ ofParams kind t.toParams = .ok (some t)) ∧
    ∀ (selection : CommandLine.Selection) (t : Target),
      (ofParams selection.kind selection.params = .ok (some t) ↔
        selection.Addresses t ∧ t.IsNamed) ∧
      ∀ tokens, (∀ token ∈ tokens, Resolves selection.kind token) →
        ((∃ plan, Plan.compile selection.kind selection.params tokens = .ok plan ∧
          plan.target? = some t) ↔ selection.Addresses t ∧ t.IsNamed) := by
  have hback : ∀ t : Target, t.IsNamed → ofParams t.kind t.toParams = .ok (some t) :=
    fun t h => ofParams_eq_some_iff.mpr ⟨rfl, describes_toParams h⟩
  refine ⟨fun t => ⟨hback t, ofParams_toParams_of_blank⟩, ?_, fun selection t => ?_⟩
  · intro kind params t h
    obtain ⟨rfl, hdescribes⟩ := ofParams_eq_some_iff.mp h
    exact ⟨rfl, hback t hdescribes.isNamed⟩
  · have hselected : ofParams selection.kind selection.params = .ok (some t) ↔
        selection.Addresses t ∧ t.IsNamed :=
      ofParams_eq_some_iff.trans (selection.describes_iff t)
    refine ⟨hselected, fun tokens hresolve => ?_⟩
    rw [← hselected]
    constructor
    · rintro ⟨plan, hplan, htarget⟩
      rw [Plan.target_of_compile hplan, htarget]
    · intro htarget
      obtain ⟨plan, hplan⟩ := Plan.exists_compile htarget hresolve
      rw [Plan.target_of_compile hplan] at htarget
      exact ⟨plan, hplan, Except.ok.inj htarget⟩

end Outband
