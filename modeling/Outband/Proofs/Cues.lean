import Outband.Rehearsal
/-! A script answers a call by the cues of its key alone, so that the lookup of a blade changes no
other answer. -/

namespace Outband

namespace Call

/-- The call asks for the slot of a blade. -/
def isLookup : Call → Bool
  | .findBlade .. => true
  | _ => false

def lookupKey : String := "blade.find"

theorem key_ne_lookupKey {call : Call} (h : call.isLookup = false) : call.key ≠ lookupKey := by
  cases call <;> simp only [key]
  case findBlade => cases h
  case server session op =>
    generalize session.backend = backend
    cases backend <;> cases op <;> decide
  case capture session | closeServer session =>
    generalize session.backend = backend
    cases backend <;> decide
  case chassis _ op | blade _ op _ => cases op <;> decide
  all_goals decide

end Call

namespace Script

theorem lookup_setCues_of_ne {key other : String} (h : other ≠ key) (rest : List Cue)
    (cues : List (String × List Cue)) :
    (setCues key rest cues).lookup other = cues.lookup other := by
  induction cues with
  | nil => rfl
  | cons entry more ih =>
    obtain ⟨k, found⟩ := entry
    rw [setCues]
    by_cases hk : k = key
    · subst hk
      have hother : (other == k) = false := by simpa using h
      simp [List.lookup_cons, hother]
    · simp [hk, List.lookup_cons, ih]

theorem lookup_setCues_self {key : String} (rest : List Cue) {cues : List (String × List Cue)}
    (h : (cues.lookup key).isSome) : (setCues key rest cues).lookup key = some rest := by
  induction cues with
  | nil => cases h
  | cons entry more ih =>
    obtain ⟨k, found⟩ := entry
    rw [setCues]
    by_cases hk : k = key
    · simp [hk]
    · have hkey : (key == k) = false := by simpa using Ne.symm hk
      simp only [List.lookup_cons, hkey] at h
      simp [hk, List.lookup_cons, hkey, ih h]

variable {s t : Script} {key : String}

theorem take_blades (s : Script) (key : String) : (s.take key).2.blades = s.blades := by
  unfold take
  split <;> rfl

theorem take_driver (s : Script) (key : String) : (s.take key).2.driver = s.driver := by
  unfold take
  split <;> rfl

/-- A cue that is used up leaves those of the other keys. -/
theorem lookup_take_of_ne {other : String} (h : other ≠ key) :
    (s.take key).2.cues.lookup other = s.cues.lookup other := by
  unfold take
  split
  · rfl
  · rfl
  · rfl
  · exact lookup_setCues_of_ne h _ _

theorem take_eq_of_lookup_eq {other : String} (h : t.cues.lookup other = s.cues.lookup key) :
    (t.take other).1 = (s.take key).1 ∧
      (t.take other).2.cues.lookup other = (s.take key).2.cues.lookup key := by
  unfold take
  rw [h]
  cases hcues : s.cues.lookup key with
  | none => exact ⟨rfl, by rw [h, hcues]⟩
  | some cues =>
    rw [hcues] at h
    match cues with
    | [] => exact ⟨rfl, by rw [h, hcues]⟩
    | [cue] => exact ⟨rfl, by rw [h, hcues]⟩
    | cue :: second :: rest =>
      refine ⟨rfl, ?_⟩
      rw [lookup_setCues_self _ (by simp [h]), lookup_setCues_self _ (by simp [hcues])]

theorem answer_congr (hblades : t.blades = s.blades) (hdriver : t.driver = s.driver) (cue : Cue)
    (call : Call) : t.answer cue call = s.answer cue call := by
  cases call <;> simp only [answer, hblades, hdriver]

theorem outcome_congr {call : Call} (hcue : (t.take call.key).1 = (s.take call.key).1)
    (hblades : t.blades = s.blades) (hdriver : t.driver = s.driver) :
    (world call t).1.outcome = (world call s).1.outcome := by
  have hanswer : ∀ cue, (t.take call.key).2.answer cue call = (s.take call.key).2.answer cue call :=
    fun cue => answer_congr (by rw [take_blades, take_blades, hblades])
      (by rw [take_driver, take_driver, hdriver]) cue call
  simp only [world, hcue]
  cases (s.take call.key).1 <;> simp only [hanswer]

/-- The scripts differ at most in what they have left for lookups. -/
structure Agree (s t : Script) : Prop where
  cues : ∀ {key : String}, key ≠ Call.lookupKey → t.cues.lookup key = s.cues.lookup key
  blades : t.blades = s.blades
  driver : t.driver = s.driver

theorem Agree.take (h : Agree s t) (hkey : key ≠ Call.lookupKey) :
    (t.take key).1 = (s.take key).1 ∧ Agree (s.take key).2 (t.take key).2 := by
  obtain ⟨hcue, hself⟩ := take_eq_of_lookup_eq (h.cues hkey)
  refine ⟨hcue, fun {other} hother => ?_, ?_, ?_⟩
  · by_cases hsame : other = key
    · rw [hsame, hself]
    · rw [lookup_take_of_ne hsame, lookup_take_of_ne hsame, h.cues hother]
  · rw [take_blades, take_blades, h.blades]
  · rw [take_driver, take_driver, h.driver]

/-- Scripts that agree answer every other call alike, and go on to agree. -/
theorem Agree.world {call : Call} (h : Agree s t) (hcall : call.isLookup = false) :
    (Script.world call t).1.outcome = (Script.world call s).1.outcome ∧
      Agree (Script.world call s).2 (Script.world call t).2 := by
  obtain ⟨hcue, hagree⟩ := h.take (Call.key_ne_lookupKey hcall)
  exact ⟨outcome_congr hcue h.blades h.driver, hagree⟩

theorem agree_lookup (s : Script) (session : ChassisSession) (serial : String) :
    Agree s (world (.findBlade session serial) s).2 where
  cues hkey := lookup_take_of_ne hkey
  blades := take_blades s _
  driver := take_driver s _

/-- A lookup is answered as if no other call had come before it. -/
theorem lookup_outcome {call : Call} (hcall : call.isLookup = false) (session : ChassisSession)
    (serial : String) :
    (world (.findBlade session serial) (world call s).2).1.outcome =
      (world (.findBlade session serial) s).1.outcome := by
  have hcues : (world call s).2.cues.lookup Call.lookupKey = s.cues.lookup Call.lookupKey :=
    lookup_take_of_ne (Call.key_ne_lookupKey hcall).symm
  exact outcome_congr (take_eq_of_lookup_eq hcues).1 (take_blades s _) (take_driver s _)

end Script

end Outband
