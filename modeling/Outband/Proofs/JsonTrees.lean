import Outband.Json.Reader
import Outband.Proofs.Overlay
/-! The trees that JSON text is read as. Members are only ever entered one by one, so that each name
of an object is kept once, in order. A token carries no object, and what is still open is tidy as
far as it has been read. -/

namespace Outband.Json

/-- What the token stands for, if it is a number, is tidy. -/
def Token.Tidy (t : Token) : Prop := ∀ value, t = .number (some value) → value.Tidy

def Frame.Tidy : Frame → Prop
  | .array items => ∀ item ∈ items, item.Tidy
  | .object members _ => Json.Tidy (.object members)

def State.Tidy : State → Prop
  | .awaitValue frames _ => ∀ frame ∈ frames, frame.Tidy
  | .afterValue frames value => (∀ frame ∈ frames, frame.Tidy) ∧ value.Tidy
  | .awaitName frames members _ | .awaitColon frames members _ =>
    (∀ frame ∈ frames, frame.Tidy) ∧ Json.Tidy (.object members)

def Progress.Tidy : Progress → Prop
  | .more state => state.Tidy
  | .complete value => value.Tidy

variable {value : Json} {keep : Bool} {frames : List Frame} {state : State} {progress : Progress}
  {t : Token}

theorem tidy_numberValue {negative : Bool} {whole : Bytes} {fraction : Option Bytes}
    {exponent : Option Int} (h : numberValue negative whole fraction exponent = some value) :
    value.Tidy := by
  unfold numberValue at h
  dsimp only at h
  split at h
  · split at h
    · cases h
      exact .int _
    · split at h
      · obtain ⟨x, -, rfl⟩ := Option.map_eq_some_iff.mp h
        exact .double _ _
      · cases h
        exact .int _
  · obtain ⟨x, -, rfl⟩ := Option.map_eq_some_iff.mp h
    exact .double _ _

theorem tidy_numberToken (bytes : Bytes) : (numberToken bytes).1.Tidy := by
  intro value h
  unfold numberToken at h
  extract_lets at h
  split at h
  · cases h
  · injection h with h
    exact tidy_numberValue h

theorem tidy_token (first : UInt8) (rest : Bytes) : (token first rest).1.Tidy := by
  unfold token
  split
  case h_7 =>
    intro value h
    unfold textToken at h
    split at h
    · cases h
    · split at h <;> cases h
  case h_11 =>
    split
    · exact tidy_numberToken _
    · exact nofun
  all_goals intro value h; (try split at h) <;> cases h

theorem tidy_tokens (bytes : Bytes) : ∀ t ∈ tokens bytes, t.Tidy := by
  fun_induction tokens bytes with
  | case1 => nofun
  | case2 first rest hspace ih => exact ih
  | case3 first rest hspace used hbroken =>
    intro t ht
    obtain rfl := List.mem_singleton.mp ht
    nofun
  | case4 first rest hspace t used hne htoken ih =>
    intro other hother
    rcases List.mem_cons.mp hother with rfl | hother
    · have := tidy_token first rest
      rwa [htoken] at this
    · exact ih other hother

theorem tidy_close (hframes : ∀ frame ∈ frames, frame.Tidy) (hvalue : value.Tidy) :
    (close frames value).Tidy := by
  unfold close
  split
  · exact hvalue
  · exact ⟨hframes, hvalue⟩

theorem tidy_deepen (hstate : state.Tidy) (h : deepen keep frames state = some progress) :
    progress.Tidy := by
  unfold deepen at h
  split at h
  · cases h
  · cases h
    exact hstate

theorem tidy_scalar? (ht : t.Tidy) (h : scalar? keep t = some value) : value.Tidy := by
  cases t with
  | null => cases h; exact .null
  | bool b => cases h; exact .bool b
  | number n =>
    rw [scalar?] at h
    split at h
    · exact ht value (by rw [h])
    · cases h
      exact .null
  | text s =>
    rw [scalar?] at h
    split at h
    · obtain ⟨x, -, rfl⟩ := Option.map_eq_some_iff.mp h
      exact .text x
    · cases h
      exact .null
  | _ => cases h

theorem State.tidy_step (hstate : state.Tidy) (ht : t.Tidy)
    (h : state.step keep t = some progress) : progress.Tidy := by
  cases state with
  | awaitValue frames mayClose =>
    have hframes : ∀ frame ∈ frames, frame.Tidy := hstate
    simp only [State.step] at h
    split at h
    · have hopen : State.Tidy (.awaitValue (.array [] :: frames) true) :=
        List.forall_mem_cons.mpr ⟨nofun, hframes⟩
      exact tidy_deepen hopen h
    · have hopen : State.Tidy (.awaitName frames [] true) := ⟨hframes, .object .nil nofun⟩
      exact tidy_deepen hopen h
    · split at h
      · cases h
        exact tidy_close (List.forall_mem_cons.mp hframes).2 (.array nofun)
      · cases h
    · obtain ⟨value, hvalue, rfl⟩ := Option.map_eq_some_iff.mp h
      exact tidy_close hframes (tidy_scalar? ht hvalue)
  | afterValue frames value =>
    obtain ⟨hframes, hvalue⟩ := hstate
    simp only [State.step] at h
    split at h
    · cases h
      obtain ⟨hitems, houter⟩ := List.forall_mem_cons.mp hframes
      exact List.forall_mem_cons.mpr ⟨List.forall_mem_cons.mpr ⟨hvalue, hitems⟩, houter⟩
    · cases h
      obtain ⟨hmembers, houter⟩ := List.forall_mem_cons.mp hframes
      exact ⟨houter, Json.Tidy.insert hmembers hvalue⟩
    · cases h
      obtain ⟨hitems, houter⟩ := List.forall_mem_cons.mp hframes
      refine tidy_close houter (.array fun item hitem => ?_)
      exact List.forall_mem_cons.mpr ⟨hvalue, hitems⟩ item (List.mem_reverse.mp hitem)
    · cases h
      obtain ⟨hmembers, houter⟩ := List.forall_mem_cons.mp hframes
      exact tidy_close houter (Json.Tidy.insert hmembers hvalue)
    · cases h
  | awaitName frames members mayClose =>
    obtain ⟨hframes, hmembers⟩ := hstate
    simp only [State.step] at h
    split at h
    · cases h
      exact ⟨hframes, hmembers⟩
    · split at h
      · cases h
      · cases h
        exact ⟨hframes, hmembers⟩
    · split at h
      · cases h
        exact tidy_close hframes hmembers
      · cases h
    · cases h
  | awaitColon frames members name =>
    obtain ⟨hframes, hmembers⟩ := hstate
    simp only [State.step] at h
    split at h
    · cases h
      exact List.forall_mem_cons.mpr ⟨hmembers, hframes⟩
    · cases h

theorem tidy_read? {ts rest : List Token} (hstate : state.Tidy) (hts : ∀ t ∈ ts, t.Tidy)
    (h : read? keep state ts = some (value, rest)) : value.Tidy := by
  induction ts generalizing state with
  | nil => cases h
  | cons t ts ih =>
    obtain ⟨ht, hts⟩ := List.forall_mem_cons.mp hts
    rw [read?] at h
    split at h
    · cases h
    · rename_i hstep
      exact ih (State.tidy_step hstate ht hstep) hts h
    · rename_i hstep
      cases h
      exact State.tidy_step hstate ht hstep

theorem tidy_of_parse? {bytes : Bytes} (h : parse? bytes = some value) : value.Tidy := by
  unfold parse? at h
  split at h
  · rename_i hread
    cases h
    have hstart : State.start.Tidy := nofun
    exact tidy_read? hstart (tidy_tokens bytes) hread
  · cases h

end Outband.Json
