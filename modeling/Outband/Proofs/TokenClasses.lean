import Outband.Proofs.Compilation
import Outband.Proofs.DurationText
import Outband.Proofs.Occurrences
/-! Which tokens are actions, which are sleeps and which are neither. Only a token that the keyword
opens can be a sleep that lasts, however often the keyword occurs in it. -/

namespace Outband

/-- The token starts with the word for a sleep and has the keyword somewhere. -/
def SaysSleep (token : String) : Prop :=
  sleepWord <+: token.toList ∧ sleepKeyword <:+: token.toList

/-- The keyword, and then the text of a duration of that many nanoseconds. -/
def SleepsFor (token : String) (nanos : Nat) : Prop :=
  ∃ text, token = "sleep " ++ text ∧ Duration.parse text = .ok nanos

namespace Duration

/-- A duration starts with a sign, or as a term does. -/
theorem Means.head {c : Char} {rest : List Char} {nanos : Nat} (h : Means (c :: rest) nanos) :
    c = '+' ∨ c = '-' ∨ inUnit c = false := by
  generalize hs : c :: rest = s at h
  cases h with
  | zero hsign =>
    cases hsign with
    | none =>
      obtain ⟨rfl, -⟩ := List.cons.inj hs
      exact Or.inr (Or.inr rfl)
    | plus => exact Or.inl (List.cons.inj hs).1
    | minus => exact Or.inr (Or.inl (List.cons.inj hs).1)
  | series hsign hbody hne hsum =>
    cases hsign with
    | none =>
      rw [List.nil_append] at hs
      exact Or.inr (Or.inr (hbody.resumes c (by simp [← hs])))
    | plus => exact Or.inl (List.cons.inj hs).1
    | minus => exact Or.inr (Or.inl (List.cons.inj hs).1)

theorem input_of_parse {text : String} {cause : DurationError} (h : parse text = .error cause) :
    cause.input = text := by
  rw [parse] at h
  cases hparse : parseChars text.toList <;> rw [hparse] at h <;> cases h
  rfl

theorem means_of_parse {text : String} {nanos : Nat} (h : parse text = .ok nanos) :
    Means text.toList nanos := by
  rw [parse] at h
  cases hparse : parseChars text.toList <;> rw [hparse] at h <;> cases h
  exact parseChars_eq_ok_iff.mp hparse

end Duration

section Sleeping

variable {token : String} {before after : List Char} {nanos : Nat}

theorem isSleep_iff : isSleep token ↔ SaysSleep token := by
  simp [isSleep, SaysSleep, contains_iff_isInfix]

theorem sleepDuration_of_firstAt (h : FirstAt sleepKeyword token.toList before after) :
    sleepDuration token = Duration.parse (String.ofList (before ++ after)) := by
  rw [sleepDuration, removeFirst_of_firstAt (by decide) h]

theorem firstAt_of_keyword {text : String} (h : token = "sleep " ++ text) :
    FirstAt sleepKeyword token.toList [] text.toList := by
  rw [h, String.toList_append]
  exact firstAt_start sleepKeyword text.toList

theorem saysSleep_of_keyword {text : String} (h : token = "sleep " ++ text) : SaysSleep token := by
  have hsplit : token.toList = sleepKeyword ++ text.toList := (firstAt_of_keyword h).split
  rw [SaysSleep, hsplit]
  exact ⟨⟨' ' :: text.toList, rfl⟩, (List.prefix_append _ _).isInfix⟩

/-- A token whose first keyword is not at its start keeps the word that it starts with, when the
keyword is taken out, and no duration starts with a letter of a unit. -/
theorem not_sleeps_of_firstAt (hword : sleepWord <+: token.toList)
    (h : FirstAt sleepKeyword token.toList before after) (hne : before ≠ []) :
    sleepDuration token ≠ .ok nanos := by
  obtain ⟨c, rest, rfl⟩ := List.exists_cons_of_ne_nil hne
  obtain ⟨later, hlater⟩ := hword
  have hletter : c = 's' := (List.cons.inj (hlater.trans h.split)).1.symm
  rw [sleepDuration_of_firstAt h]
  intro hparse
  have hmeans := Duration.means_of_parse hparse
  rw [String.toList_ofList, List.cons_append] at hmeans
  rw [hletter] at hmeans
  rcases hmeans.head with hhead | hhead | hhead <;> revert hhead <;> decide

/-- A sleep has a length just when the keyword opens it and a duration follows. -/
theorem sleeps_iff : SaysSleep token ∧ sleepDuration token = .ok nanos ↔ SleepsFor token nanos := by
  constructor
  · rintro ⟨⟨hword, hkeyword⟩, hduration⟩
    obtain ⟨before, after, hfirst⟩ := exists_firstAt hkeyword
    cases before with
    | nil =>
      rw [sleepDuration_of_firstAt hfirst] at hduration
      refine ⟨String.ofList after, ?_, hduration⟩
      have hsplit : token.toList = sleepKeyword ++ after := hfirst.split
      rw [← String.toList_inj, String.toList_append, String.toList_ofList, hsplit]
      simp [sleepKeyword]
    | cons c before =>
      exact absurd hduration (not_sleeps_of_firstAt hword hfirst (List.cons_ne_nil c before))
  · rintro ⟨text, htoken, hparse⟩
    refine ⟨saysSleep_of_keyword htoken, ?_⟩
    rw [sleepDuration_of_firstAt (firstAt_of_keyword htoken), List.nil_append,
      String.ofList_toList, hparse]

end Sleeping

section Classifying

variable {token : String} {action : Action}

/-- What a token is, by what it says. -/
theorem classify_cases (token : String) :
    (∃ action : Action, token = action.token ∧ ¬ SaysSleep token ∧
        classify token = .known action) ∨
      (∀ action : Action, token ≠ action.token) ∧
        (SaysSleep token ∧ classify token = .sleep (sleepDuration token) ∨
          ¬ SaysSleep token ∧ classify token = .unknown) := by
  unfold classify
  cases haction : Action.ofToken? token with
  | some action =>
    obtain rfl := Action.ofToken?_eq_some_iff.mp haction
    have hawake : ¬ SaysSleep action.token := by simp [← isSleep_iff, action.isSleep_token]
    exact Or.inl ⟨action, rfl, hawake, rfl⟩
  | none =>
    have hno := Action.ofToken?_eq_none_iff.mp haction
    refine Or.inr ⟨fun action => (hno action).symm, ?_⟩
    by_cases hsleep : SaysSleep token
    · exact Or.inl ⟨hsleep, if_pos (isSleep_iff.mpr hsleep)⟩
    · exact Or.inr ⟨hsleep, if_neg (by rwa [isSleep_iff])⟩

theorem classify_eq_known_iff : classify token = .known action ↔ token = action.token := by
  rcases classify_cases token with
    ⟨other, rfl, -, hknown⟩ | ⟨hno, ⟨-, hsleep⟩ | ⟨-, hunknown⟩⟩
  · rw [hknown, Classification.known.injEq]
    exact ⟨fun h => by rw [h], Action.token_injective⟩
  · simp [hsleep, hno action]
  · simp [hunknown, hno action]

theorem classify_eq_sleep_iff {duration : Except DurationError Nat} :
    classify token = .sleep duration ↔ SaysSleep token ∧ sleepDuration token = duration := by
  rcases classify_cases token with
    ⟨action, rfl, hawake, hknown⟩ | ⟨hno, ⟨hsaid, hsleep⟩ | ⟨hawake, hunknown⟩⟩
  · simp [hknown, hawake]
  · simp [hsleep, hsaid]
  · simp [hunknown, hawake]

theorem classify_eq_unknown_iff :
    classify token = .unknown ↔ (∀ action : Action, token ≠ action.token) ∧ ¬ SaysSleep token := by
  rcases classify_cases token with
    ⟨action, rfl, -, hknown⟩ | ⟨hno, ⟨hsaid, hsleep⟩ | ⟨hawake, hunknown⟩⟩
  · rw [hknown]
    exact ⟨nofun, fun h => absurd rfl (h.1 action)⟩
  · simp [hsleep, hsaid]
  · simp [hunknown, hno, hawake]

/-- A token that says sleep has no length just when it is of no other form than that. -/
theorem exists_malformed_iff :
    (∃ cause, classify token = .sleep (.error cause)) ↔
      SaysSleep token ∧ ¬ ∃ nanos, SleepsFor token nanos := by
  simp only [classify_eq_sleep_iff, ← sleeps_iff]
  constructor
  · rintro ⟨cause, hsaid, hcause⟩
    simp [hsaid, hcause]
  · rintro ⟨hsaid, hno⟩
    cases hduration : sleepDuration token with
    | ok nanos => exact absurd ⟨nanos, hsaid, hduration⟩ hno
    | error cause => exact ⟨cause, hsaid, rfl⟩

/-- What a malformed sleep is reported with is the token without its first keyword. -/
theorem input_of_malformed {cause : DurationError} {before after : List Char}
    (h : classify token = .sleep (.error cause))
    (hfirst : FirstAt sleepKeyword token.toList before after) :
    cause.input = String.ofList (before ++ after) := by
  have hduration := (classify_eq_sleep_iff.mp h).2
  rw [sleepDuration_of_firstAt hfirst] at hduration
  exact Duration.input_of_parse hduration

/-- Every token is of one class, and which one can be told from its text: a word of the vocabulary,
the keyword and a duration, anything else that says sleep, or none of them. When the keyword comes
first in the middle of a token, the token is no sleep that lasts, whatever follows. -/
theorem classify_partition (token : String) :
    (∀ action, classify token = .known action ↔ token = action.token) ∧
    (∀ nanos, classify token = .sleep (.ok nanos) ↔ SleepsFor token nanos) ∧
    ((∃ cause, classify token = .sleep (.error cause)) ↔
      SaysSleep token ∧ ¬ ∃ nanos, SleepsFor token nanos) ∧
    (∀ cause, classify token = .sleep (.error cause) →
      ∃ before after, FirstAt sleepKeyword token.toList before after ∧
        cause.input = String.ofList (before ++ after)) ∧
    (classify token = .unknown ↔
      (∀ action : Action, token ≠ action.token) ∧ ¬ SaysSleep token) ∧
    (∀ before after, FirstAt sleepKeyword token.toList before after → before ≠ [] →
      (∀ nanos, classify token ≠ .sleep (.ok nanos)) ∧
        (sleepWord <+: token.toList → ∃ cause, classify token = .sleep (.error cause))) ∧
    ∀ action : Action, ¬ SaysSleep action.token := by
  refine ⟨fun _ => classify_eq_known_iff, fun nanos => classify_eq_sleep_iff.trans sleeps_iff,
    exists_malformed_iff, ?_, classify_eq_unknown_iff, ?_, ?_⟩
  · intro cause hcause
    obtain ⟨before, after, hfirst⟩ := exists_firstAt (classify_eq_sleep_iff.mp hcause).1.2
    exact ⟨before, after, hfirst, input_of_malformed hcause hfirst⟩
  · intro before after hfirst hne
    have hnone : ∀ nanos, classify token ≠ .sleep (.ok nanos) := by
      intro nanos hsleep
      obtain ⟨⟨hword, -⟩, hduration⟩ := classify_eq_sleep_iff.mp hsleep
      exact not_sleeps_of_firstAt hword hfirst hne hduration
    refine ⟨hnone, fun hword => ?_⟩
    have hsaid : SaysSleep token := ⟨hword, before, after, by simp [hfirst.split]⟩
    cases hduration : sleepDuration token with
    | ok nanos => exact absurd (classify_eq_sleep_iff.mpr ⟨hsaid, hduration⟩) (hnone nanos)
    | error cause => exact ⟨cause, classify_eq_sleep_iff.mpr ⟨hsaid, hduration⟩⟩
  · intro action
    simp [← isSleep_iff, action.isSleep_token]

/-- Only the first keyword is taken out, and the second one is left to the reader of durations. -/
example : classify "sleepsleep 5s" = .sleep (.error ⟨"sleep5s", .invalid⟩) := by cbv

end Classifying

end Outband
