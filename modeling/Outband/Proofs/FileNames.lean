import Outband.Screenshot
import Outband.Proofs.SlotGrammar
/-! What the file names of screenshots tell. Hyphens may stand in every text that a name is made of, so
that a name can be read back only from texts without some of them. -/

namespace Outband.Screenshot

variable {host hardware extension host' hardware' extension' : String} {seconds seconds' : Int}

theorem toList_fileName (host hardware extension : String) (seconds : Int) :
    (fileName host hardware extension seconds).toList =
      host.toList ++ '-' :: hardware.toList ++ '-' :: (toString seconds).toList ++
        '.' :: extension.toList := by simp [fileName]

theorem mem_toString {c : Char} {n : Int} (h : c ∈ (toString n).toList) :
    c = '-' ∨ c.isDigit := by
  rw [Slot.toList_toString] at h
  rcases List.mem_append.mp h with hsign | hdigit
  · split at hsign
    · exact Or.inl (by simpa using hsign)
    · cases hsign
  · exact Or.inr ((Slot.areDigits_toDigits n.natAbs).2 c hdigit)

theorem slash_notMem_fileName (hhost : '/' ∉ host.toList) (hhardware : '/' ∉ hardware.toList)
    (hextension : '/' ∉ extension.toList) :
    '/' ∉ (fileName host hardware extension seconds).toList := by
  have hseconds : '/' ∉ (toString seconds).toList := fun h => by simpa using mem_toString h
  rw [toList_fileName]
  simp only [List.mem_append, List.mem_cons, hhost, hhardware, hextension, hseconds, or_false,
    false_or]
  decide

/-- A name has a hyphen, which none of the names has that lead nowhere or up. -/
theorem fileName_ne {text : String} (h : '-' ∉ text.toList) :
    fileName host hardware extension seconds ≠ text := by
  rintro rfl
  rw [toList_fileName] at h
  simp at h

/-- Where no separator follows, the last one is found. -/
theorem append_cons_inj {α : Type} {before before' after after' : List α} {separator : α}
    (h : separator ∉ after) (h' : separator ∉ after')
    (heq : before ++ separator :: after = before' ++ separator :: after') :
    before = before' ∧ after = after' := by
  rcases List.append_eq_append_iff.mp heq with ⟨middle, hbefore, hrest⟩ | ⟨middle, hbefore, hrest⟩
  · cases middle with
    | nil => exact ⟨by simpa using hbefore.symm, (List.cons.inj hrest).2⟩
    | cons first middle =>
      rw [List.cons_append] at hrest
      refine absurd ?_ h
      rw [(List.cons.inj hrest).2]
      simp
  · cases middle with
    | nil => exact ⟨by simpa using hbefore, (List.cons.inj hrest).2.symm⟩
    | cons first middle =>
      rw [List.cons_append] at hrest
      refine absurd ?_ h'
      rw [(List.cons.inj hrest).2]
      simp

theorem hyphen_notMem_toDigits (n : Nat) : '-' ∉ Nat.toDigits 10 n := fun h => by
  cases (Slot.areDigits_toDigits n).2 '-' h

theorem toDigits_inj {m n : Nat} (h : Nat.toDigits 10 m = Nat.toDigits 10 n) : m = n := by
  rw [← @Nat.ofDigitChars_ten_toDigits m, h, Nat.ofDigitChars_ten_toDigits]

/-- A sign is one more hyphen. -/
def sign (seconds : Int) : List Char := if seconds < 0 then ['-'] else []

theorem sign_inj_iff : (sign seconds = sign seconds') ↔ (seconds < 0 ↔ seconds' < 0) := by
  unfold sign
  by_cases hneg : seconds < 0 <;> by_cases hneg' : seconds' < 0 <;> simp [hneg, hneg']

/-- Of seconds behind a hyphen the amount is read back. The sign cannot be told from a hyphen at the
end of the text before them. -/
theorem append_seconds_inj {before before' : List Char}
    (h : before ++ '-' :: (toString seconds).toList =
      before' ++ '-' :: (toString seconds').toList) :
    before ++ sign seconds = before' ++ sign seconds' ∧ seconds.natAbs = seconds'.natAbs := by
  have hsigned (before : List Char) (n : Int) : before ++ '-' :: (toString n).toList =
      (before ++ sign n) ++ '-' :: Nat.toDigits 10 n.natAbs := by
    rw [Slot.toList_toString, sign]
    by_cases hneg : n < 0 <;> simp [hneg]
  rw [hsigned, hsigned] at h
  obtain ⟨hbefore, hdigits⟩ :=
    append_cons_inj (hyphen_notMem_toDigits _) (hyphen_notMem_toDigits _) h
  exact ⟨hbefore, toDigits_inj hdigits⟩

/-- Where the texts of two names agree that come last, and so do the signs of the seconds, all texts
agree if the names do. -/
theorem fileName_inj_of_same (hsign : seconds < 0 ↔ seconds' < 0)
    (h : fileName host hardware extension seconds = fileName host' hardware extension seconds') :
    host = host' ∧ seconds = seconds' := by
  have hlist := congrArg String.toList h
  rw [toList_fileName, toList_fileName] at hlist
  obtain ⟨hbefore, hamount⟩ := append_seconds_inj (List.append_cancel_right hlist)
  rw [sign_inj_iff.mpr hsign] at hbefore
  refine ⟨?_, by omega⟩
  exact String.toList_injective (List.append_cancel_right (List.append_cancel_right hbefore))

/-- The type of hardware says something and has no hyphen, and the extension has no point. -/
def IsLegible (hardware extension : String) : Prop :=
  hardware ≠ "" ∧ '-' ∉ hardware.toList ∧ '.' ∉ extension.toList

theorem ne_append_hyphen {before before' : List Char} (hhardware : hardware ≠ "")
    (hhyphen : '-' ∉ hardware.toList) :
    before ++ '-' :: hardware.toList ≠ before' ++ ['-'] := by
  intro h
  have hne : hardware.toList ≠ [] := fun hnil => hhardware (String.toList_eq_nil_iff.mp hnil)
  have hlast := congrArg List.getLast? h
  rw [List.getLast?_append_of_ne_nil _ (by simp), List.getLast?_cons_of_ne_nil hne,
    List.getLast?_concat] at hlast
  exact hhyphen (List.mem_of_getLast? hlast)

/-- All that a name is made of is read back from it, if it is legible. -/
theorem fileName_inj (hl : IsLegible hardware extension) (hl' : IsLegible hardware' extension')
    (h : fileName host hardware extension seconds = fileName host' hardware' extension' seconds') :
    host = host' ∧ hardware = hardware' ∧ extension = extension' ∧ seconds = seconds' := by
  obtain ⟨hfull, hhyphen, hpoint⟩ := hl
  obtain ⟨hfull', hhyphen', hpoint'⟩ := hl'
  have hlist := congrArg String.toList h
  rw [toList_fileName, toList_fileName] at hlist
  obtain ⟨hfront, hextension⟩ := append_cons_inj hpoint hpoint' hlist
  obtain ⟨hbefore, hamount⟩ := append_seconds_inj hfront
  have hsign : seconds < 0 ↔ seconds' < 0 := by
    unfold sign at hbefore
    by_cases hneg : seconds < 0 <;> by_cases hneg' : seconds' < 0
    · simp [hneg, hneg']
    · rw [if_pos hneg, if_neg hneg', List.append_nil] at hbefore
      exact absurd hbefore.symm (ne_append_hyphen hfull' hhyphen')
    · rw [if_neg hneg, if_pos hneg', List.append_nil] at hbefore
      exact absurd hbefore (ne_append_hyphen hfull hhyphen)
    · simp [hneg, hneg']
  rw [sign_inj_iff.mpr hsign] at hbefore
  obtain ⟨hhost, hhardware⟩ :=
    append_cons_inj hhyphen hhyphen' (List.append_cancel_right hbefore)
  exact ⟨String.toList_injective hhost, String.toList_injective hhardware,
    String.toList_injective hextension, by omega⟩

end Outband.Screenshot
