import Outband.Classification
import Outband.Ipmi.Session
import Mathlib.Data.List.Infix
/-! Where a piece of text occurs in another one, and what is left of a text without the first
occurrence. -/

namespace Outband

variable {piece s before after : List Char}

theorem contains_iff_isInfix : contains piece s ↔ piece <:+: s := by
  induction s with
  | nil => simp [contains]
  | cons c rest ih => simp [contains, ih, List.infix_cons_iff]

/-- The output of the tool is searched for its phrases in the same way. -/
theorem Ipmi.occurs_eq_contains (piece s : List Char) : occurs piece s = contains piece s := by
  induction s with
  | nil => rfl
  | cons c rest ih => rw [occurs, contains, ih]

theorem Ipmi.mentions_iff_isInfix {output phrase : String} :
    mentions output phrase ↔ phrase.toList <:+: output.toList := by
  rw [mentions, occurs_eq_contains, contains_iff_isInfix]

/-- The text is cut at the first place where the piece occurs. -/
structure FirstAt (piece s before after : List Char) : Prop where
  split : s = before ++ (piece ++ after)
  first : ∀ {earlier later}, s = earlier ++ (piece ++ later) → before.length ≤ earlier.length

theorem firstAt_start (piece after : List Char) : FirstAt piece (piece ++ after) [] after :=
  ⟨rfl, fun _ => Nat.zero_le _⟩

theorem firstAt_cons (c : Char) (h : FirstAt piece s before after)
    (hno : ¬ piece <+: c :: s) : FirstAt piece (c :: s) (c :: before) after where
  split := by rw [h.split, List.cons_append]
  first {earlier later} hsplit := by
    cases earlier with
    | nil => exact absurd ⟨later, hsplit.symm⟩ hno
    | cons d earlier => exact Nat.succ_le_succ (h.first (List.cons.inj hsplit).2)

theorem exists_firstAt (h : piece <:+: s) : ∃ before after, FirstAt piece s before after := by
  induction s with
  | nil =>
    rw [List.infix_nil.mp h]
    exact ⟨[], [], firstAt_start [] []⟩
  | cons c rest ih =>
    by_cases hstart : piece <+: c :: rest
    · obtain ⟨after, hafter⟩ := hstart
      rw [← hafter]
      exact ⟨[], after, firstAt_start piece after⟩
    · obtain ⟨before, after, hfirst⟩ := ih ((List.infix_cons_iff.mp h).resolve_left hstart)
      exact ⟨c :: before, after, firstAt_cons c hfirst hstart⟩

/-- There is one first place only. -/
theorem FirstAt.unique {other rest : List Char} (h : FirstAt piece s before after)
    (ho : FirstAt piece s other rest) : other = before ∧ rest = after := by
  have hlength : other.length = before.length :=
    Nat.le_antisymm (ho.first h.split) (h.first ho.split)
  obtain ⟨hbefore, hrest⟩ := List.append_inj (ho.split.symm.trans h.split) hlength
  exact ⟨hbefore, List.append_cancel_left hrest⟩

theorem removeFirst_of_firstAt (hne : piece ≠ []) (h : FirstAt piece s before after) :
    removeFirst piece s = before ++ after := by
  induction s generalizing before with
  | nil =>
    have hnil := List.append_eq_nil_iff.mp h.split.symm
    exact absurd (List.append_eq_nil_iff.mp hnil.2).1 hne
  | cons c rest ih =>
    rw [removeFirst]
    by_cases hstart : piece <+: c :: rest
    · rw [if_pos (List.isPrefixOf_iff_prefix.mpr hstart)]
      obtain ⟨later, hlater⟩ := hstart
      rw [← hlater] at h ⊢
      obtain ⟨rfl, rfl⟩ := (firstAt_start piece later).unique h
      simp
    · rw [if_neg (by rwa [List.isPrefixOf_iff_prefix])]
      have hinfix : piece <:+: c :: rest := ⟨before, after, by simpa using h.split.symm⟩
      have hlater : piece <:+: rest := (List.infix_cons_iff.mp hinfix).resolve_left hstart
      obtain ⟨b, a, hrest⟩ := exists_firstAt hlater
      obtain ⟨rfl, rfl⟩ := (firstAt_cons c hrest hstart).unique h
      rw [ih hrest, List.cons_append]

end Outband
