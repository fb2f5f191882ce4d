import Outband.Decimal.Digits
import Outband.Target.Slot
import Mathlib.Data.List.Basic
/-! Which texts are slots: those of a signed 32-bit number, in decimal digits. -/

namespace Outband.Slot

/-- At least one decimal digit, and nothing else. -/
def AreDigits (chars : List Char) : Prop := chars ≠ [] ∧ ∀ c ∈ chars, c.isDigit

/-- The text is that of a number: an optional sign, then digits. -/
inductive Reads : List Char → Int → Prop
  | bare {digits : List Char} (h : AreDigits digits) : Reads digits (Decimal.value digits)
  | plus {digits : List Char} (h : AreDigits digits) : Reads ('+' :: digits) (Decimal.value digits)
  | minus {digits : List Char} (h : AreDigits digits) :
      Reads ('-' :: digits) (-(Decimal.value digits : Int))

/-- The text is that of a number with 32 bits. -/
def IsText (text : String) : Prop :=
  ∃ number, Reads text.toList number ∧ -2147483648 ≤ number ∧ number < 2147483648

theorem ofInt_eq_ok_iff {n : Int} {slot : Slot} : ofInt n = .ok slot ↔ slot.number = n := by
  unfold ofInt
  obtain ⟨number, low, high⟩ := slot
  constructor
  · intro h
    split at h
    · split at h
      · cases h
        rfl
      · cases h
    · cases h
  · rintro rfl
    simp [low, high]

/-- The value of digits that follow others of value `n`. -/
def valueFrom (n : Nat) (digits : List Char) : Nat :=
  digits.foldl (fun n d => 10 * n + (d.toNat - '0'.toNat)) n

theorem le_valueFrom (n : Nat) (digits : List Char) : n ≤ valueFrom n digits := by
  induction digits generalizing n with
  | nil => exact Nat.le_refl n
  | cons c rest ih =>
    have hrest := ih (10 * n + (c.toNat - '0'.toNat))
    have hcons : valueFrom n (c :: rest) = valueFrom (10 * n + (c.toNat - '0'.toNat)) rest := rfl
    omega

theorem toNat_of_isDigit {c : Char} (h : c.isDigit) : '0'.toNat ≤ c.toNat := by
  have hle : '0'.val ≤ c.val ∧ c.val ≤ '9'.val := by simpa [Char.isDigit] using h
  exact hle.1

/-- The sign of a number that is negative or not. -/
def sign (negative : Bool) : Int := if negative then -1 else 1

theorem sign_mul_digit (negative : Bool) (n : Nat) {c : Char} (h : c.isDigit) :
    10 * (sign negative * n) +
        (if negative then -((c.toNat : Int) - '0'.toNat) else (c.toNat : Int) - '0'.toNat) =
      sign negative * (10 * n + (c.toNat - '0'.toNat) : Nat) := by
  have hle := toNat_of_isDigit h
  cases negative <;> simp only [sign, Bool.false_eq_true, if_false, if_true] <;> omega

/-- Digits are read to their end just when the number that they make up has 32 bits. That the number
so far may leave the range is no obstacle: it only grows. -/
theorem readDigits_eq_ok_iff (negative : Bool) {slot found : Slot} {n : Nat} {chars : List Char}
    (hslot : slot.number = sign negative * n) :
    readDigits negative slot chars = .ok found ↔
      (∀ c ∈ chars, c.isDigit) ∧ found.number = sign negative * (valueFrom n chars : Nat) := by
  induction chars generalizing slot n with
  | nil =>
    simp only [readDigits, Except.ok.injEq, List.not_mem_nil, false_imp_iff, implies_true,
      true_and]
    rw [show valueFrom n [] = n from rfl, ← hslot]
    obtain ⟨number, _, _⟩ := slot
    obtain ⟨other, _, _⟩ := found
    simp [eq_comm]
  | cons c rest ih =>
    rw [readDigits]
    by_cases hc : c.isDigit
    · have hnext := sign_mul_digit negative n hc
      dsimp only
      rw [if_pos hc, hslot, hnext]
      have hvalue : valueFrom n (c :: rest) = valueFrom (10 * n + (c.toNat - '0'.toNat)) rest := rfl
      cases hofInt : ofInt (sign negative * (10 * n + (c.toNat - '0'.toNat) : Nat)) with
      | ok next =>
        dsimp only
        rw [ih (ofInt_eq_ok_iff.mp hofInt), hvalue]
        simp [hc]
      | error fault =>
        simp only [reduceCtorEq, false_iff]
        rintro ⟨-, hfound⟩
        have hgrows := le_valueFrom (10 * n + (c.toNat - '0'.toNat)) rest
        have hlow := found.ge_min
        have hhigh := found.lt_max
        rw [hfound, hvalue] at hlow hhigh
        have hrange : ∃ slot, ofInt (sign negative * (10 * n + (c.toNat - '0'.toNat) : Nat)) =
            .ok slot := by
          refine ⟨⟨_, ?_, ?_⟩, ofInt_eq_ok_iff.mpr rfl⟩ <;>
            cases negative <;> simp only [sign, Bool.false_eq_true, if_false, if_true] at * <;>
              omega
        obtain ⟨next, hnext⟩ := hrange
        rw [hofInt] at hnext
        cases hnext
    · rw [if_neg hc]
      simp [hc]

theorem not_areDigits_sign {c : Char} (hc : c.isDigit = false) (rest : List Char) :
    ¬ AreDigits (c :: rest) := by
  rintro ⟨-, hall⟩
  rw [hall c List.mem_cons_self] at hc
  cases hc

theorem reads_plus_iff {rest : List Char} {number : Int} :
    Reads ('+' :: rest) number ↔ AreDigits rest ∧ number = Decimal.value rest := by
  constructor
  · intro h
    cases h with
    | bare h => exact absurd h (not_areDigits_sign rfl rest)
    | plus h => exact ⟨h, rfl⟩
  · rintro ⟨h, rfl⟩
    exact .plus h

theorem reads_minus_iff {rest : List Char} {number : Int} :
    Reads ('-' :: rest) number ↔ AreDigits rest ∧ number = -(Decimal.value rest : Int) := by
  constructor
  · intro h
    cases h with
    | bare h => exact absurd h (not_areDigits_sign rfl rest)
    | minus h => exact ⟨h, rfl⟩
  · rintro ⟨h, rfl⟩
    exact .minus h

theorem reads_bare_iff {chars : List Char} {number : Int} (hplus : ∀ rest, chars ≠ '+' :: rest)
    (hminus : ∀ rest, chars ≠ '-' :: rest) :
    Reads chars number ↔ AreDigits chars ∧ number = Decimal.value chars := by
  constructor
  · intro h
    cases h with
    | bare h => exact ⟨h, rfl⟩
    | plus h => exact absurd rfl (hplus _)
    | minus h => exact absurd rfl (hminus _)
  · rintro ⟨h, rfl⟩
    exact .bare h

/-- From zero on, digits are read as the number that they stand for. -/
theorem readDigits_zero_eq_ok_iff (negative : Bool) {digits : List Char} {slot : Slot}
    (hne : digits ≠ []) :
    readDigits negative ⟨0, by decide, by decide⟩ digits = .ok slot ↔
      AreDigits digits ∧ slot.number = sign negative * (Decimal.value digits : Nat) := by
  rw [readDigits_eq_ok_iff negative (n := 0) (by simp)]
  exact and_congr_left fun _ => ⟨fun h => ⟨hne, h⟩, And.right⟩

/-- A slot is read from a text just when it is the number of that text. -/
theorem ofText_eq_ok_iff {text : String} {slot : Slot} :
    ofText text = .ok slot ↔ Reads text.toList slot.number := by
  rw [ofText]
  generalize text.toList = chars
  fun_cases ofChars chars with
  | case1 => simp [reads_bare_iff, AreDigits]
  | case2 => simp [reads_plus_iff, AreDigits]
  | case3 => simp [reads_minus_iff, AreDigits]
  | case4 rest hne =>
    rw [reads_plus_iff, readDigits_zero_eq_ok_iff false (by rintro rfl; exact hne rfl)]
    simp [sign]
  | case5 rest hne =>
    rw [reads_minus_iff, readDigits_zero_eq_ok_iff true (by rintro rfl; exact hne rfl)]
    simp [sign]
  | case6 digits hempty _ _ hplus hminus =>
    rw [reads_bare_iff hplus hminus, readDigits_zero_eq_ok_iff false hempty]
    simp [sign]

/-- The texts of slots are those of the numbers with 32 bits. -/
theorem exists_ofText_iff {text : String} : (∃ slot, ofText text = .ok slot) ↔ IsText text := by
  constructor
  · rintro ⟨slot, h⟩
    exact ⟨slot.number, ofText_eq_ok_iff.mp h, slot.ge_min, slot.lt_max⟩
  · rintro ⟨number, h, low, high⟩
    exact ⟨⟨number, low, high⟩, ofText_eq_ok_iff.mpr h⟩

example : ofText "-2147483648" = .ok ⟨-2147483648, by decide, by decide⟩ := by decide +kernel

end Outband.Slot
