import Outband.Http.Route
import Outband.Proofs.SlotText
/-! One grammar for slots. Whether a slot comes as a number or as text, in the parameters of a target
or in the path of a request, it is the number of 32 bits that its text stands for. -/

namespace Outband

namespace Slot

theorem areDigits_toDigits (n : Nat) : AreDigits (Nat.toDigits 10 n) :=
  ⟨Nat.toDigits_ne_nil, fun _ hc => Nat.isDigit_of_mem_toDigits (by decide) (by decide) hc⟩

/-- An integer is written as the digits of its amount, with a sign in front below zero. -/
theorem toList_toString (n : Int) :
    (toString n).toList = (if n < 0 then ['-'] else []) ++ Nat.toDigits 10 n.natAbs := by
  rw [Int.toString_eq_repr]
  cases n with
  | ofNat m => simp [Int.repr]
  | negSucc m => simp [Int.repr, Int.negSucc_lt_zero]

/-- The decimal text of an integer is the text of that number. -/
theorem reads_toString (n : Int) : Reads (toString n).toList n := by
  have hvalue : Decimal.value (Nat.toDigits 10 n.natAbs) = n.natAbs := Nat.ofDigitChars_ten_toDigits
  have hdigits := areDigits_toDigits n.natAbs
  rw [toList_toString]
  by_cases hneg : n < 0
  · have h := Reads.minus hdigits
    rw [hvalue, show -(n.natAbs : Int) = n by omega] at h
    rwa [if_pos hneg]
  · have h := Reads.bare hdigits
    rw [hvalue, show (n.natAbs : Int) = n by omega] at h
    rwa [if_neg hneg]

/-- What has left the range on one side stays out of it as it grows. -/
theorem ofInt_sign_mul_of_le (negative : Bool) {a b : Nat} (hle : a ≤ b) {fault : Fault}
    (h : ofInt (sign negative * a) = .error fault) : ofInt (sign negative * b) = .error fault := by
  unfold ofInt at h ⊢
  cases negative with
  | false =>
    simp only [sign, Bool.false_eq_true, if_false, Int.one_mul] at h ⊢
    split at h
    · split at h
      · cases h
      · rw [dif_pos (by omega), dif_neg (by omega)]
        exact h
    · omega
  | true =>
    simp only [sign, if_true] at h ⊢
    split at h
    · split at h
      · cases h
      · omega
    · rw [dif_neg (by omega)]
      exact h

/-- Digits come to the number that they make up with those before them, in the range or not. -/
theorem readDigits_eq_ofInt (negative : Bool) {slot : Slot} {n : Nat} {chars : List Char}
    (hslot : slot.number = sign negative * n) (hdigits : ∀ c ∈ chars, c.isDigit) :
    readDigits negative slot chars = ofInt (sign negative * (valueFrom n chars : Nat)) := by
  induction chars generalizing slot n with
  | nil => exact (ofInt_eq_ok_iff.mpr hslot).symm
  | cons c rest ih =>
    obtain ⟨hc, hrest⟩ := List.forall_mem_cons.mp hdigits
    have hvalue : valueFrom n (c :: rest) = valueFrom (10 * n + (c.toNat - '0'.toNat)) rest := rfl
    rw [readDigits, if_pos hc]
    dsimp only
    rw [hslot, sign_mul_digit negative n hc, hvalue]
    cases hnext : ofInt (sign negative * (10 * n + (c.toNat - '0'.toNat) : Nat)) with
    | ok next => exact ih (ofInt_eq_ok_iff.mp hnext) hrest
    | error fault => exact (ofInt_sign_mul_of_le negative (le_valueFrom _ rest) hnext).symm

/-- Reading the text of a number comes to the same as taking the number itself. -/
theorem ofText_of_reads {text : String} {n : Int} (h : Reads text.toList n) :
    ofText text = ofInt n := by
  have hread : ∀ (negative : Bool) {digits : List Char}, AreDigits digits →
      readDigits negative ⟨0, by decide, by decide⟩ digits =
        ofInt (sign negative * (Decimal.value digits : Nat)) :=
    fun negative _ hdigits => readDigits_eq_ofInt negative (by simp) hdigits.2
  rw [ofText]
  revert h
  generalize text.toList = chars
  fun_cases ofChars chars with
  | case1 => simp [reads_bare_iff, AreDigits]
  | case2 => simp [reads_plus_iff, AreDigits]
  | case3 => simp [reads_minus_iff, AreDigits]
  | case4 rest _ =>
    rw [reads_plus_iff]
    rintro ⟨hdigits, rfl⟩
    simp [hread false hdigits, sign]
  | case5 rest _ =>
    rw [reads_minus_iff]
    rintro ⟨hdigits, rfl⟩
    simp [hread true hdigits, sign]
  | case6 digits _ _ _ hplus hminus =>
    rw [reads_bare_iff hplus hminus]
    rintro ⟨hdigits, rfl⟩
    simp [hread false hdigits, sign]

theorem Reads.chars {chars : List Char} {n : Int} (h : Reads chars n) :
    ∀ c ∈ chars, c.isDigit ∨ c = '+' ∨ c = '-' := by
  intro c hmem
  cases h with
  | bare hdigits => exact Or.inl (hdigits.2 c hmem)
  | plus hdigits =>
    rcases List.mem_cons.mp hmem with rfl | hrest
    · exact Or.inr (Or.inl rfl)
    · exact Or.inl (hdigits.2 c hrest)
  | minus hdigits =>
    rcases List.mem_cons.mp hmem with rfl | hrest
    · exact Or.inr (Or.inr rfl)
    · exact Or.inl (hdigits.2 c hrest)

end Slot

namespace Json

end Json

namespace Target

variable {params : Params} {value : Json}

/-- A number is the slot that its text is, and fails as its text does. -/
theorem slotParam_eq_ofText (h : params.lookup positionParam = some value) :
    slotParam params = slotOr value.plain (Slot.ofText value.plain) := by
  unfold slotParam required
  rw [h]
  simp only [bind, Except.bind]
  cases hsigned : value.signed? with
  | none => rfl
  | some n =>
    cases value with
    | int m =>
      have hplain : Json.plain (.int m) = toString m := rfl
      rw [hplain, Slot.ofText_of_reads (Slot.reads_toString m)]
      rw [Json.signed?, Option.ite_none_right_eq_some] at hsigned
      cases hsigned.2
      rfl
    | _ => cases hsigned

theorem lookup_cons_position (params : Params) (slot : Json) :
    ((positionParam, slot) :: params).lookup positionParam = some slot := rfl

theorem slotParam_cons_int (n : Int) :
    slotParam ((positionParam, .int n) :: params) = slotOr (toString n) (Slot.ofInt n) := by
  rw [slotParam_eq_ofText (lookup_cons_position params (.int n)),
    show Json.plain (.int n) = toString n from rfl, Slot.ofText_of_reads (Slot.reads_toString n)]

theorem slotOr_eq_ok_iff {text : String} {read : Except Slot.Fault Slot} {slot : Slot} :
    slotOr text read = .ok slot ↔ read = .ok slot := by
  cases read <;> simp [slotOr]

theorem slotParam_eq_ok_iff (h : params.lookup positionParam = some value) {slot : Slot} :
    slotParam params = .ok slot ↔ Slot.Reads value.plain.toList slot.number := by
  rw [slotParam_eq_ofText h, slotOr_eq_ok_iff, Slot.ofText_eq_ok_iff]

end Target

namespace Target

end Target

end Outband
