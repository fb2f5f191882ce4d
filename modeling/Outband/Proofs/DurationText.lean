import Outband.Duration
import Mathlib.Algebra.Group.Nat.Defs
import Mathlib.Data.List.TakeWhile
/-! The texts of durations. A duration is read just from a text that the grammar has, as the exact
sum of its terms, and reading comes to its end on every text. -/

namespace Outband.Duration

/-- The ways to write a unit. -/
def Unit.symbols : Unit → List (List Char)
  | .nanosecond => [['n', 's']]
  | .microsecond => [['u', 's'], ['\u00b5', 's'], ['\u03bc', 's']]
  | .millisecond => [['m', 's']]
  | .second => [['s']]
  | .minute => [['m']]
  | .hour => [['h']]

namespace Term

/-- There are digits before or after the point and no others than digits, and the unit is known. -/
structure IsSound (t : Term) (unit : Unit) : Prop where
  whole : ∀ c ∈ t.whole, c.isDigit
  fraction : ∀ c ∈ t.fraction, c.isDigit
  digits : ¬(t.whole = [] ∧ t.fraction = [])
  symbol : t.symbol ∈ unit.symbols

/-- The term written down. The point may be left out where no digit follows it. -/
inductive Spells (t : Term) : List Char → Prop
  | pointed : Spells t (t.whole ++ '.' :: t.fraction ++ t.symbol)
  | plain (h : t.fraction = []) : Spells t (t.whole ++ t.symbol)

/-- Whole units count in full, and of a fraction the whole nanoseconds. -/
def nanos (t : Term) (unit : Unit) : Nat :=
  Decimal.value t.whole * unit.nanos + fractionNanos t.fraction unit

end Term

/-- Terms one after another, and the sum of their nanoseconds. -/
inductive Series : List Char → Nat → Prop
  | nil : Series [] 0
  | cons {t : Term} {unit : Unit} {text rest : List Char} {sum : Nat} (sound : t.IsSound unit)
      (spells : t.Spells text) (more : Series rest sum) :
      Series (text ++ rest) (t.nanos unit + sum)

/-- What may stand in front of a duration, and whether it is a minus. -/
inductive Sign : List Char → Bool → Prop
  | none : Sign [] false
  | plus : Sign ['+'] false
  | minus : Sign ['-'] true

/-- The text stands for that many nanoseconds. A sum has to be a signed number of 64 bits, and no
time passes below zero. -/
inductive Means : List Char → Nat → Prop
  | zero {sign : List Char} {negative : Bool} (h : Sign sign negative) : Means (sign ++ ['0']) 0
  | series {sign body : List Char} {negative : Bool} {sum : Nat} (h : Sign sign negative)
      (hbody : Series body sum) (hne : body ≠ [])
      (hsum : sum ≤ if negative then 2 ^ 63 else 2 ^ 63 - 1) :
      Means (sign ++ body) (if negative then 0 else sum)

/-- Reading a text term by term from a sum on comes to this verdict after so many rounds. -/
inductive Rounds : Nat → Nat → List Char → Except Fault Nat → Prop
  | ended (sum : Nat) : Rounds 0 sum [] (.ok sum)
  | pointless {s : List Char} (sum : Nat) (hne : s ≠ [])
      (h : (cutTerm s).1.whole = [] ∧ (cutTerm s).1.fraction = []) :
      Rounds 1 sum s (.error .invalid)
  | refused {sum : Nat} {s : List Char} {fault : Fault} (hne : s ≠ [])
      (h : addTerm sum (cutTerm s).1 = .error fault) : Rounds 1 sum s (.error fault)
  | next {rounds sum after : Nat} {s : List Char} {verdict : Except Fault Nat} (hne : s ≠ [])
      (h : addTerm sum (cutTerm s).1 = .ok after)
      (more : Rounds rounds after (cutTerm s).2 verdict) : Rounds (rounds + 1) sum s verdict

/-- A unit reaches up to the next digit or point. -/
def inUnit (c : Char) : Bool := !(c == '.' || c.isDigit)

theorem ofSymbol?_eq_some_iff {symbol : List Char} {unit : Unit} :
    Unit.ofSymbol? symbol = some unit ↔ symbol ∈ unit.symbols := by
  constructor
  · intro h
    unfold Unit.ofSymbol? at h
    split at h <;> cases h <;> simp [Unit.symbols]
  · intro h
    cases unit <;> simp only [Unit.symbols, List.mem_cons, List.not_mem_nil, or_false] at h
    case microsecond => rcases h with rfl | rfl | rfl <;> rfl
    all_goals rw [h]; rfl

theorem symbol_inUnit {symbol : List Char} {unit : Unit} (h : symbol ∈ unit.symbols) :
    symbol ≠ [] ∧ ∀ c ∈ symbol, inUnit c := by
  cases unit <;> simp only [Unit.symbols, List.mem_cons, List.not_mem_nil, or_false] at h
  case microsecond => rcases h with rfl | rfl | rfl <;> simp [inUnit, Char.isDigit]
  all_goals simp [h, inUnit, Char.isDigit]

theorem inUnit_of_isDigit {c : Char} (h : c.isDigit) : inUnit c = false := by simp [inUnit, h]

theorem not_isDigit_of_inUnit {c : Char} (h : inUnit c) : c.isDigit = false := by
  rw [inUnit, Bool.not_eq_true', Bool.or_eq_false_iff] at h
  exact h.2

/-- Where a run of characters of one kind ends, is found again. -/
theorem cut_append {p : Char → Bool} {xs rest : List Char} (hall : ∀ c ∈ xs, p c)
    (hstop : ∀ c ∈ rest.head?, p c = false) :
    (xs ++ rest).takeWhile p = xs ∧ (xs ++ rest).dropWhile p = rest := by
  rw [List.takeWhile_append_of_pos hall, List.dropWhile_append_of_pos hall]
  cases rest with
  | nil => simp
  | cons c rest =>
    have hc : p c = false := hstop c rfl
    simp [hc]

section Cutting

variable {s rest : List Char}

theorem cutTerm_pointed (h : s.dropWhile Char.isDigit = '.' :: rest) :
    cutTerm s = (⟨s.takeWhile Char.isDigit, rest.takeWhile Char.isDigit,
        (rest.dropWhile Char.isDigit).takeWhile inUnit⟩,
      (rest.dropWhile Char.isDigit).dropWhile inUnit) := by
  rw [cutTerm, h]
  rfl

theorem cutTerm_plain (h : ∀ rest, s.dropWhile Char.isDigit ≠ '.' :: rest) :
    cutTerm s = (⟨s.takeWhile Char.isDigit, [],
        (s.dropWhile Char.isDigit).takeWhile inUnit⟩,
      (s.dropWhile Char.isDigit).dropWhile inUnit) := by
  simp only [cutTerm]
  rfl

/-- To cut off a term loses nothing of the text. -/
theorem cutTerm_spells (s : List Char) :
    ∃ text, (cutTerm s).1.Spells text ∧ s = text ++ (cutTerm s).2 := by
  by_cases hpoint : ∃ rest, s.dropWhile Char.isDigit = '.' :: rest
  · obtain ⟨rest, hrest⟩ := hpoint
    rw [cutTerm_pointed hrest]
    refine ⟨_, .pointed, ?_⟩
    simp only [List.append_assoc, List.cons_append, List.takeWhile_append_dropWhile]
    rw [← hrest, List.takeWhile_append_dropWhile]
  · rw [cutTerm_plain (not_exists.mp hpoint)]
    refine ⟨_, .plain rfl, ?_⟩
    simp only [List.append_assoc, List.takeWhile_append_dropWhile]

theorem cutTerm_digits (s : List Char) :
    (∀ c ∈ (cutTerm s).1.whole, c.isDigit) ∧ ∀ c ∈ (cutTerm s).1.fraction, c.isDigit := by
  by_cases hpoint : ∃ rest, s.dropWhile Char.isDigit = '.' :: rest
  · obtain ⟨rest, hrest⟩ := hpoint
    rw [cutTerm_pointed hrest]
    exact ⟨fun c hc => List.mem_takeWhile_imp hc, fun c hc => List.mem_takeWhile_imp hc⟩
  · rw [cutTerm_plain (not_exists.mp hpoint)]
    exact ⟨fun c hc => List.mem_takeWhile_imp hc, by simp⟩

/-- The text could be that of more terms, so that a unit before it goes no further. -/
def Resumes (rest : List Char) : Prop := ∀ c ∈ rest.head?, inUnit c = false

/-- A term that was written down is cut off again. -/
theorem cutTerm_of_spells {t : Term} {unit : Unit} {text : List Char} (sound : t.IsSound unit)
    (spells : t.Spells text) (hrest : Resumes rest) : cutTerm (text ++ rest) = (t, rest) := by
  obtain ⟨hne, hsymbol⟩ := symbol_inUnit sound.symbol
  obtain ⟨first, symbol, hfirst⟩ := List.exists_cons_of_ne_nil hne
  have hunit := cut_append hsymbol hrest
  -- The unit does not start with a digit, so that the digits before it end there.
  have hstop : ∀ c ∈ (t.symbol ++ rest).head?, c.isDigit = false := by
    intro c hc
    rw [hfirst, List.cons_append, List.head?_cons, Option.mem_some] at hc
    exact not_isDigit_of_inUnit (hsymbol c (by simp [hfirst, hc]))
  cases spells with
  | pointed =>
    have hsplit : t.whole ++ '.' :: t.fraction ++ t.symbol ++ rest =
        t.whole ++ '.' :: (t.fraction ++ (t.symbol ++ rest)) := by simp
    have hpoint : ∀ c ∈ ('.' :: (t.fraction ++ (t.symbol ++ rest))).head?, c.isDigit = false := by
      simp
    have hwhole := cut_append sound.whole hpoint
    have hfraction := cut_append sound.fraction hstop
    rw [hsplit, cutTerm_pointed hwhole.2, hwhole.1, hfraction.1, hfraction.2, hunit.1, hunit.2]
  | plain hnone =>
    have hwhole := cut_append sound.whole hstop
    have hpoint : ∀ more, t.symbol ++ rest ≠ '.' :: more := by
      intro more hmore
      rw [hfirst, List.cons_append] at hmore
      have hdot := hsymbol first (by simp [hfirst])
      rw [(List.cons.inj hmore).1] at hdot
      cases hdot
    rw [List.append_assoc, cutTerm_plain (by rw [hwhole.2]; exact hpoint), hwhole.1, hwhole.2,
      hunit.1, hunit.2, ← hnone]

/-- A term starts with a digit or a point. -/
theorem Term.Spells.resumes {t : Term} {unit : Unit} {text : List Char} (sound : t.IsSound unit)
    (spells : t.Spells text) (rest : List Char) : text ≠ [] ∧ Resumes (text ++ rest) := by
  obtain ⟨whole, fraction, symbol⟩ := t
  have hwhole := sound.whole
  have hdigits := sound.digits
  cases spells with
  | pointed =>
    cases whole with
    | nil => exact ⟨by simp, by simp [Resumes, inUnit]⟩
    | cons c whole =>
      have hc := inUnit_of_isDigit (hwhole c (by simp))
      exact ⟨by simp, by simp [Resumes, hc]⟩
  | plain hnone =>
    cases whole with
    | nil => exact absurd ⟨rfl, hnone⟩ hdigits
    | cons c whole =>
      have hc := inUnit_of_isDigit (hwhole c (by simp))
      exact ⟨by simp, by simp [Resumes, hc]⟩

theorem Series.resumes {sum : Nat} (h : Series s sum) : Resumes s := by
  cases h with
  | nil => simp [Resumes]
  | cons sound spells more => exact (spells.resumes sound _).2

/-- A text with something in it is a series just when the term that is cut off from it is sound and
the rest is a series. -/
theorem series_iff_cutTerm {sum : Nat} (hne : s ≠ []) :
    Series s sum ↔ ∃ unit later, (cutTerm s).1.IsSound unit ∧ Series (cutTerm s).2 later ∧
      sum = (cutTerm s).1.nanos unit + later := by
  constructor
  · intro h
    cases h with
    | nil => exact absurd rfl hne
    | @cons t unit text rest later sound spells more =>
      rw [cutTerm_of_spells sound spells more.resumes]
      exact ⟨unit, later, sound, more, rfl⟩
  · rintro ⟨unit, later, sound, more, rfl⟩
    obtain ⟨text, spells, hsplit⟩ := cutTerm_spells s
    have hseries := Series.cons sound spells more
    rwa [← hsplit] at hseries

theorem series_nil_iff {sum : Nat} : Series [] sum ↔ sum = 0 := by
  constructor
  · intro h
    generalize hs : ([] : List Char) = s at h
    cases h with
    | nil => rfl
    | @cons t unit text rest later sound spells more =>
      have hempty := (List.append_eq_nil_iff.mp hs.symm).1
      exact absurd hempty (spells.resumes sound rest).1
  · rintro rfl
    exact .nil

end Cutting

section Summing

/-- A term is added just when its unit is known and the sum stays in bounds. -/
theorem addTerm_eq_ok_iff {sum total : Nat} {t : Term} :
    addTerm sum t = .ok total ↔ ∃ unit, t.symbol ∈ unit.symbols ∧ total = sum + t.nanos unit ∧
      total < sumBound := by
  have hunit : ∀ unit, (if sumBound ≤ sum + Decimal.value t.whole * unit.nanos then
        (.error .invalid : Except Fault Nat)
      else if sumBound ≤ sum + Decimal.value t.whole * unit.nanos + fractionNanos t.fraction unit
        then .error .invalid
        else .ok (sum + Decimal.value t.whole * unit.nanos + fractionNanos t.fraction unit)) =
        .ok total ↔ total = sum + t.nanos unit ∧ total < sumBound := by
    intro unit
    have hnanos : sum + t.nanos unit =
        sum + Decimal.value t.whole * unit.nanos + fractionNanos t.fraction unit := by
      rw [Term.nanos]
      omega
    rw [hnanos]
    generalize sum + Decimal.value t.whole * unit.nanos = n
    generalize fractionNanos t.fraction unit = m
    generalize sumBound = bound
    split
    · simp only [reduceCtorEq, false_iff]
      omega
    · split
      · simp only [reduceCtorEq, false_iff]
        omega
      · simp only [Except.ok.injEq]
        omega
  unfold addTerm
  split
  · rename_i hsymbol
    simp only [reduceCtorEq, false_iff]
    rintro ⟨unit, hmem, -⟩
    exact (symbol_inUnit hmem).1 hsymbol
  · cases hsymbol : Unit.ofSymbol? t.symbol with
    | none =>
      simp only [reduceCtorEq, false_iff]
      rintro ⟨unit, hmem, -⟩
      rw [ofSymbol?_eq_some_iff.mpr hmem] at hsymbol
      cases hsymbol
    | some unit =>
      refine (hunit unit).trans ⟨fun h => ⟨unit, ofSymbol?_eq_some_iff.mp hsymbol, h⟩, ?_⟩
      rintro ⟨other, hmem, h⟩
      rw [ofSymbol?_eq_some_iff.mpr hmem] at hsymbol
      cases hsymbol
      exact h

/-- Terms are summed up just when the text is a series of them and their sum stays in bounds. The
sum only grows on the way, so that it is in bounds at every term if it is in the end. -/
theorem sumTerms_eq_ok_iff {sum total : Nat} {s : List Char} (hsum : sum < sumBound) :
    sumTerms sum s = .ok total ↔
      ∃ later, Series s later ∧ total = sum + later ∧ total < sumBound := by
  fun_induction sumTerms sum s with
  | case1 sum =>
    simp only [Except.ok.injEq, series_nil_iff]
    constructor
    · rintro rfl
      exact ⟨0, rfl, rfl, hsum⟩
    · rintro ⟨later, rfl, rfl, -⟩
      rfl
  | case2 sum s hne hdigits =>
    simp only [reduceCtorEq, false_iff]
    rintro ⟨later, hseries, -⟩
    obtain ⟨unit, -, sound, -⟩ := (series_iff_cutTerm hne).mp hseries
    exact sound.digits hdigits
  | case3 sum s hne hdigits fault hadd =>
    simp only [reduceCtorEq, false_iff]
    rintro ⟨later, hseries, rfl, hbound⟩
    obtain ⟨unit, more, sound, -, rfl⟩ := (series_iff_cutTerm hne).mp hseries
    have hadded : addTerm sum (cutTerm s).1 = .ok (sum + (cutTerm s).1.nanos unit) :=
      addTerm_eq_ok_iff.mpr ⟨unit, sound.symbol, rfl, by omega⟩
    rw [hadd] at hadded
    cases hadded
  | case4 sum s hne hdigits after hadd ih =>
    obtain ⟨unit, hsymbol, rfl, hafter⟩ := addTerm_eq_ok_iff.mp hadd
    obtain ⟨hwhole, hfraction⟩ := cutTerm_digits s
    rw [ih hafter]
    constructor
    · rintro ⟨later, hseries, rfl, hbound⟩
      refine ⟨(cutTerm s).1.nanos unit + later, ?_, by omega, hbound⟩
      exact (series_iff_cutTerm hne).mpr
        ⟨unit, later, ⟨hwhole, hfraction, hdigits, hsymbol⟩, hseries, rfl⟩
    · rintro ⟨later, hseries, rfl, hbound⟩
      obtain ⟨other, more, sound, hmore, rfl⟩ := (series_iff_cutTerm hne).mp hseries
      have hother : some other = some unit := by
        rw [← ofSymbol?_eq_some_iff.mpr sound.symbol, ofSymbol?_eq_some_iff.mpr hsymbol]
      cases hother
      exact ⟨more, hmore, by omega, hbound⟩

/-- Each round takes something from the text, so that they come to an end with it. -/
theorem exists_rounds (sum : Nat) (s : List Char) :
    ∃ rounds ≤ s.length, Rounds rounds sum s (sumTerms sum s) := by
  fun_induction sumTerms sum s with
  | case1 sum => exact ⟨0, Nat.le_refl 0, .ended sum⟩
  | case2 sum s hne hdigits => exact ⟨1, List.length_pos_iff.mpr hne, .pointless sum hne hdigits⟩
  | case3 sum s hne hdigits fault hadd =>
    exact ⟨1, List.length_pos_iff.mpr hne, .refused hne hadd⟩
  | case4 sum s hne hdigits after hadd ih =>
    obtain ⟨rounds, hrounds, hmore⟩ := ih
    have hless := length_cutTerm_lt hdigits
    exact ⟨rounds + 1, by omega, .next hne hadd hmore⟩

end Summing

section Reading

/-- Without digits behind the point there is no fraction to count. -/
theorem fractionNanos_nil (unit : Unit) : fractionNanos [] unit = 0 := by
  cases unit <;> decide +kernel

theorem limit_eq (negative : Bool) : limit negative = if negative then 2 ^ 63 else 2 ^ 63 - 1 := by
  cases negative <;> decide

theorem limit_lt_sumBound (negative : Bool) : limit negative < sumBound := by
  cases negative <;> decide

/-- A series of terms starts with none of the signs, and a lone zero is none. -/
theorem Series.cutSign_append {sign body : List Char} {negative : Bool} {sum : Nat}
    (h : Sign sign negative) (hbody : Series body sum) (hne : body ≠ []) :
    cutSign (sign ++ body) = (negative, body) ∧ body ≠ ['0'] := by
  obtain ⟨first, rest, rfl⟩ := List.exists_cons_of_ne_nil hne
  have hfirst : inUnit first = false := hbody.resumes first rfl
  constructor
  · cases h with
    | none =>
      unfold cutSign
      split
      · rename_i heq
        rw [(List.cons.inj heq).1] at hfirst
        cases hfirst
      · rename_i heq
        rw [(List.cons.inj heq).1] at hfirst
        cases hfirst
      · rfl
    | plus => rfl
    | minus => rfl
  · intro hzero
    rw [hzero] at hbody
    obtain ⟨unit, later, sound, -⟩ := (series_iff_cutTerm (by simp)).mp hbody
    exact (symbol_inUnit sound.symbol).1 rfl

theorem cutSign_zero {sign : List Char} {negative : Bool} (h : Sign sign negative) :
    cutSign (sign ++ ['0']) = (negative, ['0']) := by
  cases h <;> rfl

theorem exists_sign (s : List Char) :
    ∃ sign, Sign sign (cutSign s).1 ∧ s = sign ++ (cutSign s).2 := by
  fun_cases cutSign s with
  | case1 rest => exact ⟨['-'], .minus, rfl⟩
  | case2 rest => exact ⟨['+'], .plus, rfl⟩
  | case3 => exact ⟨[], .none, rfl⟩

theorem parseChars_eq_ok_iff {s : List Char} {nanos : Nat} :
    parseChars s = .ok nanos ↔ Means s nanos := by
  constructor
  · intro h
    obtain ⟨sign, hsign, hsplit⟩ := exists_sign s
    rw [parseChars] at h
    generalize cutSign s = cut at h hsign hsplit
    obtain ⟨negative, body⟩ := cut
    dsimp only at h hsign hsplit
    rw [hsplit]
    split at h
    · rename_i hzero
      cases h
      rw [hzero]
      exact .zero hsign
    · split at h
      · cases h
      · rename_i hne
        cases hsum : sumTerms 0 body with
        | error fault =>
          rw [hsum] at h
          cases h
        | ok sum =>
          rw [hsum] at h
          obtain ⟨later, hseries, hlater, -⟩ := (sumTerms_eq_ok_iff (by decide)).mp hsum
          obtain rfl : sum = later := by omega
          dsimp only at h
          split at h
          · cases h
          · rename_i hlimit
            cases h
            refine .series hsign hseries hne ?_
            rw [← limit_eq]
            omega
  · intro h
    cases h with
    | zero hsign =>
      rw [parseChars, cutSign_zero hsign]
      rfl
    | @series sign body negative sum hsign hbody hne hsum =>
      obtain ⟨hcut, hzero⟩ := hbody.cutSign_append hsign hne
      rw [← limit_eq] at hsum
      have hbound := limit_lt_sumBound negative
      have hsums : sumTerms 0 body = .ok sum :=
        (sumTerms_eq_ok_iff (by decide)).mpr ⟨sum, hbody, by omega, by omega⟩
      rw [parseChars, hcut]
      dsimp only
      rw [if_neg hzero, if_neg hne, hsums]
      exact if_neg (by omega)

/-- A text is read as a duration just when the grammar has it, as the exact sum of its terms: an
optional sign, then a lone zero or terms in a row whose sum is a signed number of 64 bits. The
rounds of the reader are no more than the characters that it reads. -/
theorem parse_eq_ok_iff_means (text : String) :
    (∀ nanos, parse text = .ok nanos ↔ Means text.toList nanos) ∧
      (∀ unit, fractionNanos [] unit = 0) ∧
      ∃ rounds ≤ (cutSign text.toList).2.length,
        Rounds rounds 0 (cutSign text.toList).2 (sumTerms 0 (cutSign text.toList).2) := by
  refine ⟨fun nanos => ?_, fractionNanos_nil, exists_rounds 0 _⟩
  rw [← parseChars_eq_ok_iff, parse]
  cases parseChars text.toList <;> simp

/-- Digits without end and a fraction do not keep a text from being read. -/
example : parse "+0000000000000000000000000000000000000000001.s.5ms" = .ok 1000500000 := by
  decide +kernel

end Reading

end Outband.Duration
