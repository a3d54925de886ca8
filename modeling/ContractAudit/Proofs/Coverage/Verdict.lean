import Mathlib.Algebra.Order.Field.Rat
import ContractAudit.Proofs.Coverage.Range
import ContractAudit.Proofs.Number.Scaling

/-!
# Verdicts are exact

A verdict compares a coverage, which has been rounded twice, with a threshold
that is itself not four fifths but the double nearest to it, a little above.
Up to `2 ^ 49` functions this makes no difference.  Counts that are not above
four fifths keep their quotient at or below it, and four fifths rounds to the
threshold.  Counts that are above it are above it by a tenth of a function at
least, which is more than the way to the double after the threshold.

Main results:

- Theorem {lit}`classify_of_le`: counts up to four fifths need help.
- Theorem {lit}`classify_of_lt`: counts above four fifths are sane.
- Theorem {lit}`verdict_is_exact`: the verdict is that of the exact quotient.
-/

namespace ContractAudit
namespace Coverage

open Number

/-! ## The operands of a coverage -/

/-- A coverage is the rounded quotient of its two rounded operands. -/
theorem units_of_quotient {assertions functions : Nat} {c : Magnitude}
    (h : quotient assertions functions = .ok c) :
    c.units = nearestUnits
      (nearestUnits (assertions * unitsPerOne) assertionsPerFunction * unitsPerOne)
      (nearestUnits (functions * unitsPerOne) 1) := by
  obtain ⟨half, count, hhalf, hcount, hquotient⟩ := quotient_eq_ok h
  rw [Magnitude.ofRatio?_eq_some_iff (by decide)] at hhalf
  rw [Magnitude.ofNat?, Magnitude.ofRatio?_eq_some_iff Nat.one_pos] at hcount
  rw [(units_of_div? hquotient).1, hhalf.2, hcount.2]

/-- The units of one are twice those of its half. -/
theorem unitsPerOne_eq_double : unitsPerOne = twoTo 1073 * assertionsPerFunction := by
  decide +kernel

/-- Halves of counts below `2 ^ 53` are not rounded. -/
theorem nearestUnits_half {n : Nat} (hn : n < twoTo 53) :
    nearestUnits (n * unitsPerOne) assertionsPerFunction = n * twoTo 1073 := by
  rw [unitsPerOne_eq_double, ← Nat.mul_assoc]
  exact nearestUnits_mul_self (isDouble_mul_twoTo hn 1073) (by decide)

/-- Counts below `2 ^ 53` are not rounded. -/
theorem nearestUnits_whole {n : Nat} (hn : n < twoTo 53) :
    nearestUnits (n * unitsPerOne) 1 = n * unitsPerOne := by
  have h := nearestUnits_mul_self (isDouble_mul_twoTo hn 1074) Nat.one_pos
  rwa [Nat.mul_one] at h

/-! ## The threshold between its neighbours -/

/-- The double after the threshold. -/
def aboveThreshold : Magnitude := ⟨7205759403792795 * twoTo 1021⟩

theorem threshold_lt_aboveThreshold : threshold.units < aboveThreshold.units := by
  decide +kernel

/-- The threshold is the double nearest to four fifths. -/
theorem ofRatio?_four_fifths : Magnitude.ofRatio? 4 5 = some threshold := by
  decide +kernel

/-- Four fifths rounds to the threshold. -/
theorem nearestUnits_four_fifths : nearestUnits (4 * unitsPerOne) 5 = threshold.units :=
  ((Magnitude.ofRatio?_eq_some_iff (by decide)).1 ofRatio?_four_fifths).2.symm

theorem nearestUnits_aboveThreshold :
    nearestUnits aboveThreshold.units 1 = aboveThreshold.units := by
  have h := nearestUnits_mul_self
    (isDouble_mul_twoTo (show 7205759403792795 < twoTo 53 by decide +kernel) 1021) Nat.one_pos
  rwa [Nat.mul_one] at h

/-- A coverage is sane if its units exceed those of the threshold. -/
theorem classify_eq_sane_iff (c : Magnitude) :
    classify (.finite false c) = .sane ↔ threshold.units < c.units := by
  unfold classify Double.exceeds
  by_cases h : threshold.units < c.units <;> simp [h]

variable {assertions functions : Nat} {c : Magnitude}

/-- Counts whose quotient is at most four fifths need help. -/
theorem classify_of_le (hpos : 0 < functions) (hle : functions ≤ twoTo 49)
    (h : quotient assertions functions = .ok c) (hquotient : 5 * assertions ≤ 8 * functions) :
    classify (.finite false c) ≠ .sane := by
  rw [Ne, classify_eq_sane_iff, Nat.not_lt, units_of_quotient h, ← nearestUnits_four_fifths]
  have hbound : 8 * twoTo 49 < twoTo 53 := by decide
  rw [nearestUnits_half (by omega), nearestUnits_whole (by omega)]
  refine nearestUnits_mono (Nat.mul_pos hpos unitsPerOne_pos) (by decide) ?_
  calc assertions * twoTo 1073 * unitsPerOne * 5
      = 5 * assertions * (twoTo 1073 * unitsPerOne) := by ring
    _ ≤ 8 * functions * (twoTo 1073 * unitsPerOne) := by gcongr
    _ = 4 * (twoTo 1073 * assertionsPerFunction) * (functions * unitsPerOne) := by
        rw [assertionsPerFunction]; ring
    _ = 4 * unitsPerOne * (functions * unitsPerOne) := by rw [← unitsPerOne_eq_double]

/-- Counts whose quotient is above four fifths are sane. -/
theorem classify_of_lt (hpos : 0 < functions) (hle : functions ≤ twoTo 49)
    (h : quotient assertions functions = .ok c) (hquotient : 8 * functions < 5 * assertions) :
    classify (.finite false c) = .sane := by
  rw [classify_eq_sane_iff, units_of_quotient h]
  refine Nat.lt_of_lt_of_le threshold_lt_aboveThreshold ?_
  rw [← nearestUnits_aboveThreshold]
  have hbound : 8 * twoTo 49 < twoTo 53 := by decide
  -- The least number of assertions above four fifths is small enough for an exact half.
  have hleast : (8 * functions / 5 + 1) * twoTo 1073 ≤
      nearestUnits (assertions * unitsPerOne) assertionsPerFunction := by
    rw [← nearestUnits_half (by omega)]
    refine nearestUnits_mono (by decide) (by decide) ?_
    gcongr
    omega
  -- A tenth of a function is more than the way to the double after the threshold.
  have hgap : 7205759403792795 * functions ≤ (8 * functions / 5 + 1) * twoTo 52 := by
    have h49 : functions ≤ 562949953421312 := hle
    have h52 : twoTo 52 = 4503599627370496 := by decide +kernel
    rw [h52]
    omega
  rw [nearestUnits_whole (by omega)]
  refine nearestUnits_mono Nat.one_pos (Nat.mul_pos hpos unitsPerOne_pos) ?_
  rw [Nat.mul_one, ← Nat.mul_assoc]
  gcongr
  calc aboveThreshold.units * functions = 7205759403792795 * functions * twoTo 1021 := by
        rw [aboveThreshold]; ring
    _ ≤ (8 * functions / 5 + 1) * twoTo 52 * twoTo 1021 := by gcongr
    _ = (8 * functions / 5 + 1) * twoTo 1073 := by rw [Nat.mul_assoc, ← twoTo_add]
    _ ≤ nearestUnits (assertions * unitsPerOne) assertionsPerFunction := hleast

/-! ## Verdicts of counts -/

/-- Up to `2 ^ 49` functions, a coverage is sane if its counts are above four fifths. -/
theorem classify_ratio_iff {assertions functions : Int} (hpos : 1 ≤ functions)
    (hle : functions ≤ 2 ^ 49) (h : ratio assertions functions = .ok c) :
    classify (.finite false c) = .sane ↔ 8 * functions < 5 * assertions := by
  obtain ⟨hassertions, hfunctions⟩ := nonneg_of_ratio_eq_ok h
  obtain ⟨a, rfl⟩ := Int.eq_ofNat_of_zero_le hassertions
  obtain ⟨f, rfl⟩ := Int.eq_ofNat_of_zero_le hfunctions
  have hf : 0 < f := by omega
  have hlimit : f ≤ twoTo 49 := Int.ofNat_le.1 hle
  rw [ratio_of_pos hf] at h
  constructor
  · intro hsane
    by_contra hquotient
    exact classify_of_le hf hlimit h (by omega) hsane
  · intro hquotient
    exact classify_of_lt hf hlimit h (by omega)

/-- Up to `2 ^ 49` functions, counts have a coverage if the half of the assertions has a
double. -/
theorem exists_ratio_iff {assertions functions : Int} (hassertions : 0 ≤ assertions)
    (hpos : 1 ≤ functions) (hle : functions ≤ 2 ^ 49) :
    (∃ c, ratio assertions functions = .ok c) ↔
      assertions < finiteLimit * assertionsPerFunction := by
  obtain ⟨a, rfl⟩ := Int.eq_ofNat_of_zero_le hassertions
  obtain ⟨f, rfl⟩ := Int.eq_ofNat_of_zero_le (Int.le_trans (by decide) hpos)
  have hlimit : f ≤ twoTo 49 := Int.ofNat_le.1 hle
  have hfinite : twoTo 49 < finiteLimit := by decide +kernel
  constructor
  · rintro ⟨c, hc⟩
    by_contra hlarge
    have hnone : ¬ Representable f a := by
      rintro (hzero | ⟨hhalf, -⟩)
      · omega
      · exact hlarge (by exact_mod_cast hhalf)
    obtain ⟨e, he, -⟩ := ratio_of_not_representable hnone
    rw [hc] at he
    cases he
  · intro hhalf
    refine ratio_of_representable (.inr ⟨by exact_mod_cast hhalf, ?_⟩)
    exact Nat.lt_of_le_of_lt hlimit hfinite

/-- Two counts are above four fifths if their exact quotient is. -/
theorem above_four_fifths_iff {functions : Int} (hpos : 1 ≤ functions) (assertions : Int) :
    8 * functions < 5 * assertions ↔ (4 / 5 : ℚ) < (assertions / 2 : ℚ) / functions := by
  have hf : (0 : ℚ) < functions := by exact_mod_cast hpos
  have hcast : 8 * functions < 5 * assertions ↔ (8 * functions : ℚ) < 5 * assertions := by
    norm_cast
  rw [hcast, lt_div_iff₀ hf]
  constructor
  · intro h
    linarith
  · intro h
    linarith

/-- The verdict in double precision is the exact one.  For counts with at least one and at
most `2 ^ 49` functions whose coverage does not overflow, it is sane exactly if half the
assertions per function are more than four fifths; the threshold is the double nearest to
four fifths. -/
theorem verdict_is_exact {assertions functions : Int} (hassertions : 0 ≤ assertions)
    (hpos : 1 ≤ functions) (hle : functions ≤ 2 ^ 49) :
    Magnitude.ofRatio? 4 5 = some threshold ∧
    ((∃ c, ratio assertions functions = .ok c) ↔
      assertions < finiteLimit * assertionsPerFunction) ∧
    ∀ c, ratio assertions functions = .ok c →
      (classify (.finite false c) = .sane ↔ 5 * assertions > 8 * functions) ∧
      (classify (.finite false c) = .sane ↔
        (assertions / 2 : ℚ) / functions > (4 / 5 : ℚ)) := by
  refine ⟨ofRatio?_four_fifths, exists_ratio_iff hassertions hpos hle, ?_⟩
  intro c hc
  have hexact := classify_ratio_iff hpos hle hc
  exact ⟨hexact, hexact.trans (above_four_fifths_iff hpos assertions)⟩

/-- At the largest number of functions one assertion decides. -/
theorem verdict_is_exact_at_limit :
    (∃ c, ratio 900719925474100 (2 ^ 49) = .ok c ∧ classify (.finite false c) = .sane) ∧
      ∃ c, ratio 900719925474099 (2 ^ 49) = .ok c ∧ classify (.finite false c) = .needsHelp := by
  obtain ⟨-, hdefined, hexact⟩ :=
    @verdict_is_exact 900719925474100 (2 ^ 49) (by decide) (by decide) (by decide)
  obtain ⟨-, hdefined', hexact'⟩ :=
    @verdict_is_exact 900719925474099 (2 ^ 49) (by decide) (by decide) (by decide)
  obtain ⟨c, hc⟩ := hdefined.2 (by decide +kernel)
  obtain ⟨c', hc'⟩ := hdefined'.2 (by decide +kernel)
  refine ⟨⟨c, hc, (hexact c hc).1.2 (by decide)⟩, c', hc', ?_⟩
  cases hverdict : classify (.finite false c') with
  | needsHelp => rfl
  | sane => exact absurd ((hexact' c' hc').1.1 hverdict) (by decide)

end Coverage
end ContractAudit
