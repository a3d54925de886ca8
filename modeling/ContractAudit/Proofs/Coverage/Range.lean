import ContractAudit.Proofs.Coverage.Recording
import ContractAudit.Proofs.Number.Nearest

/-!
# Counts that have a coverage

Counts that are not negative have a coverage unless one of the two operands of
the division rounds to no finite double.  The quotient itself never leaves the
finite doubles, since the number of functions is at least one.

Main results:

- Theorem {lit}`ratio_of_representable`: representable counts have a coverage.
- Theorem {lit}`ratio_of_not_representable`: other counts are too large for a
  double, and the failure says so.
- Theorem {lit}`Representable.mono`: counts below representable ones are
  representable.
-/

namespace ContractAudit
namespace Coverage

open Number

/-- Counts whose coverage can be computed in double precision. -/
def Representable (functions assertions : Nat) : Prop :=
  functions = 0 ∨ assertions < finiteLimit * assertionsPerFunction ∧ functions < finiteLimit

instance (functions assertions : Nat) : Decidable (Representable functions assertions) :=
  inferInstanceAs (Decidable (_ ∨ _))

/-- Counts below representable ones are representable. -/
theorem Representable.mono {functions assertions functions' assertions' : Nat}
    (h : Representable functions' assertions') (hfunctions : functions ≤ functions')
    (hassertions : assertions ≤ assertions') : Representable functions assertions := by
  rcases h with hzero | ⟨hhalf, hmany⟩
  · left
    omega
  · right
    exact ⟨Nat.lt_of_le_of_lt hassertions hhalf, Nat.lt_of_le_of_lt hfunctions hmany⟩

/-- The double of a positive number of functions is at least one. -/
theorem unitsPerOne_le_of_ofNat? {functions : Nat} (hpos : 0 < functions) {f : Magnitude}
    (h : Magnitude.ofNat? functions = some f) : unitsPerOne ≤ f.units := by
  have hunits := ((Magnitude.ofRatio?_eq_some_iff Nat.one_pos).1 h).2
  have hone : nearestUnits unitsPerOne 1 = unitsPerOne := by decide +kernel
  rw [hunits, ← hone]
  refine nearestUnits_mono Nat.one_pos Nat.one_pos ?_
  rw [hone]
  exact Nat.mul_le_mul_right 1 (Nat.le_mul_of_pos_left unitsPerOne hpos)

/-- The half of a number of assertions that has a double lies below the limit. -/
theorem units_lt_limitUnits_of_ofRatio? {num den : Nat} (hden : 0 < den) {m : Magnitude}
    (h : Magnitude.ofRatio? num den = some m) : m.units < limitUnits := by
  obtain ⟨hlt, hunits⟩ := (Magnitude.ofRatio?_eq_some_iff hden).1 h
  rw [hunits]
  refine Nat.lt_of_le_of_lt (nearestUnits_le_largestUnits hden ?_) largestUnits_lt_limitUnits
  rw [limitUnits_eq, Nat.mul_right_comm]
  exact (Nat.mul_lt_mul_right unitsPerOne_pos).2 hlt

/-- Counts whose operands have doubles have a coverage. -/
theorem exists_quotient {functions assertions : Nat} (hpos : 0 < functions)
    (hhalf : assertions < finiteLimit * assertionsPerFunction) (hmany : functions < finiteLimit) :
    ∃ c, quotient assertions functions = .ok c := by
  have hden : 0 < assertionsPerFunction := by decide
  cases ha : Magnitude.ofRatio? assertions assertionsPerFunction with
  | none =>
      rw [Magnitude.ofRatio?_eq_none_iff hden] at ha
      omega
  | some half =>
      cases hf : Magnitude.ofNat? functions with
      | none =>
          rw [Magnitude.ofNat?, Magnitude.ofRatio?_eq_none_iff Nat.one_pos] at hf
          omega
      | some f =>
          obtain ⟨c, hc⟩ := Magnitude.exists_div? (units_lt_limitUnits_of_ofRatio? hden ha)
            (unitsPerOne_le_of_ofNat? hpos hf)
          refine ⟨c, ?_⟩
          rw [quotient, ha, hf, divide, hc, Option.elim_some]

/-- Representable counts have a coverage. -/
theorem ratio_of_representable {functions assertions : Nat}
    (h : Representable functions assertions) :
    ∃ c, ratio (assertions : Int) (functions : Int) = .ok c := by
  unfold ratio
  rw [if_neg (by omega)]
  split_ifs with hzero
  · exact ⟨.zero, rfl⟩
  · rcases h with hnone | ⟨hhalf, hmany⟩
    · omega
    · exact exists_quotient (by omega) hhalf hmany

/-- With a function the coverage of natural counts is their quotient. -/
theorem ratio_of_pos {functions : Nat} (hpos : 0 < functions) (assertions : Nat) :
    ratio (assertions : Int) (functions : Int) = quotient assertions functions := by
  unfold ratio
  rw [if_neg (by omega), if_neg (by omega), Int.toNat_natCast, Int.toNat_natCast]

/-- Counts that are not representable are too large for a double. -/
theorem ratio_of_not_representable {functions assertions : Nat}
    (h : ¬ Representable functions assertions) :
    ∃ e, ratio (assertions : Int) (functions : Int) = .error e ∧
      (e = .halfTooLarge ∨ e = .functionsTooLarge) := by
  have hden : 0 < assertionsPerFunction := by decide
  obtain ⟨hpos, hlarge⟩ := not_or.1 h
  rw [ratio_of_pos (Nat.pos_of_ne_zero hpos)]
  cases ha : Magnitude.ofRatio? assertions assertionsPerFunction with
  | none =>
      refine ⟨.halfTooLarge, ?_, .inl rfl⟩
      rw [quotient, ha, divide]
  | some half =>
      have hhalf := ((Magnitude.ofRatio?_eq_some_iff hden).1 ha).1
      have hmany : Magnitude.ofNat? functions = none := by
        rw [Magnitude.ofNat?, Magnitude.ofRatio?_eq_none_iff Nat.one_pos]
        omega
      refine ⟨.functionsTooLarge, ?_, .inr rfl⟩
      rw [quotient, ha, hmany, divide]

/-- Natural counts without a coverage lead to an overflow. -/
theorem toFailure_of_ratio_eq_error {functions assertions : Nat} {e : RatioError}
    (h : ratio (assertions : Int) (functions : Int) = .error e) :
    ∃ message, e.toFailure = .unexpected .overflow message := by
  by_cases hrep : Representable functions assertions
  · obtain ⟨c, hc⟩ := ratio_of_representable hrep
    rw [hc] at h
    cases h
  · obtain ⟨e', hratio, hlarge⟩ := ratio_of_not_representable hrep
    rw [hratio] at h
    obtain rfl : e' = e := Except.error.inj h
    rcases hlarge with rfl | rfl
    · exact ⟨_, rfl⟩
    · exact ⟨_, rfl⟩

/-- Representable counts have a row. -/
theorem Row.exists_ofCounts {functions assertions : Nat} (h : Representable functions assertions)
    (label : String) : ∃ row, Row.ofCounts label functions assertions = .ok row := by
  obtain ⟨c, hc⟩ := ratio_of_representable h
  cases hrow : Row.ofCounts label (functions : Int) (assertions : Int) with
  | ok row => exact ⟨row, rfl⟩
  | error e =>
      rw [Row.ofCounts_eq_error_iff, hc] at hrow
      cases hrow

/-- Counts have a row exactly if they are representable. -/
theorem Row.exists_ofCounts_iff (label : String) (functions assertions : Nat) :
    (∃ row, Row.ofCounts label functions assertions = .ok row) ↔
      Representable functions assertions := by
  refine ⟨?_, fun h => Row.exists_ofCounts h label⟩
  rintro ⟨row, hrow⟩
  by_contra hlarge
  obtain ⟨e, he, -⟩ := ratio_of_not_representable hlarge
  rw [← Row.ofCounts_eq_error_iff, hrow] at he
  cases he

/-- A quotient of doubles is the rounded one, and it is finite. -/
theorem units_of_div? {x y c : Magnitude} (h : x.div? y = some c) :
    c.units = nearestUnits (x.units * unitsPerOne) y.units ∧ c.units < overflowUnits := by
  unfold Magnitude.div? at h
  dsimp only at h
  split_ifs at h with hfinite
  obtain rfl := Option.some.inj h
  exact ⟨rfl, hfinite⟩

/-- A coverage of counts with a function is the quotient of two doubles. -/
theorem quotient_eq_ok {assertions functions : Nat} {c : Magnitude}
    (h : quotient assertions functions = .ok c) :
    ∃ half count, Magnitude.ofRatio? assertions assertionsPerFunction = some half ∧
      Magnitude.ofNat? functions = some count ∧ half.div? count = some c := by
  unfold quotient at h
  cases hhalf : Magnitude.ofRatio? assertions assertionsPerFunction with
  | none =>
      rw [hhalf] at h
      cases h
  | some half =>
      cases hcount : Magnitude.ofNat? functions with
      | none =>
          rw [hhalf, hcount] at h
          cases h
      | some count =>
          rw [hhalf, hcount, divide] at h
          cases hquotient : half.div? count with
          | none =>
              rw [hquotient] at h
              cases h
          | some z =>
              rw [hquotient] at h
              obtain rfl : z = c := Except.ok.inj h
              exact ⟨half, count, rfl, rfl, hquotient⟩

/-- The coverage of counts with a function is a finite double. -/
theorem units_le_largestUnits_of_quotient {assertions functions : Nat} {c : Magnitude}
    (hpos : 0 < functions) (h : quotient assertions functions = .ok c) :
    c.units ≤ largestUnits := by
  obtain ⟨half, count, -, hcount, hquotient⟩ := quotient_eq_ok h
  obtain ⟨hunits, hfinite⟩ := units_of_div? hquotient
  have hpositive : 0 < count.units :=
    Nat.lt_of_lt_of_le unitsPerOne_pos (unitsPerOne_le_of_ofNat? hpos hcount)
  rw [hunits] at hfinite ⊢
  exact nearestUnits_le_largestUnits hpositive
    ((nearestUnits_lt_overflowUnits_iff hpositive).1 hfinite)

/-- A coverage is a finite double. -/
theorem units_le_largestUnits_of_ratio {assertions functions : Int} {c : Magnitude}
    (h : ratio assertions functions = .ok c) : c.units ≤ largestUnits := by
  unfold ratio at h
  split at h
  next => cases h
  next hnonneg =>
    split at h
    next =>
      obtain rfl := Except.ok.inj h
      exact Nat.zero_le _
    next hfunctions => exact units_le_largestUnits_of_quotient (by omega) h

end Coverage
end ContractAudit
