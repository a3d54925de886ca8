import ContractAudit.Proofs.Coverage.Verdict

/-!
# Coverage is safe and monotone

Counts can be integers of any size.  Their coverage is refused if one of them is
negative, zero if there is no function, too large for a double if one of the two
operands is, and otherwise a finite double.  Three roundings lie on the way, and
each of them grows with what it rounds, so that the coverage grows with the
assertions and falls with the functions, at all magnitudes.

Main results:

- Theorem {lit}`ratio_cases`: the four courses of the division.
- Theorems {lit}`quotient_mono` and {lit}`quotient_anti`: coverage grows with the
  assertions and falls with the functions.
- Theorem {lit}`coverage_safe_and_monotone`: both for all integers, with what
  follows for verdicts.
-/

namespace ContractAudit
namespace Number

/-- A ratio rounds beyond the largest double, where the exponents of the rounded number
have no upper end. -/
def RoundsBeyond (num den : Nat) : Prop :=
  largestUnits < nearestUnits (num * unitsPerOne) den

/-- The ratios that round beyond the largest double are those from the limit on. -/
theorem roundsBeyond_iff {num den : Nat} (hden : 0 < den) :
    RoundsBeyond num den ↔ finiteLimit * den ≤ num := by
  have hlimit : num * unitsPerOne < limitUnits * den ↔ num < finiteLimit * den := by
    rw [limitUnits_eq, Nat.mul_right_comm]
    exact Nat.mul_lt_mul_right unitsPerOne_pos
  unfold RoundsBeyond
  constructor
  · intro hbeyond
    by_contra hbelow
    have hle := nearestUnits_le_largestUnits hden (hlimit.2 (Nat.lt_of_not_le hbelow))
    omega
  · intro hlarge
    have hge : limitUnits * den ≤ num * unitsPerOne := by
      by_contra hlt
      have := hlimit.1 (Nat.lt_of_not_le hlt)
      omega
    have hover := overflowUnits_le_nearestUnits hden hge
    have hlargest := Nat.lt_trans largestUnits_lt_limitUnits limitUnits_lt_overflowUnits
    exact Nat.lt_of_lt_of_le hlargest hover

end Number

namespace Coverage

open Number

/-! ## The courses of the division -/

/-- One of the operands of a coverage is too large for a double: half the assertions, or
the functions. -/
def OverflowsDouble (assertions functions : Int) : Prop :=
  RoundsBeyond assertions.toNat assertionsPerFunction ∨ RoundsBeyond functions.toNat 1

/-- Counts with a function are representable unless an operand is too large. -/
theorem representable_iff {assertions functions : Nat} (hpos : 0 < functions) :
    Representable functions assertions ↔ ¬ OverflowsDouble assertions functions := by
  unfold Representable OverflowsDouble
  rw [Int.toNat_natCast, Int.toNat_natCast, roundsBeyond_iff (by decide),
    roundsBeyond_iff Nat.one_pos]
  omega

/-- A division refuses a negative count, gives zero without functions, finds an operand
too large, or has a quotient. -/
theorem ratio_cases (assertions functions : Int) :
    ((assertions < 0 ∨ functions < 0) ∧
      ratio assertions functions = .error (.negative assertions functions)) ∨
    (0 ≤ assertions ∧ functions = 0 ∧ ratio assertions functions = .ok .zero) ∨
    (0 ≤ assertions ∧ 1 ≤ functions ∧ OverflowsDouble assertions functions ∧
      ∃ e, ratio assertions functions = .error e ∧
        (e = .halfTooLarge ∨ e = .functionsTooLarge)) ∨
    (0 ≤ assertions ∧ 1 ≤ functions ∧ ¬ OverflowsDouble assertions functions ∧
      ∃ c, ratio assertions functions = .ok c) := by
  by_cases hnegative : assertions < 0 ∨ functions < 0
  · refine .inl ⟨hnegative, ?_⟩
    rw [ratio, if_pos hnegative]
  · by_cases hnone : functions = 0
    · refine .inr (.inl ⟨by omega, hnone, ?_⟩)
      rw [ratio, if_neg hnegative, if_pos hnone]
    · obtain ⟨a, rfl⟩ := Int.eq_ofNat_of_zero_le (show 0 ≤ assertions by omega)
      obtain ⟨f, rfl⟩ := Int.eq_ofNat_of_zero_le (show 0 ≤ functions by omega)
      have hrepresentable := @representable_iff a f (by omega)
      by_cases hlarge : OverflowsDouble a f
      · refine .inr (.inr (.inl ⟨by omega, by omega, hlarge, ?_⟩))
        apply ratio_of_not_representable
        rw [hrepresentable, not_not]
        exact hlarge
      · refine .inr (.inr (.inr ⟨by omega, by omega, hlarge, ?_⟩))
        exact ratio_of_representable (hrepresentable.2 hlarge)

/-- Counts are bad values exactly if one of them is negative. -/
theorem exists_badValue_iff (assertions functions : Int) :
    (∃ e message, ratio assertions functions = .error e ∧
      e.toFailure = .unexpected .badValue message) ↔ assertions < 0 ∨ functions < 0 := by
  rcases ratio_cases assertions functions with ⟨hnegative, hratio⟩ | ⟨ha, hnone, hratio⟩ |
    ⟨ha, hf, hlarge, e, hratio, hkind⟩ | ⟨ha, hf, hsmall, c, hratio⟩
  · exact iff_of_true ⟨_, _, hratio, rfl⟩ hnegative
  · exact iff_of_false (by simp [hratio]) (by omega)
  · refine iff_of_false ?_ (by omega)
    rcases hkind with rfl | rfl
    · simp [hratio, RatioError.toFailure]
    · simp [hratio, RatioError.toFailure]
  · exact iff_of_false (by simp [hratio]) (by omega)

/-- Counts overflow exactly if they are not negative, there are functions, and an operand
is too large. -/
theorem exists_overflow_iff (assertions functions : Int) :
    (∃ e message, ratio assertions functions = .error e ∧
      e.toFailure = .unexpected .overflow message) ↔
      0 ≤ assertions ∧ 1 ≤ functions ∧ OverflowsDouble assertions functions := by
  rcases ratio_cases assertions functions with ⟨hnegative, hratio⟩ | ⟨ha, hnone, hratio⟩ |
    ⟨ha, hf, hlarge, e, hratio, hkind⟩ | ⟨ha, hf, hsmall, c, hratio⟩
  · refine iff_of_false (by simp [hratio, RatioError.toFailure]) ?_
    rintro ⟨ha, hf, -⟩
    omega
  · refine iff_of_false (by simp [hratio]) ?_
    rintro ⟨-, hf, -⟩
    omega
  · refine iff_of_true ?_ ⟨ha, hf, hlarge⟩
    rcases hkind with rfl | rfl
    · exact ⟨_, _, hratio, rfl⟩
    · exact ⟨_, _, hratio, rfl⟩
  · exact iff_of_false (by simp [hratio]) fun h => hsmall h.2.2

/-- Counts have a coverage exactly if they are not negative and, if there are functions,
no operand is too large. -/
theorem exists_coverage_iff (assertions functions : Int) :
    (∃ c, ratio assertions functions = .ok c) ↔
      0 ≤ assertions ∧ 0 ≤ functions ∧
        (1 ≤ functions → ¬ OverflowsDouble assertions functions) := by
  rcases ratio_cases assertions functions with ⟨hnegative, hratio⟩ | ⟨ha, hnone, hratio⟩ |
    ⟨ha, hf, hlarge, e, hratio, hkind⟩ | ⟨ha, hf, hsmall, c, hratio⟩
  · refine iff_of_false (by simp [hratio]) ?_
    rintro ⟨ha, hf, -⟩
    omega
  · refine iff_of_true ⟨_, hratio⟩ ⟨ha, by omega, fun hf => ?_⟩
    omega
  · exact iff_of_false (by simp [hratio]) fun h => h.2.2 hf hlarge
  · exact iff_of_true ⟨c, hratio⟩ ⟨ha, by omega, fun _ => hsmall⟩

/-! ## Quotients -/

section Quotients

variable {assertions assertions' functions functions' : Nat} {c c' : Magnitude}

/-- The divisor of a coverage is not zero. -/
theorem divisor_pos (hpos : 0 < functions) (h : quotient assertions functions = .ok c) :
    0 < nearestUnits (functions * unitsPerOne) 1 := by
  obtain ⟨half, count, -, hcount, -⟩ := quotient_eq_ok h
  have hunits := ((Magnitude.ofRatio?_eq_some_iff Nat.one_pos).1 hcount).2
  rw [← hunits]
  exact Nat.lt_of_lt_of_le unitsPerOne_pos (unitsPerOne_le_of_ofNat? hpos hcount)

/-- More assertions never have a smaller coverage. -/
theorem quotient_mono (hpos : 0 < functions) (hle : assertions ≤ assertions')
    (h : quotient assertions functions = .ok c) (h' : quotient assertions' functions = .ok c') :
    c.units ≤ c'.units := by
  have hcount := divisor_pos hpos h
  have hhalf : nearestUnits (assertions * unitsPerOne) assertionsPerFunction ≤
      nearestUnits (assertions' * unitsPerOne) assertionsPerFunction := by
    refine nearestUnits_mono (by decide) (by decide) ?_
    gcongr
  rw [units_of_quotient h, units_of_quotient h']
  refine nearestUnits_mono hcount hcount ?_
  gcongr

/-- More functions never have a larger coverage, if there are some. -/
theorem quotient_anti (hpos : 0 < functions) (hle : functions ≤ functions')
    (h : quotient assertions functions = .ok c) (h' : quotient assertions functions' = .ok c') :
    c'.units ≤ c.units := by
  have hcount := divisor_pos hpos h
  have hmore : nearestUnits (functions * unitsPerOne) 1 ≤
      nearestUnits (functions' * unitsPerOne) 1 := by
    refine nearestUnits_mono Nat.one_pos Nat.one_pos ?_
    gcongr
  rw [units_of_quotient h, units_of_quotient h']
  refine nearestUnits_mono (Nat.lt_of_lt_of_le hcount hmore) hcount ?_
  gcongr

end Quotients

/-! ## Coverage of all integers -/

section Coverages

variable {assertions assertions' functions functions' : Int} {c c' : Magnitude}

/-- A coverage is the zero of counts without a function, or the quotient of natural
counts. -/
theorem ratio_eq_ok (h : ratio assertions functions = .ok c) :
    (functions = 0 ∧ c = .zero) ∨
      (0 ≤ assertions ∧ 1 ≤ functions ∧
        quotient assertions.toNat functions.toNat = .ok c) := by
  obtain ⟨hassertions, hfunctions⟩ := nonneg_of_ratio_eq_ok h
  rw [ratio, if_neg (by omega)] at h
  split_ifs at h with hnone
  · exact .inl ⟨hnone, (Except.ok.inj h).symm⟩
  · exact .inr ⟨hassertions, by omega, h⟩

/-- A coverage is a double. -/
theorem isDouble_of_ratio (h : ratio assertions functions = .ok c) : IsDouble c.units := by
  rcases ratio_eq_ok h with ⟨-, rfl⟩ | ⟨-, hpos, hquotient⟩
  · exact Nat.dvd_zero _
  · rw [units_of_quotient hquotient]
    exact isDouble_nearestUnits _ (divisor_pos (by omega) hquotient)

/-- A coverage of counts with a function is the quotient of two doubles, of which the
divisor is at least one. -/
theorem operands_of_ratio (hpos : 1 ≤ functions) (h : ratio assertions functions = .ok c) :
    ∃ half count, Magnitude.ofRatio? assertions.toNat assertionsPerFunction = some half ∧
      Magnitude.ofNat? functions.toNat = some count ∧ unitsPerOne ≤ count.units ∧
      half.div? count = some c := by
  rcases ratio_eq_ok h with ⟨hnone, -⟩ | ⟨-, -, hquotient⟩
  · omega
  · obtain ⟨half, count, hhalf, hcount, hdiv⟩ := quotient_eq_ok hquotient
    exact ⟨half, count, hhalf, hcount, unitsPerOne_le_of_ofNat? (by omega) hcount, hdiv⟩

/-- Larger coverages have the better verdict. -/
theorem classify_of_units_le (hle : c.units ≤ c'.units)
    (hsane : classify (.finite false c) = .sane) : classify (.finite false c') = .sane := by
  rw [classify_eq_sane_iff] at hsane ⊢
  omega

/-- More assertions never have a smaller coverage. -/
theorem ratio_mono (hle : assertions ≤ assertions') (h : ratio assertions functions = .ok c)
    (h' : ratio assertions' functions = .ok c') : c.units ≤ c'.units := by
  rcases ratio_eq_ok h with ⟨-, rfl⟩ | ⟨-, hpos, hquotient⟩
  · exact Nat.zero_le _
  · rcases ratio_eq_ok h' with ⟨hnone, -⟩ | ⟨-, -, hquotient'⟩
    · omega
    · exact quotient_mono (by omega) (by omega) hquotient hquotient'

/-- More functions never have a larger coverage, if there are some. -/
theorem ratio_anti (hpos : 1 ≤ functions) (hle : functions ≤ functions')
    (h : ratio assertions functions = .ok c) (h' : ratio assertions functions' = .ok c') :
    c'.units ≤ c.units := by
  rcases ratio_eq_ok h with ⟨hnone, -⟩ | ⟨-, -, hquotient⟩
  · omega
  · rcases ratio_eq_ok h' with ⟨hnone, -⟩ | ⟨-, -, hquotient'⟩
    · omega
    · exact quotient_anti (by omega) (by omega) hquotient hquotient'

end Coverages

/-- What the division of two counts promises, and how its result changes with them. -/
structure SafeAndMonotone (assertions functions : Int) : Prop where
  /-- The counts are bad values exactly if one of them is negative. -/
  refused : (∃ e message, ratio assertions functions = .error e ∧
      e.toFailure = .unexpected .badValue message) ↔ assertions < 0 ∨ functions < 0
  /-- Without functions the coverage is zero, however many assertions there are. -/
  empty : 0 ≤ assertions → functions = 0 → ratio assertions functions = .ok .zero
  /-- The division overflows exactly if there are functions, and half the assertions or the
  functions round beyond the largest double. -/
  overflow : (∃ e message, ratio assertions functions = .error e ∧
      e.toFailure = .unexpected .overflow message) ↔
    0 ≤ assertions ∧ 1 ≤ functions ∧ OverflowsDouble assertions functions
  /-- In all other cases there is a coverage. -/
  defined : (∃ c, ratio assertions functions = .ok c) ↔
    0 ≤ assertions ∧ 0 ≤ functions ∧ (1 ≤ functions → ¬ OverflowsDouble assertions functions)
  /-- A coverage is a double, and not beyond the largest. -/
  finite : ∀ c, ratio assertions functions = .ok c →
    IsDouble c.units ∧ c.units ≤ largestUnits
  /-- With functions it is the rounded quotient of the two rounded operands, of which the
  divisor is at least one. -/
  divided : ∀ c, 1 ≤ functions → ratio assertions functions = .ok c → ∃ half count,
    Magnitude.ofRatio? assertions.toNat assertionsPerFunction = some half ∧
      Magnitude.ofNat? functions.toNat = some count ∧ unitsPerOne ≤ count.units ∧
      half.div? count = some c
  /-- More assertions never have a smaller coverage, and keep a sane verdict. -/
  more_assertions : ∀ assertions' c c', assertions ≤ assertions' →
    ratio assertions functions = .ok c → ratio assertions' functions = .ok c' →
    c.units ≤ c'.units ∧
      (classify (.finite false c) = .sane → classify (.finite false c') = .sane)
  /-- More functions, if there are some, never have a larger coverage, and keep the verdict
  that help is needed. -/
  more_functions : ∀ functions' c c', 1 ≤ functions → functions ≤ functions' →
    ratio assertions functions = .ok c → ratio assertions functions' = .ok c' →
    c'.units ≤ c.units ∧
      (classify (.finite false c) = .needsHelp → classify (.finite false c') = .needsHelp)

/-- Coverage is safe and monotone for integers of any size. -/
theorem coverage_safe_and_monotone (assertions functions : Int) :
    SafeAndMonotone assertions functions := by
  constructor
  · exact exists_badValue_iff assertions functions
  · intro ha hnone
    rw [ratio, if_neg (by omega), if_pos hnone]
  · exact exists_overflow_iff assertions functions
  · exact exists_coverage_iff assertions functions
  · intro c hc
    exact ⟨isDouble_of_ratio hc, units_le_largestUnits_of_ratio hc⟩
  · intro c hf hc
    exact operands_of_ratio hf hc
  · intro assertions' c c' hle hc hc'
    have hunits := ratio_mono hle hc hc'
    exact ⟨hunits, classify_of_units_le hunits⟩
  · intro functions' c c' hf hle hc hc'
    have hunits := ratio_anti hf hle hc hc'
    refine ⟨hunits, fun hhelp => ?_⟩
    -- a sane verdict for more functions would be one for fewer
    cases hverdict : classify (.finite false c') with
    | needsHelp => rfl
    | sane =>
        rw [classify_of_units_le hunits hverdict] at hhelp
        cases hhelp

end Coverage
end ContractAudit
