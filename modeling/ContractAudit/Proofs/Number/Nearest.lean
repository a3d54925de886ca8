import Mathlib.Tactic.Linarith
import Mathlib.Tactic.Ring
import ContractAudit.Number.Binary64

/-!
# Rounding to the nearest double

The nearest integer to a quotient, and the nearest double to it, depend on the
quotient alone and grow with it.  Quotients of one power of two have one
spacing; between quotients of two powers lies a power of two, which is a double
of either spacing.

Main results:

- Theorem {lit}`roundDiv_bounds`: the nearest integer is at most half a unit away.
- Theorem {lit}`roundDiv_mono`: a larger quotient never rounds to a smaller
  integer.
- Theorem {lit}`nearestUnits_mono`: a larger quotient never rounds to a smaller
  double.
- Theorem {lit}`nearestUnits_lt_overflowUnits_iff`: a quotient rounds to a finite
  double exactly below the point half-way beyond the largest one.
-/

namespace ContractAudit
namespace Number

/-! ## Nearest integers -/

/-- The rounded quotient is at most half a unit away from the quotient, and it is even
where it is half a unit away. -/
theorem roundDiv_bounds (num : Nat) {den : Nat} (hden : 0 < den) :
    2 * (roundDiv num den * den) ≤ 2 * num + den ∧
      2 * num ≤ 2 * (roundDiv num den * den) + den ∧
      (2 * (roundDiv num den * den) = 2 * num + den ∨
        2 * num = 2 * (roundDiv num den * den) + den → roundDiv num den % 2 = 0) := by
  have hsplit : num / den * den + num % den = num := Nat.div_add_mod' num den
  have hlt : num % den < den := Nat.mod_lt num hden
  unfold roundDiv
  dsimp only
  generalize num / den = q at *
  generalize num % den = r at *
  split_ifs with hbelow habove
  · omega
  · rw [Nat.add_mul, Nat.one_mul]
    omega
  · rcases Nat.mod_two_eq_zero_or_one q with hq | hq
    · rw [hq, Nat.add_zero]
      omega
    · rw [hq, Nat.add_mul, Nat.one_mul]
      omega

/-- A larger quotient never rounds to a smaller integer. -/
theorem roundDiv_mono {num den num' den' : Nat} (hden : 0 < den) (hden' : 0 < den')
    (h : num * den' ≤ num' * den) : roundDiv num den ≤ roundDiv num' den' := by
  obtain ⟨hupper, -, heven⟩ := roundDiv_bounds num hden
  obtain ⟨-, hlower, heven'⟩ := roundDiv_bounds num' hden'
  generalize roundDiv num den = k at *
  generalize roundDiv num' den' = k' at *
  by_contra hlt
  -- Otherwise the two quotients meet half-way between the integers, and both are even.
  have hk : k' + 1 ≤ k := by omega
  have hscaled : k' * den' * den + den * den' ≤ k * den * den' := by
    calc k' * den' * den + den * den' = (k' + 1) * den * den' := by ring
      _ ≤ k * den * den' := by gcongr
  have hleft : 2 * (k * den * den') ≤ 2 * (num * den') + den * den' := by
    calc 2 * (k * den * den') = 2 * (k * den) * den' := by ring
      _ ≤ (2 * num + den) * den' := by gcongr
      _ = 2 * (num * den') + den * den' := by ring
  have hright : 2 * (num' * den) ≤ 2 * (k' * den' * den) + den * den' := by
    calc 2 * (num' * den) = 2 * num' * den := by ring
      _ ≤ (2 * (k' * den') + den') * den := by gcongr
      _ = 2 * (k' * den' * den) + den * den' := by ring
  have hk_even : k % 2 = 0 := by
    refine heven (.inl (Nat.eq_of_mul_eq_mul_right hden' ?_))
    linarith
  have hk'_even : k' % 2 = 0 := by
    refine heven' (.inr (Nat.eq_of_mul_eq_mul_right hden ?_))
    linarith
  have hnext : k = k' + 1 := by
    refine Nat.eq_of_mul_eq_mul_right (Nat.mul_pos hden hden') ?_
    linarith
  omega

/-! ## Nearest doubles -/

theorem twoTo_add (m n : Nat) : twoTo (m + n) = twoTo m * twoTo n :=
  Nat.pow_add 2 m n

/-- A quotient of at most a multiple of the spacing rounds to at most that multiple. -/
theorem nearestUnits_le {num den m : Nat} (hden : 0 < den)
    (h : num ≤ m * spacing (num / den) * den) :
    nearestUnits num den ≤ m * spacing (num / den) := by
  have hs : 0 < spacing (num / den) := twoTo_pos _
  unfold nearestUnits
  dsimp only
  generalize spacing (num / den) = s at *
  have hpos : 0 < den * s := Nat.mul_pos hden hs
  have hround : roundDiv num (den * s) ≤ roundDiv (m * (den * s)) (den * s) := by
    refine roundDiv_mono hpos hpos ?_
    gcongr
    calc num ≤ m * s * den := h
      _ = m * (den * s) := by ring
  rw [roundDiv_mul_self m hpos] at hround
  gcongr

/-- A quotient of at least a multiple of the spacing rounds to at least that multiple. -/
theorem le_nearestUnits {num den m : Nat} (hden : 0 < den)
    (h : m * spacing (num / den) * den ≤ num) :
    m * spacing (num / den) ≤ nearestUnits num den := by
  have hs : 0 < spacing (num / den) := twoTo_pos _
  unfold nearestUnits
  dsimp only
  generalize spacing (num / den) = s at *
  have hpos : 0 < den * s := Nat.mul_pos hden hs
  have hround : roundDiv (m * (den * s)) (den * s) ≤ roundDiv num (den * s) := by
    refine roundDiv_mono hpos hpos ?_
    gcongr
    calc m * (den * s) = m * s * den := by ring
      _ ≤ num := h
  rw [roundDiv_mul_self m hpos] at hround
  gcongr

/-- A power of two that is at least the quotient's own is a multiple of the spacing. -/
theorem twoTo_eq_mul_spacing {q e : Nat} (h : q.log2 ≤ e) :
    twoTo e = twoTo (e - (q.log2 - 52)) * spacing q := by
  rw [spacing, ← twoTo_add]
  congr 1
  omega

/-- A quotient up to a power of two rounds to at most that power. -/
theorem nearestUnits_le_twoTo {num den e : Nat} (hden : 0 < den) (he : (num / den).log2 ≤ e)
    (h : num ≤ twoTo e * den) : nearestUnits num den ≤ twoTo e := by
  rw [twoTo_eq_mul_spacing he] at h ⊢
  exact nearestUnits_le hden h

/-- A quotient from a power of two on rounds to at least that power. -/
theorem twoTo_le_nearestUnits {num den e : Nat} (hden : 0 < den) (he : (num / den).log2 ≤ e)
    (h : twoTo e * den ≤ num) : twoTo e ≤ nearestUnits num den := by
  rw [twoTo_eq_mul_spacing he] at h ⊢
  exact le_nearestUnits hden h

/-- The binary logarithm is below every exponent of a larger power of two. -/
theorem log2_lt_of_lt_twoTo {q e : Nat} (he : 0 < e) (h : q < twoTo e) : q.log2 < e := by
  by_cases hq : q = 0
  · simpa [hq] using he
  · exact (Nat.log2_lt hq).2 h

/-- A number lies below the next power of two, hence below every later one. -/
theorem lt_twoTo_of_log2_lt {q e : Nat} (h : q.log2 < e) : q < twoTo e :=
  Nat.lt_of_lt_of_le Nat.lt_log2_self (Nat.pow_le_pow_right (by decide) h)

/-- The binary logarithm grows with the number. -/
theorem log2_le_log2 {q q' : Nat} (h : q ≤ q') : q.log2 ≤ q'.log2 := by
  have hlt : q < twoTo (q'.log2 + 1) := Nat.lt_of_le_of_lt h Nat.lt_log2_self
  exact Nat.lt_succ_iff.1 (log2_lt_of_lt_twoTo (Nat.succ_pos _) hlt)

/-- A larger quotient never rounds to a smaller double. -/
theorem nearestUnits_mono {num den num' den' : Nat} (hden : 0 < den) (hden' : 0 < den')
    (h : num * den' ≤ num' * den) : nearestUnits num den ≤ nearestUnits num' den' := by
  have hq : num / den ≤ num' / den' := by
    rw [Nat.le_div_iff_mul_le hden']
    refine Nat.le_of_mul_le_mul_right ?_ hden
    calc num / den * den' * den = num / den * den * den' := by ring
      _ ≤ num * den' := by gcongr; exact Nat.div_mul_le_self num den
      _ ≤ num' * den := h
  rcases Nat.eq_or_lt_of_le (log2_le_log2 hq) with hlog | hlog
  · have hspacing : spacing (num / den) = spacing (num' / den') := by
      rw [spacing, spacing, hlog]
    unfold nearestUnits
    dsimp only
    rw [hspacing]
    have hs : 0 < spacing (num' / den') := twoTo_pos _
    generalize spacing (num' / den') = s at *
    gcongr
    refine roundDiv_mono (Nat.mul_pos hden hs) (Nat.mul_pos hden' hs) ?_
    calc num * (den' * s) = num * den' * s := by ring
      _ ≤ num' * den * s := by gcongr
      _ = num' * (den * s) := by ring
  · -- A power of two lies between the quotients and is a double of either spacing.
    have hq' : num' / den' ≠ 0 := by
      intro hzero
      simp [hzero] at hlog
    have hbelow : num ≤ twoTo (num' / den').log2 * den :=
      Nat.le_of_lt ((Nat.div_lt_iff_lt_mul hden).1 (lt_twoTo_of_log2_lt hlog))
    have habove : twoTo (num' / den').log2 * den' ≤ num' :=
      (Nat.le_div_iff_mul_le hden').1 (Nat.log2_self_le hq')
    calc nearestUnits num den ≤ twoTo (num' / den').log2 :=
          nearestUnits_le_twoTo hden (Nat.le_of_lt hlog) hbelow
      _ ≤ nearestUnits num' den' := twoTo_le_nearestUnits hden' (Nat.le_refl _) habove

/-! ## The end of the finite doubles -/

/-- Units of the largest finite double. -/
def largestUnits : Nat := (twoTo 53 - 1) * twoTo 2045

/-- Units of the point half-way between the largest finite double and `2 ^ 1024`. -/
def limitUnits : Nat := (twoTo 54 - 1) * twoTo 2044

theorem largestUnits_lt_limitUnits : largestUnits < limitUnits := by decide +kernel

theorem limitUnits_lt_overflowUnits : limitUnits < overflowUnits := by decide +kernel

/-- Below the half-way point a quotient rounds to a finite double. -/
theorem nearestUnits_le_largestUnits {num den : Nat} (hden : 0 < den)
    (h : num < limitUnits * den) : nearestUnits num den ≤ largestUnits := by
  have hq : num / den < overflowUnits :=
    Nat.lt_trans ((Nat.div_lt_iff_lt_mul hden).2 h) limitUnits_lt_overflowUnits
  have hlog : (num / den).log2 ≤ 2097 :=
    Nat.lt_succ_iff.1 (log2_lt_of_lt_twoTo (by decide) hq)
  rcases Nat.eq_or_lt_of_le hlog with htop | hlow
  · -- In the topmost binade the doubles are `2 ^ 2045` units apart.
    have hspacing : spacing (num / den) = twoTo 2045 := by rw [spacing, htop]
    obtain ⟨hupper, -⟩ := roundDiv_bounds num (Nat.mul_pos hden (twoTo_pos 2045))
    unfold nearestUnits largestUnits
    dsimp only
    rw [hspacing]
    generalize roundDiv num (den * twoTo 2045) = k at *
    gcongr
    by_contra hlarge
    have hk : twoTo 53 ≤ k := by omega
    have hhalf : twoTo 2045 = twoTo 2044 * 2 := twoTo_succ 2044
    have hnum : (2 * twoTo 53 - 1) * (den * twoTo 2045) ≤ 2 * num := by
      calc (2 * twoTo 53 - 1) * (den * twoTo 2045)
          = 2 * (twoTo 53 * (den * twoTo 2045)) - den * twoTo 2045 := by
            rw [Nat.sub_mul, Nat.one_mul, Nat.mul_assoc]
        _ ≤ 2 * (k * (den * twoTo 2045)) - den * twoTo 2045 := by gcongr
        _ ≤ 2 * num := by omega
    have hlimit : limitUnits * den ≤ num := by
      refine Nat.le_of_mul_le_mul_left ?_ (Nat.zero_lt_two)
      calc 2 * (limitUnits * den) = (twoTo 54 - 1) * (den * (twoTo 2044 * 2)) := by
            rw [limitUnits]; ring
        _ = (2 * twoTo 53 - 1) * (den * twoTo 2045) := by rw [← hhalf]; rfl
        _ ≤ 2 * num := hnum
    omega
  · have hpower : twoTo 2097 ≤ largestUnits := by decide +kernel
    have hbelow : num ≤ twoTo 2097 * den :=
      Nat.le_of_lt ((Nat.div_lt_iff_lt_mul hden).1 (lt_twoTo_of_log2_lt hlow))
    exact Nat.le_trans (nearestUnits_le_twoTo hden hlog hbelow) hpower

/-- From the half-way point on a quotient rounds to no finite double. -/
theorem overflowUnits_le_nearestUnits {num den : Nat} (hden : 0 < den)
    (h : limitUnits * den ≤ num) : overflowUnits ≤ nearestUnits num den := by
  have htie : nearestUnits limitUnits 1 = overflowUnits := by decide +kernel
  rw [← htie]
  refine nearestUnits_mono Nat.one_pos hden ?_
  rwa [Nat.mul_one]

/-- A quotient rounds to a finite double exactly below the half-way point. -/
theorem nearestUnits_lt_overflowUnits_iff {num den : Nat} (hden : 0 < den) :
    nearestUnits num den < overflowUnits ↔ num < limitUnits * den := by
  constructor
  · intro h
    by_contra hge
    have := overflowUnits_le_nearestUnits hden (Nat.le_of_not_lt hge)
    omega
  · intro h
    have hle := nearestUnits_le_largestUnits hden h
    exact Nat.lt_of_le_of_lt hle
      (Nat.lt_trans largestUnits_lt_limitUnits limitUnits_lt_overflowUnits)

/-- The first natural number that rounds to no finite double. -/
def finiteLimit : Nat := twoTo 1024 - twoTo 970

theorem limitUnits_eq : limitUnits = finiteLimit * unitsPerOne := by decide +kernel

theorem unitsPerOne_pos : 0 < unitsPerOne := twoTo_pos 1074

namespace Magnitude

/-- A ratio has a nearest finite double exactly below the limit, and then it is
the rounded one. -/
theorem ofRatio?_eq_some_iff {num den : Nat} (hden : 0 < den) {m : Magnitude} :
    ofRatio? num den = some m ↔
      num < finiteLimit * den ∧ m.units = nearestUnits (num * unitsPerOne) den := by
  have hlimit : nearestUnits (num * unitsPerOne) den < overflowUnits ↔
      num < finiteLimit * den := by
    rw [nearestUnits_lt_overflowUnits_iff hden, limitUnits_eq, Nat.mul_right_comm]
    exact Nat.mul_lt_mul_right unitsPerOne_pos
  unfold ofRatio?
  dsimp only
  rw [← hlimit]
  split_ifs with hfinite
  · rw [Option.some.injEq]
    constructor
    · rintro rfl
      exact ⟨hfinite, rfl⟩
    · rintro ⟨-, hunits⟩
      rw [← hunits]
  · simp [hfinite]

/-- A ratio has no nearest finite double exactly from the limit on. -/
theorem ofRatio?_eq_none_iff {num den : Nat} (hden : 0 < den) :
    ofRatio? num den = none ↔ finiteLimit * den ≤ num := by
  constructor
  · intro hnone
    by_contra hlt
    have hsome : ofRatio? num den = some ⟨nearestUnits (num * unitsPerOne) den⟩ :=
      (ofRatio?_eq_some_iff hden).2 ⟨Nat.lt_of_not_le hlt, rfl⟩
    simp [hnone] at hsome
  · intro hle
    cases hratio : ofRatio? num den with
    | none => rfl
    | some m =>
        have hlt := ((ofRatio?_eq_some_iff hden).1 hratio).1
        omega

/-- The quotient of a double by a double of at least one is a finite double. -/
theorem exists_div? {x y : Magnitude} (hx : x.units < limitUnits)
    (hy : unitsPerOne ≤ y.units) : ∃ z, x.div? y = some z := by
  have hpos : 0 < y.units := Nat.lt_of_lt_of_le unitsPerOne_pos hy
  have hfinite : nearestUnits (x.units * unitsPerOne) y.units < overflowUnits := by
    rw [nearestUnits_lt_overflowUnits_iff hpos]
    calc x.units * unitsPerOne < limitUnits * unitsPerOne :=
          (Nat.mul_lt_mul_right unitsPerOne_pos).2 hx
      _ ≤ limitUnits * y.units := Nat.mul_le_mul_left limitUnits hy
  refine ⟨⟨nearestUnits (x.units * unitsPerOne) y.units⟩, ?_⟩
  unfold div?
  dsimp only
  rw [if_pos hfinite]

end Magnitude

end Number
end ContractAudit
