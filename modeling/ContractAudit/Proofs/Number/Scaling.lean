import ContractAudit.Number.Reading
import ContractAudit.Proofs.Number.RoundingInterval

/-!
# Exact scaling

A product with a power of two shifts the exponent of a double and keeps its
bits, so that nothing is rounded unless the product leaves the finite doubles.
Numbers that are read from a text are doubles, and so are their products.

Main results:

- Theorem {lit}`IsDouble.mul_twoTo`: a double times a power of two is a double.
- Theorem {lit}`Double.scale_scale`: scaling twice by powers of two is exact, or it
  gives an infinity.
- Theorem {lit}`wellFormed_readDouble`: what is read from a text is a double.
-/

namespace ContractAudit
namespace Number

/-- A multiple of a power of two is a double if its factor has at most 53 bits. -/
theorem isDouble_mul_twoTo {m : Nat} (hm : m < twoTo 53) (k : Nat) : IsDouble (m * twoTo k) := by
  have hlt : m * twoTo k < twoTo (53 + k) := by
    rw [twoTo_add]
    exact (Nat.mul_lt_mul_right (twoTo_pos k)).2 hm
  have hlog : (m * twoTo k).log2 < 53 + k := log2_lt_of_lt_twoTo (by omega) hlt
  have hspacing : spacing (m * twoTo k) ∣ twoTo k := twoTo_dvd_twoTo (by omega)
  exact Dvd.dvd.mul_left hspacing m

/-- A quotient that is a double is not rounded. -/
theorem nearestUnits_mul_self {u den : Nat} (hu : IsDouble u) (hden : 0 < den) :
    nearestUnits (u * den) den = u := by
  have hs : 0 < den * spacing u := Nat.mul_pos hden (spacing_pos u)
  have hround : roundDiv (u * den) (den * spacing u) = u / spacing u := by
    calc roundDiv (u * den) (den * spacing u)
        = roundDiv (u / spacing u * (den * spacing u)) (den * spacing u) := by
          rw [Nat.mul_comm den, ← Nat.mul_assoc, Nat.div_mul_cancel hu]
      _ = u / spacing u := roundDiv_mul_self _ hs
  unfold nearestUnits
  dsimp only
  rw [Nat.mul_div_cancel _ hden, hround, Nat.div_mul_cancel hu]

/-! ## Products with powers of two -/

/-- A double times a power of two is a double. -/
theorem IsDouble.mul_twoTo {u : Nat} (hu : IsDouble u) (k : Nat) : IsDouble (u * twoTo k) := by
  have hlt : u * twoTo k < twoTo (u.log2 + 1 + k) := by
    rw [twoTo_add]
    exact (Nat.mul_lt_mul_right (twoTo_pos k)).2 (lt_twoTo_log2_succ u)
  have hlog : (u * twoTo k).log2 < u.log2 + 1 + k := log2_lt_of_lt_twoTo (by omega) hlt
  have hspacing : spacing (u * twoTo k) ∣ spacing u * twoTo k := by
    rw [spacing, spacing, ← twoTo_add]
    exact twoTo_dvd_twoTo (by omega)
  exact Nat.dvd_trans hspacing (Nat.mul_dvd_mul_right hu (twoTo k))

namespace Magnitude

/-- A double is scaled by a power of two without rounding, unless the product is too
large. -/
theorem scale?_twoTo {m : Magnitude} (hm : IsDouble m.units) (k : Nat) :
    m.scale? (twoTo k) =
      if m.units * twoTo k < overflowUnits then some ⟨m.units * twoTo k⟩ else none := by
  have hexact : nearestUnits (m.units * twoTo k) 1 = m.units * twoTo k := by
    have h := nearestUnits_mul_self (hm.mul_twoTo k) Nat.one_pos
    rwa [Nat.mul_one] at h
  rw [scale?, hexact]

/-- A ratio that has a finite double has one that exists. -/
theorem isDouble_of_ofRatio? {num den : Nat} (hden : 0 < den) {m : Magnitude}
    (h : ofRatio? num den = some m) : IsDouble m.units ∧ m.units < overflowUnits := by
  rw [ofRatio?] at h
  split_ifs at h with hfinite
  obtain rfl := Option.some.inj h
  exact ⟨isDouble_nearestUnits _ hden, hfinite⟩

end Magnitude

/-! ## Doubles that exist -/

namespace Double

/-- A double that exists: its size, if it has one, is a multiple of its spacing and not
beyond the finite doubles. -/
inductive WellFormed : Double → Prop where
  | nan : WellFormed nan
  | infinite (negative : Bool) : WellFormed (infinite negative)
  | finite (negative : Bool) {m : Magnitude} (hdouble : IsDouble m.units)
      (hfinite : m.units < overflowUnits) : WellFormed (finite negative m)

/-- Zero exists with either sign. -/
theorem wellFormed_zero (negative : Bool) : WellFormed (finite negative .zero) :=
  .finite negative (Nat.dvd_zero _) (twoTo_pos _)

/-- Scaling a double twice by powers of two is exact, unless the product is too large. -/
theorem scale_scale (negative : Bool) {m : Magnitude} (hm : IsDouble m.units) (j k : Nat) :
    ((finite negative m).scale (twoTo j)).scale (twoTo k) =
      if m.units * twoTo (j + k) < overflowUnits then finite negative ⟨m.units * twoTo (j + k)⟩
      else infinite negative := by
  have hproduct : m.units * twoTo j * twoTo k = m.units * twoTo (j + k) := by
    rw [twoTo_add, Nat.mul_assoc]
  by_cases hfirst : m.units * twoTo j < overflowUnits
  · have hscaled : IsDouble (Magnitude.mk (m.units * twoTo j)).units := hm.mul_twoTo j
    rw [scale, Magnitude.scale?_twoTo hm, if_pos hfirst, ofMagnitude?, scale,
      Magnitude.scale?_twoTo hscaled, hproduct]
    split_ifs <;> rfl
  · -- what is too large after the first product stays so
    have hle : m.units * twoTo j ≤ m.units * twoTo (j + k) := by
      rw [← hproduct]
      exact Nat.le_mul_of_pos_right _ (twoTo_pos k)
    rw [scale, Magnitude.scale?_twoTo hm, if_neg hfirst, if_neg (by omega)]
    rfl

/-- The nearest double of a ratio exists. -/
theorem wellFormed_ofRatio? (negative : Bool) (num : Nat) {den : Nat} (hden : 0 < den) :
    (ofMagnitude? negative (Magnitude.ofRatio? num den)).WellFormed := by
  cases hratio : Magnitude.ofRatio? num den with
  | none => exact .infinite negative
  | some m =>
      obtain ⟨hdouble, hfinite⟩ := Magnitude.isDouble_of_ofRatio? hden hratio
      exact .finite negative hdouble hfinite

end Double

/-! ## Numbers that are read -/

/-- A decimal number is read as a double that exists. -/
theorem wellFormed_nearestDecimal (negative : Bool) (mantissa count : Nat) (exponent : Int) :
    (nearestDecimal negative mantissa count exponent).WellFormed := by
  unfold nearestDecimal
  by_cases hsmall : mantissa = 0 ∨ (count : Int) + exponent < -400
  · rw [if_pos hsmall]
    exact Double.wellFormed_zero negative
  · rw [if_neg hsmall]
    by_cases hlarge : exponent > 400
    · rw [if_pos hlarge]
      exact .infinite negative
    · rw [if_neg hlarge]
      cases exponent with
      | ofNat n => exact Double.wellFormed_ofRatio? negative (mantissa * tenTo n) Nat.one_pos
      | negSucc n => exact Double.wellFormed_ofRatio? negative mantissa (tenTo_pos (n + 1))

/-- Digits, a point and an exponent are read as a double that exists. -/
theorem wellFormed_decimal? {negative : Bool} {cs : List Char} {x : Double}
    (h : decimal? negative cs = some x) : x.WellFormed := by
  unfold decimal? at h
  dsimp only at h
  split_ifs at h
  obtain ⟨e, -, rfl⟩ := Option.map_eq_some_iff.mp h
  exact wellFormed_nearestDecimal _ _ _ _

/-- What is read from a text is a double that exists. -/
theorem wellFormed_readDouble {s : String} {x : Double} (h : readDouble s = .ok x) :
    x.WellFormed := by
  unfold readDouble at h
  dsimp only at h
  split at h
  next y hread =>
    obtain rfl := Except.ok.inj h
    split_ifs at hread
    · obtain rfl := Option.some.inj hread
      exact .infinite _
    · obtain rfl := Option.some.inj hread
      exact .nan
    · exact wellFormed_decimal? hread
  next => cases h

end Number
end ContractAudit
