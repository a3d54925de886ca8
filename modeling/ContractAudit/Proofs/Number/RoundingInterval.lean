import ContractAudit.Number.Shortest
import ContractAudit.Proofs.Number.Decimals

/-!
# Rounding intervals

A double is a multiple of its own spacing.  The quotients that round to it are
those in its rounding interval, which reaches half a spacing up and half a
spacing down, or only a quarter down where the double is a power of two and the
doubles below it are twice as dense.

Main results:

- Theorem {lit}`IsNearest.unique`: there is one nearest integer, with ties to even.
- Theorem {lit}`isDouble_nearestUnits`, {lit}`isNearestDouble_nearestUnits`:
  rounding gives a double, and no double is nearer.
- Theorem {lit}`nearestUnits_of_mem_interval`: what lies in the rounding interval
  of a double rounds to it.
- Theorem {lit}`nearestUnits_of_readsBack`: the same for decimal numbers.
-/

namespace ContractAudit
namespace Number

/-! ## Nearest integers are unique -/

/-- There is one nearest integer, with ties to even. -/
theorem IsNearest.unique {n n' num den : Nat} (hden : 0 < den) (h : IsNearest n num den)
    (h' : IsNearest n' num den) : n = n' := by
  have hle : ∀ {a b : Nat}, IsNearest a num den → IsNearest b num den → b ≤ a := by
    intro a b ha hb
    by_contra hlt
    have hnext : (a + 1) * den ≤ b * den := Nat.mul_le_mul_right den (by omega)
    rw [Nat.add_mul, Nat.one_mul] at hnext
    obtain ⟨-, hbelow, heven⟩ := ha
    obtain ⟨habove, -, heven'⟩ := hb
    -- both are half a unit away, one on each side, and so both are even
    have hb_eq : b = a + 1 := by
      refine Nat.eq_of_mul_eq_mul_right hden ?_
      rw [Nat.add_mul, Nat.one_mul]
      omega
    have ha_even : a % 2 = 0 := heven (.inr (by omega))
    have hb_even : b % 2 = 0 := heven' (.inl (by omega))
    omega
  exact Nat.le_antisymm (hle h' h) (hle h h')

theorem isNearest_roundDiv (num : Nat) {den : Nat} (hden : 0 < den) :
    IsNearest (roundDiv num den) num den := by
  obtain ⟨habove, hbelow, heven⟩ := roundDiv_bounds num hden
  exact ⟨habove, hbelow, heven⟩

/-- A quotient whose neighbourhood has a known spacing rounds to the nearest multiple of it. -/
theorem nearestUnits_eq_mul {num den m s : Nat} (hden : 0 < den) (hs : spacing (num / den) = s)
    (h : IsNearest m num (den * s)) : nearestUnits num den = m * s := by
  have hpos : 0 < den * s := by
    rw [← hs]
    exact Nat.mul_pos hden (twoTo_pos _)
  unfold nearestUnits
  dsimp only
  rw [hs, (isNearest_roundDiv num hpos).unique hpos h]

/-! ## Doubles -/

/-- A number of units that is a multiple of its spacing. -/
def IsDouble (u : Nat) : Prop :=
  spacing u ∣ u

theorem twoTo_dvd_twoTo {m n : Nat} (h : m ≤ n) : twoTo m ∣ twoTo n :=
  Nat.pow_dvd_pow 2 h

theorem twoTo_log2_le {u : Nat} (hu : 0 < u) : twoTo u.log2 ≤ u :=
  Nat.log2_self_le (Nat.ne_of_gt hu)

theorem lt_twoTo_log2_succ (u : Nat) : u < twoTo (u.log2 + 1) :=
  Nat.lt_log2_self

theorem log2_eq_of_bounds {q k : Nat} (hlow : twoTo k ≤ q) (hhigh : q < twoTo (k + 1)) :
    q.log2 = k := by
  have hq : q ≠ 0 := Nat.ne_of_gt (Nat.lt_of_lt_of_le (twoTo_pos k) hlow)
  exact (Nat.log2_eq_iff hq).2 ⟨hlow, hhigh⟩

theorem log2_twoTo (k : Nat) : (twoTo k).log2 = k := by
  have hpos := twoTo_pos k
  refine log2_eq_of_bounds (Nat.le_refl _) ?_
  rw [twoTo_succ]
  omega

theorem isDouble_twoTo (k : Nat) : IsDouble (twoTo k) := by
  rw [IsDouble, spacing, log2_twoTo]
  exact twoTo_dvd_twoTo (by omega)

/-- Rounding gives a double. -/
theorem isDouble_nearestUnits (num : Nat) {den : Nat} (hden : 0 < den) :
    IsDouble (nearestUnits num den) := by
  have hdvd : spacing (num / den) ∣ nearestUnits num den := Dvd.intro_left _ rfl
  have hle : nearestUnits num den ≤ twoTo ((num / den).log2 + 1) := by
    refine nearestUnits_le_twoTo hden (Nat.le_succ _) ?_
    exact Nat.le_of_lt ((Nat.div_lt_iff_lt_mul hden).1 (lt_twoTo_log2_succ _))
  rcases Nat.eq_or_lt_of_le hle with htop | hlt
  · rw [htop]
    exact isDouble_twoTo _
  · -- below the next power of two the spacing is at most that of the quotient
    have hlog : (nearestUnits num den).log2 ≤ (num / den).log2 :=
      Nat.lt_succ_iff.1 (log2_lt_of_lt_twoTo (Nat.succ_pos _) hlt)
    exact Nat.dvd_trans (twoTo_dvd_twoTo (by omega)) hdvd

/-- A double that is at least as near to `num / den` as any other one. -/
structure IsNearestDouble (u num den : Nat) : Prop where
  double : IsDouble u
  nearest : ∀ v, IsDouble v →
    ((u * den : Nat) - num : Int).natAbs ≤ ((v * den : Nat) - num : Int).natAbs

/-- No integer is nearer than the nearest one. -/
theorem IsNearest.le {n num den : Nat} (h : IsNearest n num den) (m : Nat) :
    ((n * den : Nat) - num : Int).natAbs ≤ ((m * den : Nat) - num : Int).natAbs := by
  obtain ⟨habove, hbelow, -⟩ := h
  rcases Nat.lt_trichotomy m n with hlt | rfl | hlt
  · have hstep : (m + 1) * den ≤ n * den := Nat.mul_le_mul_right den hlt
    rw [Nat.add_mul, Nat.one_mul] at hstep
    omega
  · exact Nat.le_refl _
  · have hstep : (n + 1) * den ≤ m * den := Nat.mul_le_mul_right den hlt
    rw [Nat.add_mul, Nat.one_mul] at hstep
    omega

/-- A double that is no multiple of the spacing at a quotient lies below the power of two of
the quotient. -/
theorem lt_twoTo_of_not_dvd {v q : Nat} (hv : IsDouble v) (h : ¬ spacing q ∣ v) :
    v < twoTo q.log2 := by
  by_contra hge
  have hlog : q.log2 ≤ v.log2 := by
    have hpos : v ≠ 0 := by
      rintro rfl
      exact h (Nat.dvd_zero _)
    exact (Nat.le_log2 hpos).2 (Nat.not_lt.1 hge)
  exact h (Nat.dvd_trans (twoTo_dvd_twoTo (by omega)) hv)

/-- Rounding gives a nearest double. -/
theorem isNearestDouble_nearestUnits (num : Nat) {den : Nat} (hden : 0 < den) :
    IsNearestDouble (nearestUnits num den) num den := by
  refine ⟨isDouble_nearestUnits num hden, fun v hv => ?_⟩
  have hs : 0 < den * spacing (num / den) := Nat.mul_pos hden (twoTo_pos _)
  -- among the multiples of the spacing at the quotient it is the nearest one
  have hmultiple {w : Nat} (hw : spacing (num / den) ∣ w) :
      ((nearestUnits num den * den : Nat) - num : Int).natAbs ≤
        ((w * den : Nat) - num : Int).natAbs := by
    obtain ⟨m, rfl⟩ := hw
    have hle := (isNearest_roundDiv num hs).le m
    have hleft : nearestUnits num den * den =
        roundDiv num (den * spacing (num / den)) * (den * spacing (num / den)) := by
      unfold nearestUnits
      dsimp only
      ring
    have hright : spacing (num / den) * m * den = m * (den * spacing (num / den)) := by ring
    rw [hleft, hright]
    exact hle
  by_cases hdvd : spacing (num / den) ∣ v
  · exact hmultiple hdvd
  · -- any other double is farther away than the power of two of the quotient
    have hlt := lt_twoTo_of_not_dvd hv hdvd
    have hpos : 0 < num / den := by
      rcases Nat.eq_zero_or_pos (num / den) with hzero | hpos
      · rw [hzero] at hdvd
        exact absurd (Nat.one_dvd v) hdvd
      · exact hpos
    have hpower : twoTo (num / den).log2 * den ≤ num :=
      (Nat.le_div_iff_mul_le hden).1 (Nat.log2_self_le (Nat.ne_of_gt hpos))
    have hscaled : v * den ≤ twoTo (num / den).log2 * den :=
      Nat.mul_le_mul_right den (Nat.le_of_lt hlt)
    have hle := hmultiple (w := twoTo (num / den).log2) (twoTo_dvd_twoTo (by omega))
    omega

/-! ## Rounding intervals -/

/-- The denominator of a decimal number is positive. -/
theorem decimalUnits_snd_pos (d : Nat) (e : Int) : 0 < (decimalUnits d e).2 := by
  cases e with
  | ofNat n => exact Nat.one_pos
  | negSucc n => exact tenTo_pos (n + 1)

section Interval

variable {u num den : Nat}

/-- How far the rounding interval of a double reaches down, in quarters of a unit. -/
def reachBelow (u : Nat) : Nat :=
  if spacing u * twoTo 52 == u && 1 < spacing u then spacing u else 2 * spacing u

theorem reachBelow_cases (u : Nat) :
    (u = twoTo 52 * spacing u ∧ reachBelow u = spacing u) ∨ reachBelow u = 2 * spacing u := by
  unfold reachBelow
  split
  next hpower =>
    have htop : spacing u * twoTo 52 = u := by simp_all
    exact .inl ⟨by rw [Nat.mul_comm, htop], rfl⟩
  next => exact .inr rfl

theorem reachBelow_le (u : Nat) : reachBelow u ≤ 2 * spacing u := by
  rcases reachBelow_cases u with ⟨-, h⟩ | h <;> omega

theorem reachBelow_mul_le (u den : Nat) : reachBelow u * den ≤ 2 * (spacing u * den) := by
  rw [← Nat.mul_assoc]
  exact Nat.mul_le_mul_right den (reachBelow_le u)

theorem spacing_pos (u : Nat) : 0 < spacing u :=
  twoTo_pos _

/-- The next power of two is a multiple of the spacing. -/
theorem spacing_dvd_twoTo {k : Nat} (h : u.log2 ≤ k) : spacing u ∣ twoTo k :=
  twoTo_dvd_twoTo (by omega)

/-- A quotient in the rounding interval of a double. -/
structure InInterval (u num den : Nat) : Prop where
  low : 4 * (u * den) ≤ 4 * num + reachBelow u * den
  high : 4 * num ≤ 4 * (u * den) + 2 * (spacing u * den)
  ends : 4 * (u * den) = 4 * num + reachBelow u * den ∨
    4 * num = 4 * (u * den) + 2 * (spacing u * den) → u / spacing u % 2 = 0

theorem InInterval.low_spacing (h : InInterval u num den) :
    4 * (u * den) ≤ 4 * num + 2 * (spacing u * den) := by
  have hreach := reachBelow_mul_le u den
  have hlow := h.low
  omega

/-- With the spacing of the double, a quotient in its interval has it as the nearest one. -/
theorem InInterval.isNearest (h : InInterval u num den) (hu : IsDouble u) :
    IsNearest (u / spacing u) num (den * spacing u) := by
  have hmul : u / spacing u * (den * spacing u) = u * den := by
    rw [Nat.mul_comm den, ← Nat.mul_assoc, Nat.div_mul_cancel hu]
  have hreach := reachBelow_mul_le u den
  obtain ⟨hlow, hhigh, hends⟩ := h
  rw [Nat.mul_comm den] at hmul
  constructor
  · rw [Nat.mul_comm den, hmul]
    omega
  · rw [Nat.mul_comm den, hmul]
    omega
  · rw [Nat.mul_comm den, hmul]
    intro htie
    exact hends (by omega)

/-- A quotient in the interval stays below the next power of two, which is a spacing away
at least. -/
theorem InInterval.div_lt_twoTo (h : InInterval u num den) (hu : IsDouble u) (hden : 0 < den) :
    num / den < twoTo (u.log2 + 1) := by
  have hgap : u + spacing u ≤ twoTo (u.log2 + 1) := by
    by_contra hlt
    have hle : twoTo (u.log2 + 1) ≤ u :=
      Nat.le_of_lt_add_of_dvd (Nat.lt_of_not_le hlt) (spacing_dvd_twoTo (Nat.le_succ _)) hu
    exact absurd (lt_twoTo_log2_succ u) (Nat.not_lt.2 hle)
  have hscaled := Nat.mul_le_mul_right den hgap
  rw [Nat.add_mul] at hscaled
  have hpos : 0 < spacing u * den := Nat.mul_pos (spacing_pos u) hden
  have hhigh := h.high
  refine (Nat.div_lt_iff_lt_mul hden).2 ?_
  omega

/-- Only the interval of a power of two reaches below a power of two. -/
theorem InInterval.eq_twoTo (h : InInterval u num den) (hpos : 0 < u) (hu : IsDouble u)
    (hden : 0 < den) (hlow : num / den < twoTo u.log2) : u = twoTo u.log2 := by
  have hnum : num < twoTo u.log2 * den := (Nat.div_lt_iff_lt_mul hden).1 hlow
  have hscaled : u * den < (twoTo u.log2 + spacing u) * den := by
    have hinterval := h.low_spacing
    have hsden : 0 < spacing u * den := Nat.mul_pos (spacing_pos u) hden
    rw [Nat.add_mul]
    omega
  have hlt : u < twoTo u.log2 + spacing u := Nat.lt_of_mul_lt_mul_right hscaled
  exact Nat.le_antisymm
    (Nat.le_of_lt_add_of_dvd hlt hu (spacing_dvd_twoTo (Nat.le_refl _))) (twoTo_log2_le hpos)

/-- Below a power of two the doubles are twice as dense, and the interval reaches half
their distance down. -/
theorem nearestUnits_below_twoTo {k : Nat} (hden : 0 < den) (hk : 52 < k)
    (h : InInterval (twoTo k) num den) (hlow : num / den < twoTo k) :
    nearestUnits num den = twoTo k := by
  obtain ⟨j, rfl⟩ : ∃ j, k = j + 53 := ⟨k - 53, by omega⟩
  have hspacing : spacing (twoTo (j + 53)) = twoTo j * 2 := by
    rw [spacing, log2_twoTo, ← twoTo_succ]
    congr 1
  have hreach : reachBelow (twoTo (j + 53)) = twoTo j * 2 := by
    have hone : 1 < twoTo j * 2 := by have := twoTo_pos j; omega
    have htop : twoTo j * 2 * twoTo 52 = twoTo (j + 53) := by
      rw [← twoTo_succ, ← twoTo_add]
    rw [reachBelow, hspacing, if_pos (by simp [htop, hone])]
  have hnum : num < twoTo (j + 53) * den := (Nat.div_lt_iff_lt_mul hden).1 hlow
  have hfit : twoTo (j + 53) = twoTo (j + 52) * 2 := twoTo_succ (j + 52)
  have hinterval := h.low
  rw [hreach] at hinterval
  have hhalf : twoTo (j + 52) ≤ num / den := by
    have hstep : twoTo j ≤ twoTo (j + 52) := Nat.pow_le_pow_right (by decide) (by omega)
    have hscaled := Nat.mul_le_mul_right den hstep
    refine (Nat.le_div_iff_mul_le hden).2 ?_
    rw [hfit] at hinterval
    have h1 : twoTo (j + 52) * 2 * den = 2 * (twoTo (j + 52) * den) := by ring
    have h2 : twoTo j * 2 * den = 2 * (twoTo j * den) := by ring
    omega
  have hquotient : spacing (num / den) = twoTo j := by
    rw [spacing, log2_eq_of_bounds hhalf hlow]
    congr 1
  have hpower : twoTo 53 * twoTo j = twoTo (j + 53) := by rw [← twoTo_add, Nat.add_comm]
  rw [← hpower]
  refine nearestUnits_eq_mul hden hquotient ?_
  have hmul : twoTo 53 * (den * twoTo j) = twoTo (j + 53) * den := by
    rw [← hpower]
    ring
  have hreach : twoTo j * 2 * den = 2 * (den * twoTo j) := by ring
  constructor
  · rw [hmul]
    omega
  · rw [hmul]
    omega
  · exact fun _ => rfl

/-- What lies in the rounding interval of a double rounds to it. -/
theorem nearestUnits_of_mem_interval (hpos : 0 < u) (hu : IsDouble u) (hden : 0 < den)
    (h : InInterval u num den) : nearestUnits num den = u := by
  have hclose (hspacing : spacing (num / den) = spacing u) : nearestUnits num den = u := by
    rw [nearestUnits_eq_mul hden hspacing (h.isNearest hu), Nat.div_mul_cancel hu]
  rcases Nat.lt_or_ge (num / den) (twoTo u.log2) with hlow | hlow
  · have hpower := h.eq_twoTo hpos hu hden hlow
    rcases Nat.lt_or_ge 52 u.log2 with hlarge | hsmall
    · rw [hpower] at h ⊢
      exact nearestUnits_below_twoTo hden hlarge h hlow
    · -- the smallest doubles are one unit apart
      have hlog : (num / den).log2 ≤ 52 :=
        Nat.le_trans (log2_le_log2 (Nat.le_trans (Nat.le_of_lt hlow) (twoTo_log2_le hpos))) hsmall
      refine hclose ?_
      rw [spacing, spacing, Nat.sub_eq_zero_of_le hlog, Nat.sub_eq_zero_of_le hsmall]
  · refine hclose ?_
    rw [spacing, spacing, log2_eq_of_bounds hlow (h.div_lt_twoTo hu hden)]

/-- Whether a decimal number reads back is whether it lies in the rounding interval. -/
theorem readsBack_iff (hpos : 0 < u) (hu : IsDouble u) (d : Nat) (e : Int) :
    readsBack u d e = true ↔ InInterval u (decimalUnits d e).1 (decimalUnits d e).2 := by
  have hreach : reachBelow u ≤ 4 * u := by
    have hle : spacing u ≤ u := Nat.le_of_dvd hpos hu
    have hreach := reachBelow_le u
    omega
  unfold readsBack roundingInterval
  dsimp only
  rw [← reachBelow]
  generalize (decimalUnits d e).1 = num
  generalize (decimalUnits d e).2 = den
  have hlow : (4 * u - reachBelow u) * den = 4 * (u * den) - reachBelow u * den := by
    rw [Nat.sub_mul, Nat.mul_assoc]
  have hscaled : reachBelow u * den ≤ 4 * (u * den) := by
    rw [← Nat.mul_assoc]
    exact Nat.mul_le_mul_right den hreach
  have hhigh : (4 * u + 2 * spacing u) * den = 4 * (u * den) + 2 * (spacing u * den) := by
    rw [Nat.add_mul, Nat.mul_assoc, Nat.mul_assoc]
  rw [hlow, hhigh]
  by_cases heven : u / spacing u % 2 = 0
  · simp only [heven, beq_self_eq_true, if_true, Bool.and_eq_true, decide_eq_true_eq]
    constructor
    · intro h
      exact ⟨by omega, h.2, fun _ => heven⟩
    · intro h
      exact ⟨by have := h.low; omega, h.high⟩
  · rw [if_neg (by simpa using heven)]
    simp only [Bool.and_eq_true, decide_eq_true_eq]
    constructor
    · intro h
      exact ⟨by omega, by omega, fun htie => absurd htie (by omega)⟩
    · intro h
      obtain ⟨hlow, hhigh, hends⟩ := h
      have htie := mt hends heven
      omega

/-- A decimal number that reads back rounds to the double. -/
theorem nearestUnits_of_readsBack (hpos : 0 < u) (hu : IsDouble u) {d : Nat} {e : Int}
    (h : readsBack u d e = true) :
    nearestUnits (decimalUnits d e).1 (decimalUnits d e).2 = u :=
  nearestUnits_of_mem_interval hpos hu (decimalUnits_snd_pos d e) ((readsBack_iff hpos hu d e).1 h)

end Interval

end Number
end ContractAudit
