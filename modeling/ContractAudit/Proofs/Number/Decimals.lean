import Mathlib.Data.List.Basic
import Mathlib.Tactic.IntervalCases
import Mathlib.Tactic.Ring
import ContractAudit.Number.Reading
import ContractAudit.Proofs.Number.Nearest

/-!
# Decimal texts

The digits of a number have that number as their value, also with zeros in
front of them.  The texts of reports are described by what their digits are
worth, without reference to how they are written.

Main results:

- Theorem {lit}`digitsValue_digits`, {lit}`digitsValue_append`: values of digits.
- Theorem {lit}`isInteger_intText`: the text of an integer.
- Theorem {lit}`isFixedPoint_fixed`: the text of a double with a fixed number of
  decimals.
- Theorem {lit}`isNearest_scaledDecimal`: what these decimals are.
-/

namespace ContractAudit
namespace Number

/-! ## Values of digits -/

@[simp]
theorem digitsValue_nil : digitsValue [] = 0 := rfl

/-- The digits of a number have that number as their value. -/
@[simp]
theorem digitsValue_digits (n : Nat) : digitsValue (digits n) = n :=
  Nat.ofDigitChars_ten_toDigits

theorem tenTo_add (m n : Nat) : tenTo (m + n) = tenTo m * tenTo n :=
  Nat.pow_add 10 m n

theorem tenTo_le_tenTo {m n : Nat} (h : m ≤ n) : tenTo m ≤ tenTo n :=
  Nat.pow_le_pow_right (by decide) h

/-- Further digits shift the value of those before them. -/
theorem digitsValue_append (as bs : List Char) :
    digitsValue (as ++ bs) = digitsValue as * tenTo bs.length + digitsValue bs := by
  unfold digitsValue
  rw [List.foldl_append]
  generalize as.foldl (fun n c => 10 * n + (c.toNat - 48)) 0 = start
  -- what was read before is shifted once for each digit
  induction bs generalizing start with
  | nil => simp
  | cons c bs ih =>
      rw [List.foldl_cons, List.foldl_cons, ih, ih (10 * 0 + _), List.length_cons, tenTo_succ]
      ring

theorem digitsValue_zeros (n : Nat) : digitsValue (zeros n) = 0 := by
  induction n with
  | zero => rfl
  | succ n ih =>
      rw [zeros, List.replicate_succ, ← List.singleton_append, digitsValue_append]
      simpa [zeros, digitsValue] using ih

/-- Zeros in front do not count. -/
@[simp]
theorem digitsValue_padded (width n : Nat) : digitsValue (padded width n) = n := by
  unfold padded
  dsimp only
  rw [digitsValue_append, digitsValue_zeros, digitsValue_digits, Nat.zero_mul, Nat.zero_add]

/-! ## Characters of digits -/

theorem isDigit_of_mem_digits {n : Nat} {c : Char} (h : c ∈ digits n) : c.isDigit = true :=
  Nat.isDigit_of_mem_toDigits (by decide) (by decide) h

theorem isDigit_of_mem_zeros {n : Nat} {c : Char} (h : c ∈ zeros n) : c.isDigit = true := by
  rw [List.eq_of_mem_replicate h]
  rfl

theorem isDigit_of_mem_padded {width n : Nat} {c : Char} (h : c ∈ padded width n) :
    c.isDigit = true := by
  rcases List.mem_append.1 h with hzero | hdigit
  · exact isDigit_of_mem_zeros hzero
  · exact isDigit_of_mem_digits hdigit

theorem digits_ne_nil (n : Nat) : digits n ≠ [] :=
  Nat.toDigits_ne_nil

theorem length_digits_le_iff {n k : Nat} (hk : 0 < k) : (digits n).length ≤ k ↔ n < tenTo k :=
  Nat.length_toDigits_le_iff (by decide) hk

/-- A positive number is not written with a zero in front. -/
theorem head?_digits_ne_zero {n : Nat} (h : 0 < n) : (digits n).head? ≠ some '0' := by
  induction n using Nat.strongRecOn with
  | ind n ih =>
      rcases Nat.lt_or_ge n 10 with hsmall | hlarge
      · rw [digits, Nat.toDigits_of_lt_base hsmall]
        interval_cases n <;> decide
      · have hquotient : 0 < n / 10 := Nat.div_pos hlarge (by decide)
        have hsplit : digits n = digits (n / 10) ++ [(n % 10).digitChar] :=
          Nat.toDigits_of_base_le (by decide) hlarge
        rw [hsplit, List.head?_append_of_ne_nil _ (digits_ne_nil _)]
        exact ih (n / 10) (Nat.div_lt_self h (by decide)) hquotient

/-- Only zero is written with a zero in front. -/
theorem digits_of_head?_zero {n : Nat} (h : (digits n).head? = some '0') : digits n = ['0'] := by
  rcases Nat.eq_zero_or_pos n with rfl | hpos
  · rfl
  · exact absurd h (head?_digits_ne_zero hpos)

/-- A number that fits is written with exactly the places asked for. -/
theorem length_padded {width n : Nat} (hwidth : 0 < width) (h : n < tenTo width) :
    (padded width n).length = width := by
  have hfits : (digits n).length ≤ width := (length_digits_le_iff hwidth).2 h
  unfold padded zeros
  dsimp only
  rw [List.length_append, List.length_replicate]
  omega

/-! ## Texts of numbers -/

/-- A text that spells an integer: digits, the first of them zero for zero only, and a sign
in front of a negative one. -/
def IsInteger (text : String) (i : Int) : Prop :=
  ∃ ds : List Char, ds ≠ [] ∧ (∀ c ∈ ds, c.isDigit = true) ∧
    (ds.head? = some '0' → ds = ['0']) ∧ digitsValue ds = i.natAbs ∧
    text.toList = if i < 0 then '-' :: ds else ds

/-- A text that spells a number of thousandths, or of another power of ten: digits with a
point before the last `places` of them, the first one zero only if it stands alone before
the point. -/
def IsFixedPoint (text : String) (places n : Nat) : Prop :=
  ∃ whole part : List Char, whole ≠ [] ∧ part.length = places ∧
    (∀ c ∈ whole ++ part, c.isDigit = true) ∧ (whole.head? = some '0' → whole = ['0']) ∧
    digitsValue (whole ++ part) = n ∧ text.toList = whole ++ '.' :: part

/-- An integer nearest to `num / den`, an even one where two are equally near. -/
structure IsNearest (n num den : Nat) : Prop where
  above : 2 * (n * den) ≤ 2 * num + den
  below : 2 * num ≤ 2 * (n * den) + den
  even : 2 * (n * den) = 2 * num + den ∨ 2 * num = 2 * (n * den) + den → n % 2 = 0

/-- Integers are spelled by their digits. -/
theorem isInteger_intText (i : Int) : IsInteger (intText i) i := by
  cases i with
  | ofNat n =>
      refine ⟨digits n, digits_ne_nil n, fun c => isDigit_of_mem_digits, digits_of_head?_zero,
        ?_, ?_⟩
      · exact digitsValue_digits n
      · rw [if_neg (by simp), intText, natText, String.toList_ofList]
  | negSucc n =>
      refine ⟨digits (n + 1), digits_ne_nil _, fun c => isDigit_of_mem_digits,
        digits_of_head?_zero, ?_, ?_⟩
      · exact digitsValue_digits (n + 1)
      · rw [if_pos (Int.negSucc_lt_zero n), intText, natText]
        simp

/-- A scaled number is spelled with its places after the point. -/
theorem isFixedPoint_fixedText {places : Nat} (h : 0 < places) (n : Nat) :
    IsFixedPoint (Magnitude.fixedText n places) places n := by
  have hlength : (padded places (n % tenTo places)).length = places :=
    length_padded h (Nat.mod_lt n (tenTo_pos places))
  refine ⟨digits (n / tenTo places), padded places (n % tenTo places), digits_ne_nil _, hlength,
    ?_, digits_of_head?_zero, ?_, ?_⟩
  · intro c hc
    rcases List.mem_append.1 hc with hwhole | hpart
    · exact isDigit_of_mem_digits hwhole
    · exact isDigit_of_mem_padded hpart
  · rw [digitsValue_append, hlength, digitsValue_digits, digitsValue_padded, Nat.div_add_mod']
  · rw [Magnitude.fixedText, if_neg (Nat.ne_of_gt h)]
    simp [natText]

/-- A double is spelled with its places after the point. -/
theorem isFixedPoint_fixed {places : Nat} (h : 0 < places) (x : Magnitude) :
    IsFixedPoint (x.fixed places) places (x.scaledDecimal places) :=
  isFixedPoint_fixedText h _

/-- The decimals of a double are those nearest to it. -/
theorem isNearest_scaledDecimal (x : Magnitude) (places : Nat) :
    IsNearest (x.scaledDecimal places) (x.units * tenTo places) unitsPerOne := by
  obtain ⟨habove, hbelow, heven⟩ := roundDiv_bounds (x.units * tenTo places) unitsPerOne_pos
  exact ⟨habove, hbelow, heven⟩

end Number
end ContractAudit
