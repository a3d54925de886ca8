import ContractAudit.Proofs.Number.ShortestReading

/-!
# Texts of doubles read back

A numeral is a whole part, a fractional part and an exponent, each of which has
the form that the layout of doubles gives it.  Reading a numeral gives the
double nearest to what its digits are worth.  The shortest text of a double is a
numeral that is worth a number which rounds to the double, so that the text is
read as the same double.

Main results:

- Theorem {lit}`Numeral.decimal?_text`: what a numeral is read as.
- Theorem {lit}`Spells.exists_numeral`: the layout of significant digits is a
  numeral of the same worth.
- Theorem {lit}`Magnitude.exists_numeral`: the text of a double is read as the
  same double.
-/

namespace ContractAudit
namespace Number

/-! ## Digits and what follows them -/

/-- What follows is empty or begins with something else than a digit. -/
def EndsDigits (rest : List Char) : Prop :=
  ∀ c, rest.head? = some c → c.isDigit = false

theorem endsDigits_nil : EndsDigits [] := by
  intro c hc
  cases hc

theorem takeWhile_isDigit {ds rest : List Char} (hds : ∀ c ∈ ds, c.isDigit = true)
    (hrest : EndsDigits rest) : (ds ++ rest).takeWhile Char.isDigit = ds := by
  have hstop : rest.takeWhile Char.isDigit = [] := by
    cases rest with
    | nil => rfl
    | cons c rest => simp [hrest c rfl]
  rw [List.takeWhile_append_of_pos hds, hstop, List.append_nil]

theorem dropWhile_isDigit {ds rest : List Char} (hds : ∀ c ∈ ds, c.isDigit = true)
    (hrest : EndsDigits rest) : (ds ++ rest).dropWhile Char.isDigit = rest := by
  have hstop : rest.dropWhile Char.isDigit = rest := by
    cases rest with
    | nil => rfl
    | cons c rest => simp [hrest c rfl]
  rw [List.dropWhile_append_of_pos hds, hstop]

/-- Zeros in front of digits do not count. -/
theorem digitsValue_dropWhile (cs : List Char) :
    digitsValue (cs.dropWhile (· == '0')) = digitsValue cs := by
  induction cs with
  | nil => rfl
  | cons c cs ih =>
      by_cases hc : c = '0'
      · subst hc
        rw [List.dropWhile_cons_of_pos (by rfl), ih, ← List.singleton_append,
          digitsValue_append]
        simp [digitsValue]
      · rw [List.dropWhile_cons_of_neg (by simpa using hc)]

/-- The value of digits is below the power of ten of their number. -/
theorem digitsValue_lt {cs : List Char} (h : ∀ c ∈ cs, c.isDigit = true) :
    digitsValue cs < tenTo cs.length := by
  induction cs with
  | nil => exact Nat.one_pos
  | cons c cs ih =>
      have hrest := ih fun d hd => h d (List.mem_cons_of_mem c hd)
      have hdigit : digitsValue [c] ≤ 9 := by
        have hc := h c List.mem_cons_self
        simp [Char.isDigit, UInt32.le_iff_toNat_le] at hc
        simp [digitsValue]
        omega
      have hscaled := Nat.mul_le_mul_right (tenTo cs.length) hdigit
      rw [← List.singleton_append, digitsValue_append, List.length_append, List.length_singleton,
        Nat.add_comm 1, tenTo_succ]
      omega

/-! ## Nearest doubles of decimal numbers -/

/-- A decimal number that is far too small rounds to zero. -/
theorem decimalNearest_of_small {d count : Nat} {e : Int} (hcount : d < tenTo count)
    (h : (count : Int) + e < -400) : decimalNearest d e = 0 := by
  cases e with
  | ofNat n =>
      rw [Int.ofNat_eq_natCast] at h
      omega
  | negSucc n =>
      have hdigits : count + 400 ≤ n + 1 := by
        rw [Int.negSucc_eq] at h
        omega
      have hquarter : d * unitsPerOne * 4 ≤ 1 * tenTo (n + 1) := by
        have hunits : unitsPerOne * 4 ≤ tenTo 400 := by decide +kernel
        calc d * unitsPerOne * 4 = d * (unitsPerOne * 4) := Nat.mul_assoc _ _ _
          _ ≤ tenTo count * tenTo 400 := Nat.mul_le_mul (Nat.le_of_lt hcount) hunits
          _ = tenTo (count + 400) := (tenTo_add _ _).symm
          _ ≤ 1 * tenTo (n + 1) := by
              rw [Nat.one_mul]
              exact tenTo_le_tenTo hdigits
      have hzero : nearestUnits 1 4 = 0 := by decide
      have hle := nearestUnits_mono (tenTo_pos (n + 1)) (by decide) hquarter
      rw [hzero] at hle
      exact Nat.le_zero.1 hle

/-- A decimal number that is far too large rounds to no finite double. -/
theorem decimalNearest_of_large {d : Nat} {e : Int} (hd : 0 < d) (h : 400 < e) :
    overflowUnits ≤ decimalNearest d e := by
  cases e with
  | ofNat n =>
      have hn : 400 ≤ n := by
        rw [Int.ofNat_eq_natCast] at h
        omega
      have hlimit : limitUnits ≤ tenTo 400 * unitsPerOne := by decide +kernel
      have hscaled : tenTo 400 * unitsPerOne ≤ d * tenTo n * unitsPerOne := by
        refine Nat.mul_le_mul_right _ ?_
        exact Nat.le_trans (tenTo_le_tenTo hn) (Nat.le_mul_of_pos_left _ hd)
      have hnearest : decimalNearest d (.ofNat n) =
          nearestUnits (d * tenTo n * unitsPerOne) 1 := rfl
      rw [hnearest]
      refine overflowUnits_le_nearestUnits Nat.one_pos ?_
      rw [Nat.mul_one]
      exact Nat.le_trans hlimit hscaled
  | negSucc n =>
      rw [Int.negSucc_eq] at h
      omega

/-- A decimal number whose nearest double is known is read as that double. -/
theorem nearestDecimal_eq {negative : Bool} {d count u : Nat} {e : Int} (hpos : 0 < u)
    (hfinite : u < overflowUnits) (hcount : d < tenTo count) (h : decimalNearest d e = u) :
    nearestDecimal negative d count e = .finite negative ⟨u⟩ := by
  have hd : 0 < d := by
    rcases Nat.eq_zero_or_pos d with rfl | hd
    · rw [decimalNearest_zero] at h
      omega
    · exact hd
  have hsmall : ¬ (d = 0 ∨ (count : Int) + e < -400) := by
    rintro (hzero | hsmall)
    · omega
    · rw [decimalNearest_of_small hcount hsmall] at h
      omega
  have hlarge : ¬ 400 < e := by
    intro hlarge
    have hover := decimalNearest_of_large hd hlarge
    rw [h] at hover
    exact absurd hfinite (Nat.not_lt.2 hover)
  unfold nearestDecimal
  rw [if_neg hsmall, if_neg hlarge]
  cases e with
  | ofNat n =>
      have hunits : nearestUnits (d * tenTo n * unitsPerOne) 1 = u := h
      dsimp only [Magnitude.ofRatio?]
      rw [hunits, if_pos hfinite, Double.ofMagnitude?]
  | negSucc n =>
      have hunits : nearestUnits (d * unitsPerOne) (tenTo (n + 1)) = u := h
      dsimp only [Magnitude.ofRatio?]
      rw [hunits, if_pos hfinite, Double.ofMagnitude?]

/-! ## Numerals -/

/-- A number as a layout writes it: digits before the point, digits behind it or none, and
an exponent or none. -/
structure Numeral where
  whole : List Char
  part : List Char
  exponent : Option Int
  nonempty : whole ≠ []
  whole_isDigit : ∀ c ∈ whole, c.isDigit = true
  part_isDigit : ∀ c ∈ part, c.isDigit = true
  leading : whole.head? = some '0' → whole = ['0']
  small : ∀ e, exponent = some e → e.natAbs ≤ 1000

namespace Numeral

/-- The exponent as it is written. -/
def exponentText : Option Int → List Char
  | none => []
  | some e => 'e' :: (if e < 0 then '-' else '+') :: padded 2 e.natAbs

/-- The fractional part as it is written. -/
def partText (part : List Char) : List Char :=
  if part.isEmpty then [] else '.' :: part

/-- The whole text. -/
def text (n : Numeral) : List Char :=
  n.whole ++ (partText n.part ++ exponentText n.exponent)

/-- The digits of a natural number. -/
def natural (k : Nat) : Numeral where
  whole := digits k
  part := []
  exponent := none
  nonempty := digits_ne_nil k
  whole_isDigit := fun _ => isDigit_of_mem_digits
  part_isDigit := by simp
  leading := digits_of_head?_zero
  small := by simp

theorem text_natural (k : Nat) : (natural k).text = digits k := by
  simp [text, natural, partText, exponentText]

/-- The worth of a numeral: its digits are multiplied by this power of ten. -/
def scale (n : Numeral) : Int :=
  n.exponent.getD 0 - n.part.length

theorem endsDigits_exponentText (e : Option Int) {rest : List Char} (h : EndsDigits rest) :
    EndsDigits (exponentText e ++ rest) := by
  intro c hc
  cases e with
  | none => exact h c hc
  | some e =>
      obtain rfl : 'e' = c := by simpa [exponentText] using hc
      rfl

theorem endsDigits_partText (part : List Char) {rest : List Char} (h : EndsDigits rest) :
    EndsDigits (partText part ++ rest) := by
  intro c hc
  unfold partText at hc
  split at hc
  · exact h c hc
  · obtain rfl : '.' = c := by simpa using hc
    rfl

/-- The exponent of a numeral is read back. -/
theorem exponentPart?_exponentText {e : Option Int} (h : ∀ i, e = some i → i.natAbs ≤ 1000) :
    exponentPart? (exponentText e) = some (e.getD 0) := by
  cases e with
  | none => rfl
  | some i =>
      have hsmall : i.natAbs ≤ 1000 := h i rfl
      have hdigits : (padded 2 i.natAbs).all Char.isDigit = true :=
        List.all_eq_true.2 fun c hc => isDigit_of_mem_padded hc
      have hne : padded 2 i.natAbs ≠ [] := by simp [padded, digits_ne_nil]
      have hlength : (padded 2 i.natAbs).length ≤ 12 := by
        have hfour : (digits i.natAbs).length ≤ 4 :=
          (length_digits_le_iff (by decide)).2 (Nat.lt_of_le_of_lt hsmall (by decide))
        simp only [padded, zeros, List.length_append, List.length_replicate]
        omega
      have htake : ((padded 2 i.natAbs).dropWhile (· == '0')).take 12 =
          (padded 2 i.natAbs).dropWhile (· == '0') := by
        refine List.take_of_length_le (Nat.le_trans ?_ hlength)
        exact (List.dropWhile_suffix _).length_le
      have hvalue : min (digitsValue (((padded 2 i.natAbs).dropWhile (· == '0')).take 12))
          exponentCap = i.natAbs := by
        rw [htake, digitsValue_dropWhile, digitsValue_padded]
        exact Nat.min_eq_left (Nat.le_trans hsmall (by decide))
      have hread (negative : Bool) :
          exponentPart? ('e' :: (if negative then '-' else '+') :: padded 2 i.natAbs) =
            some (if negative then -(i.natAbs : Int) else i.natAbs) := by
        cases negative with
        | false => simp [exponentPart?, splitSign, hne, hdigits, hvalue]
        | true => simp [exponentPart?, splitSign, hne, hdigits, hvalue]
      have hsign : (if i < 0 then -(i.natAbs : Int) else i.natAbs) = i := by
        split <;> omega
      have hreply := hread (decide (i < 0))
      simp only [decide_eq_true_eq, hsign] at hreply
      exact hreply

/-- A numeral is read as the double nearest to what it is worth. -/
theorem decimal?_text (negative : Bool) (n : Numeral) :
    decimal? negative n.text =
      some (nearestDecimal negative (digitsValue (n.whole ++ n.part))
        ((n.whole ++ n.part).dropWhile (· == '0')).length n.scale) := by
  have hexponent : EndsDigits (exponentText n.exponent) := by
    simpa using endsDigits_exponentText n.exponent endsDigits_nil
  have hrest := endsDigits_partText n.part hexponent
  have hread := exponentPart?_exponentText n.small
  have hwhole : n.whole.isEmpty = false := by simpa using n.nonempty
  unfold decimal? text
  rw [takeWhile_isDigit n.whole_isDigit hrest, dropWhile_isDigit n.whole_isDigit hrest]
  unfold partText
  by_cases hpart : n.part = []
  · -- without a fractional part the exponent follows at once, or nothing
    cases hsome : n.exponent with
    | none => simp [hpart, hsome, exponentText, exponentPart?, hwhole, digitsValue_dropWhile, scale]
    | some e =>
        rw [hsome, exponentText] at hread
        simp [hpart, hsome, exponentText, hwhole, hread, digitsValue_dropWhile, scale]
  · simp [hpart, takeWhile_isDigit n.part_isDigit hexponent,
      dropWhile_isDigit n.part_isDigit hexponent, hwhole, hread, digitsValue_dropWhile, scale]

/-- A numeral that is worth a number with a known nearest double is read as that double. -/
theorem decimal?_text_of_nearest {negative : Bool} {n : Numeral} {u : Nat} (hpos : 0 < u)
    (hfinite : u < overflowUnits)
    (h : decimalNearest (digitsValue (n.whole ++ n.part)) n.scale = u) :
    decimal? negative n.text = some (.finite negative ⟨u⟩) := by
  rw [decimal?_text, nearestDecimal_eq hpos hfinite ?_ h]
  rw [← digitsValue_dropWhile]
  refine digitsValue_lt fun c hc => ?_
  rcases List.mem_append.1 ((List.dropWhile_suffix _).subset hc) with hwhole | hpart
  · exact n.whole_isDigit c hwhole
  · exact n.part_isDigit c hpart

end Numeral

/-! ## Layouts -/

section Layouts

variable {u : Nat} {d : Decimal}

/-- The digits are behind the point. -/
def Spells.behind (h : Spells u d) : Numeral where
  whole := ['0']
  part := zeros (-d.point).toNat ++ d.digits
  exponent := none
  nonempty := by simp
  whole_isDigit := by simp
  part_isDigit := by
    intro c hc
    rcases List.mem_append.1 hc with hzero | hdigit
    · exact isDigit_of_mem_zeros hzero
    · exact h.isDigit c hdigit
  leading := fun _ => rfl
  small := by simp

/-- The digits stand on both sides of the point. -/
def Spells.around (h : Spells u d) (hpoint : 0 < d.point) : Numeral where
  whole := d.digits.take d.point.toNat ++ zeros (d.point.toNat - d.digits.length)
  part := if (d.digits.drop d.point.toNat).isEmpty then ['0'] else d.digits.drop d.point.toNat
  exponent := none
  nonempty := by
    have hne := h.nonempty
    have hpos : d.point.toNat ≠ 0 := by omega
    simp [hne, hpos]
  whole_isDigit := by
    intro c hc
    rcases List.mem_append.1 hc with hdigit | hzero
    · exact h.isDigit c (List.mem_of_mem_take hdigit)
    · exact isDigit_of_mem_zeros hzero
  part_isDigit := by
    intro c hc
    split at hc
    · obtain rfl := List.mem_singleton.1 hc
      rfl
    · exact h.isDigit c (List.mem_of_mem_drop hc)
  leading := by
    intro hzero
    refine absurd ?_ h.leading
    have hne := h.nonempty
    have hpos : d.point.toNat ≠ 0 := by omega
    rw [List.head?_append_of_ne_nil _ (by simp [hne, hpos])] at hzero
    rwa [List.head?_take, if_neg hpos] at hzero
  small := by simp

/-- One digit is before the point, and an exponent follows the others. -/
def Spells.scientific (h : Spells u d) : Numeral where
  whole := d.digits.take 1
  part := d.digits.tail
  exponent := some (d.point - 1)
  nonempty := by simp [h.nonempty]
  whole_isDigit := fun c hc => h.isDigit c (List.mem_of_mem_take hc)
  part_isDigit := fun c hc => h.isDigit c (List.mem_of_mem_tail hc)
  leading := by
    intro hzero
    rw [List.head?_take] at hzero
    exact absurd hzero h.leading
  small := by
    intro e he
    obtain rfl := Option.some.inj he
    have hlow := h.point_low
    have hhigh := h.point_high
    omega

theorem Spells.text_behind (h : Spells u d) :
    h.behind.text = '0' :: '.' :: (zeros (-d.point).toNat ++ d.digits) := by
  simp [Numeral.text, Numeral.partText, Numeral.exponentText, Spells.behind, h.nonempty]

theorem Spells.part_around_ne_nil (h : Spells u d) (hpoint : 0 < d.point) :
    (h.around hpoint).part ≠ [] := by
  unfold Spells.around
  dsimp only
  split <;> simp_all

theorem Spells.text_around (h : Spells u d) (hpoint : 0 < d.point) :
    (h.around hpoint).text =
      d.digits.take d.point.toNat ++ zeros (d.point.toNat - d.digits.length) ++
        '.' :: (if (d.digits.drop d.point.toNat).isEmpty then ['0']
          else d.digits.drop d.point.toNat) := by
  have hpart := h.part_around_ne_nil hpoint
  have hexponent : (h.around hpoint).exponent = none := rfl
  rw [Numeral.text, Numeral.partText, if_neg (by simpa using hpart), hexponent]
  simp [Numeral.exponentText, Spells.around]

theorem Spells.text_scientific (h : Spells u d) :
    h.scientific.text =
      (match d.digits with
        | [] => ['0']
        | [c] => [c]
        | c :: rest => c :: '.' :: rest) ++
        'e' :: (if d.point - 1 < 0 then '-' else '+') :: padded 2 (d.point - 1).natAbs := by
  rcases d with ⟨_ | ⟨c, _ | ⟨next, rest⟩⟩, point⟩
  · exact absurd rfl h.nonempty
  · rfl
  · rfl

/-- Digits behind the point are worth the same. -/
theorem Spells.value_behind (h : Spells u d) (hpoint : d.point ≤ 0) :
    decimalNearest (digitsValue (h.behind.whole ++ h.behind.part)) h.behind.scale = u := by
  have hdigits : digitsValue (['0'] ++ (zeros (-d.point).toNat ++ d.digits)) =
      digitsValue d.digits := by
    rw [digitsValue_append, digitsValue_append, digitsValue_zeros]
    simp [digitsValue]
  have hscale : h.behind.scale = d.point - d.digits.length := by
    simp [Numeral.scale, Spells.behind, zeros]
    omega
  rw [hscale]
  unfold Spells.behind
  rw [hdigits]
  exact h.value

/-- Digits on both sides of the point are worth the same. -/
theorem Spells.value_around (h : Spells u d) (hpoint : 0 < d.point) :
    decimalNearest (digitsValue ((h.around hpoint).whole ++ (h.around hpoint).part))
      (h.around hpoint).scale = u := by
  unfold Spells.around Numeral.scale
  dsimp only [Option.getD_none]
  rcases Nat.lt_or_ge d.point.toNat d.digits.length with hshort | hlong
  · have hdrop : d.digits.drop d.point.toNat ≠ [] := by
      simp
      omega
    have hscale : (0 : Int) - ((d.digits.drop d.point.toNat).length : Int) =
        d.point - d.digits.length := by
      rw [List.length_drop]
      omega
    rw [if_neg (by simpa using hdrop), Nat.sub_eq_zero_of_le (Nat.le_of_lt hshort), hscale]
    simp only [zeros, List.replicate_zero, List.append_nil, List.take_append_drop]
    exact h.value
  · -- zeros up to the point and one behind it
    have hdrop : d.digits.drop d.point.toNat = [] := List.drop_eq_nil_of_le hlong
    have hdigits : digitsValue (d.digits ++ zeros (d.point.toNat - d.digits.length) ++ ['0']) =
        digitsValue d.digits * tenTo (d.point.toNat - d.digits.length + 1) := by
      rw [digitsValue_append, digitsValue_append, digitsValue_zeros, tenTo_succ]
      simp [digitsValue, zeros, tenTo]
      ring
    have hscale : (0 : Int) - ((['0'] : List Char).length : Int) +
        ((d.point.toNat - d.digits.length + 1 : Nat) : Int) = d.point - d.digits.length := by
      simp only [List.length_singleton]
      push_cast
      omega
    rw [hdrop, List.isEmpty_nil, if_pos rfl, List.take_of_length_le hlong, hdigits,
      decimalNearest_mul_tenTo, hscale]
    exact h.value

/-- Digits with an exponent are worth the same. -/
theorem Spells.value_scientific (h : Spells u d) :
    decimalNearest (digitsValue (h.scientific.whole ++ h.scientific.part)) h.scientific.scale =
      u := by
  have hdigits : d.digits.take 1 ++ d.digits.tail = d.digits := by
    rw [← List.drop_one, List.take_append_drop]
  have hlength := List.length_pos_of_ne_nil h.nonempty
  have hscale : d.point - 1 - (d.digits.tail.length : Int) = d.point - d.digits.length := by
    rw [List.length_tail]
    omega
  unfold Spells.scientific Numeral.scale
  dsimp only [Option.getD_some]
  rw [hdigits, hscale]
  exact h.value

/-- The layout of significant digits is a numeral of the same worth, with a fractional part or
an exponent. -/
theorem Spells.exists_numeral (h : Spells u d) :
    ∃ n : Numeral, plainLayout.write d = n.text ∧
      decimalNearest (digitsValue (n.whole ++ n.part)) n.scale = u ∧
      (n.part ≠ [] ∨ n.exponent.isSome) := by
  unfold Layout.write
  dsimp only
  by_cases hpositional : plainLayout.firstPositional ≤ d.point - 1 ∧
      d.point - 1 < plainLayout.firstLarge
  · rw [if_pos hpositional]
    by_cases hbehind : d.point ≤ 0
    · rw [if_pos hbehind]
      refine ⟨h.behind, h.text_behind.symm, h.value_behind hbehind, .inl ?_⟩
      simp [Spells.behind, h.nonempty]
    · have hpoint : 0 < d.point := by omega
      rw [if_neg hbehind]
      exact ⟨h.around hpoint, (h.text_around hpoint).symm, h.value_around hpoint,
        .inl (h.part_around_ne_nil hpoint)⟩
  · rw [if_neg hpositional]
    exact ⟨h.scientific, h.text_scientific.symm, h.value_scientific, .inr rfl⟩

/-- The text of a double is a numeral, with a fractional part or an exponent, that is read as
the same double. -/
theorem Magnitude.exists_numeral {m : Magnitude} (hm : IsDouble m.units)
    (hfinite : m.units < overflowUnits) :
    ∃ n : Numeral, m.text.toList = n.text ∧ (n.part ≠ [] ∨ n.exponent.isSome) ∧
      ∀ negative, decimal? negative n.text = some (.finite negative m) := by
  rcases Nat.eq_zero_or_pos m.units with hzero | hpos
  · let n : Numeral := ⟨['0'], ['0'], none, by simp, by simp, by simp, fun _ => rfl, by simp⟩
    refine ⟨n, ?_, .inl (by simp [n]), ?_⟩
    · rw [Magnitude.text, if_pos hzero]
      rfl
    · intro negative
      obtain rfl : m = .zero := by
        cases m
        cases hzero
        rfl
      rfl
  · obtain ⟨n, htext, hvalue, hform⟩ := (spells_shortest hpos hm hfinite).exists_numeral
    refine ⟨n, ?_, hform, fun negative => Numeral.decimal?_text_of_nearest hpos hfinite hvalue⟩
    rw [Magnitude.text, if_neg (Nat.ne_of_gt hpos), String.toList_ofList, htext]

end Layouts

end Number
end ContractAudit
