import ContractAudit.Proofs.Number.RoundingInterval

/-!
# The shortest digits read back

The search for the shortest digits of a double goes through decimal grids of
one, two and more digits.  On a grid of seventeen digits one of the two
neighbours of a double lies in its rounding interval, so that the search ends
there at the latest.  What it finds rounds to the double, also without the
zeros at its end and in whatever layout it is written.

Main results:

- Theorem {lit}`atPoint_decimalPoint`: the position of the decimal point.
- Theorem {lit}`isSome_gridHit?_seventeen`: seventeen digits are enough.
- Theorem {lit}`spells_shortest`: the shortest digits of a double round to it.
-/

namespace ContractAudit
namespace Number

/-! ## Decimal numbers in units -/

/-- A decimal number in units is a multiple of the power of ten. -/
theorem decimalUnits_eq (d : Nat) (e : Int) :
    decimalUnits d e = (d * (decimalUnits 1 e).1, (decimalUnits 1 e).2) := by
  cases e with
  | ofNat n => simp [decimalUnits, Nat.mul_assoc]
  | negSucc n => simp [decimalUnits]

theorem decimalUnits_fst_pos (e : Int) : 0 < (decimalUnits 1 e).1 := by
  cases e with
  | ofNat n => simpa [decimalUnits] using Nat.mul_pos (tenTo_pos n) unitsPerOne_pos
  | negSucc n => simpa [decimalUnits] using unitsPerOne_pos

/-- Raising the exponent multiplies by a power of ten. -/
theorem decimalUnits_add (e : Int) (k : Nat) :
    (decimalUnits 1 (e + k)).1 * (decimalUnits 1 e).2 =
      tenTo k * (decimalUnits 1 e).1 * (decimalUnits 1 (e + k)).2 := by
  cases e with
  | ofNat n =>
      have hsum : Int.ofNat n + (k : Int) = Int.ofNat (n + k) := rfl
      rw [hsum]
      simp only [decimalUnits, tenTo_add]
      ring
  | negSucc n =>
      rcases Nat.lt_or_ge n k with hk | hk
      · obtain ⟨j, rfl⟩ := Nat.exists_eq_add_of_lt hk
        have hsum : Int.negSucc n + ((n + j + 1 : Nat) : Int) = Int.ofNat j := by
          rw [Int.negSucc_eq]
          simp
          omega
        rw [hsum]
        simp only [decimalUnits]
        have hpower : tenTo (n + j + 1) = tenTo j * tenTo (n + 1) := by
          rw [← tenTo_add]
          congr 1
          omega
        rw [hpower]
        ring
      · obtain ⟨j, rfl⟩ := Nat.exists_eq_add_of_le hk
        have hsum : Int.negSucc (k + j) + (k : Int) = Int.negSucc j := by
          rw [Int.negSucc_eq, Int.negSucc_eq]
          push_cast
          omega
        rw [hsum]
        simp only [decimalUnits]
        have hpower : tenTo (k + j + 1) = tenTo k * tenTo (j + 1) := by
          rw [← tenTo_add]
          congr 1
        rw [hpower]
        ring

/-- The double nearest to a decimal number, in units. -/
def decimalNearest (d : Nat) (e : Int) : Nat :=
  nearestUnits (decimalUnits d e).1 (decimalUnits d e).2

/-- Equal quotients round to the same double. -/
theorem nearestUnits_congr {num den num' den' : Nat} (hden : 0 < den) (hden' : 0 < den')
    (h : num * den' = num' * den) : nearestUnits num den = nearestUnits num' den' :=
  Nat.le_antisymm (nearestUnits_mono hden hden' (Nat.le_of_eq h))
    (nearestUnits_mono hden' hden (Nat.le_of_eq h.symm))

/-- Zeros at the end of the digits are made up for by the exponent. -/
theorem decimalNearest_mul_tenTo (d k : Nat) (e : Int) :
    decimalNearest (d * tenTo k) e = decimalNearest d (e + k) := by
  unfold decimalNearest
  rw [decimalUnits_eq (d * tenTo k), decimalUnits_eq d]
  refine nearestUnits_congr (decimalUnits_snd_pos _ _) (decimalUnits_snd_pos _ _) ?_
  have hshift := decimalUnits_add e k
  calc d * tenTo k * (decimalUnits 1 e).1 * (decimalUnits 1 (e + k)).2
      = d * (tenTo k * (decimalUnits 1 e).1 * (decimalUnits 1 (e + k)).2) := by ring
    _ = d * ((decimalUnits 1 (e + k)).1 * (decimalUnits 1 e).2) := by rw [hshift]
    _ = d * (decimalUnits 1 (e + k)).1 * (decimalUnits 1 e).2 := by ring

/-! ## The decimal point -/

/-- A number of units has its first digit right behind the decimal point. -/
structure AtPoint (u : Nat) (p : Int) : Prop where
  low : (decimalUnits 1 (p - 1)).1 ≤ u * (decimalUnits 1 (p - 1)).2
  high : u * (decimalUnits 1 p).2 < (decimalUnits 1 p).1

/-- The shift that is found is the least one, if there is one in reach. -/
theorem leadingShift_spec {u fuel j : Nat} (h : unitsPerOne ≤ u * tenTo (j + fuel)) :
    unitsPerOne ≤ u * tenTo (leadingShift u fuel j) ∧ j ≤ leadingShift u fuel j ∧
      leadingShift u fuel j ≤ j + fuel ∧
      (j < leadingShift u fuel j → u * tenTo (leadingShift u fuel j - 1) < unitsPerOne) := by
  induction fuel generalizing j with
  | zero => simpa [leadingShift] using h
  | succ fuel ih =>
      unfold leadingShift
      split
      next hfound => exact ⟨hfound, Nat.le_refl _, Nat.le_add_right _ _, by omega⟩
      next hmissed =>
        have hnext : unitsPerOne ≤ u * tenTo (j + 1 + fuel) := by
          rw [Nat.add_right_comm]
          exact h
        obtain ⟨hfound, hlow, hhigh, hleast⟩ := ih hnext
        refine ⟨hfound, by omega, by omega, ?_⟩
        intro _
        rcases Nat.eq_or_lt_of_le hlow with heq | hlt
        · rw [← heq]
          simpa using hmissed
        · exact hleast hlt

/-- The first digit of a number of one or more. -/
theorem atPoint_of_le {u : Nat} (h : unitsPerOne ≤ u) :
    AtPoint u ((digits (u / unitsPerOne)).length : Int) := by
  obtain ⟨k, hk⟩ : ∃ k, (digits (u / unitsPerOne)).length = k + 1 :=
    Nat.exists_eq_succ_of_ne_zero (by simpa using digits_ne_nil _)
  have hpred : ((k + 1 : Nat) : Int) - 1 = Int.ofNat k := by
    push_cast
    simp
  have hlow : tenTo k ≤ u / unitsPerOne := by
    rcases Nat.eq_zero_or_pos k with rfl | hkpos
    · exact (Nat.le_div_iff_mul_le unitsPerOne_pos).2 (by simpa using h)
    · by_contra hlt
      have hle := (length_digits_le_iff hkpos).2 (Nat.lt_of_not_le hlt)
      omega
  have hhigh : u / unitsPerOne < tenTo (k + 1) :=
    (length_digits_le_iff (Nat.succ_pos k)).1 (Nat.le_of_eq hk)
  rw [hk]
  constructor
  · rw [hpred]
    simpa [decimalUnits] using (Nat.le_div_iff_mul_le unitsPerOne_pos).1 hlow
  · simpa [decimalUnits] using (Nat.div_lt_iff_lt_mul unitsPerOne_pos).1 hhigh

/-- The first digit of a number below one. -/
theorem atPoint_of_shift {u j : Nat} (hfound : unitsPerOne ≤ u * tenTo (j + 1))
    (hleast : u * tenTo j < unitsPerOne) : AtPoint u (1 - ((j + 1 : Nat) : Int)) := by
  have hpoint : 1 - ((j + 1 : Nat) : Int) - 1 = Int.negSucc j := by
    rw [Int.negSucc_eq]
    push_cast
    omega
  constructor
  · rw [hpoint]
    simpa [decimalUnits] using hfound
  · cases j with
    | zero => simpa [decimalUnits] using hleast
    | succ j =>
        have hnegative : 1 - ((j + 1 + 1 : Nat) : Int) = Int.negSucc j := by
          rw [Int.negSucc_eq]
          push_cast
          omega
        rw [hnegative]
        simpa [decimalUnits] using hleast

/-- Any number of units is one or more after 400 shifts. -/
theorem unitsPerOne_le_tenTo : unitsPerOne ≤ tenTo 400 := by decide +kernel

/-- The position of the decimal point, and bounds for it. -/
theorem atPoint_decimalPoint {u : Nat} (hpos : 0 < u) (hfinite : u < overflowUnits) :
    AtPoint u (decimalPoint u) ∧ -400 ≤ decimalPoint u ∧ decimalPoint u ≤ 400 := by
  unfold decimalPoint
  split
  next hlarge =>
    have hlength : (digits (u / unitsPerOne)).length ≤ 400 := by
      have hlimit : overflowUnits ≤ tenTo 400 * unitsPerOne := by decide +kernel
      refine (length_digits_le_iff (by decide)).2 ?_
      exact (Nat.div_lt_iff_lt_mul unitsPerOne_pos).2 (Nat.lt_of_lt_of_le hfinite hlimit)
    exact ⟨atPoint_of_le hlarge, by omega, by omega⟩
  next hsmall =>
    have hreach : unitsPerOne ≤ u * tenTo (1 + 400) := by
      calc unitsPerOne ≤ 1 * tenTo 400 := by rw [Nat.one_mul]; exact unitsPerOne_le_tenTo
        _ ≤ u * tenTo (1 + 400) :=
          Nat.mul_le_mul hpos (tenTo_le_tenTo (by decide))
    obtain ⟨hfound, hlow, hhigh, hleast⟩ := leadingShift_spec hreach
    obtain ⟨j, hj⟩ : ∃ j, leadingShift u 400 1 = j + 1 := ⟨leadingShift u 400 1 - 1, by omega⟩
    rw [hj] at hfound hhigh hleast ⊢
    refine ⟨atPoint_of_shift hfound ?_, by omega, by omega⟩
    cases j with
    | zero => simpa using hsmall
    | succ j => exact hleast (by omega)

/-! ## Decimal grids -/

section Grid

variable {u n d : Nat} {p : Int}

/-- The grid point at a number of units or right below it. -/
def gridBelow (u : Nat) (e : Int) : Nat :=
  u * (decimalUnits 1 e).2 / (decimalUnits 1 e).1

/-- What is found on a grid reads back, and is one of the two neighbours. -/
theorem readsBack_of_gridHit? (h : gridHit? u p n = some d) :
    readsBack u d (p - n) = true ∧ (d = gridBelow u (p - n) ∨ d = gridBelow u (p - n) + 1) := by
  unfold gridHit? at h
  dsimp only at h
  rw [← gridBelow] at h
  split at h
  next hbelow habove =>
    split at h
    · obtain rfl := Option.some.inj h
      exact ⟨hbelow, .inl rfl⟩
    · split at h
      · obtain rfl := Option.some.inj h
        exact ⟨habove, .inr rfl⟩
      · obtain rfl := Option.some.inj h
        rcases Nat.mod_two_eq_zero_or_one (gridBelow u (p - n)) with heven | hodd
        · rw [heven, Nat.add_zero]
          exact ⟨hbelow, .inl rfl⟩
        · rw [hodd]
          exact ⟨habove, .inr rfl⟩
  next hbelow _ =>
    obtain rfl := Option.some.inj h
    exact ⟨hbelow, .inl rfl⟩
  next _ habove =>
    obtain rfl := Option.some.inj h
    exact ⟨habove, .inr rfl⟩
  next => cases h

/-- Something is found on a grid if one of the neighbours reads back. -/
theorem isSome_gridHit? (h : readsBack u (gridBelow u (p - n)) (p - n) = true ∨
      readsBack u (gridBelow u (p - n) + 1) (p - n) = true) :
    (gridHit? u p n).isSome := by
  unfold gridHit?
  dsimp only
  rw [← gridBelow]
  cases hbelow : readsBack u (gridBelow u (p - n)) (p - n) <;>
    cases habove : readsBack u (gridBelow u (p - n) + 1) (p - n)
  · simp [hbelow, habove] at h
  · rfl
  · rfl
  · dsimp only
    split
    · rfl
    · split <;> rfl

/-- The first digit stays in front on a grid of any number of digits. -/
theorem AtPoint.grid_le (h : AtPoint u p) (n : Nat) :
    tenTo n * (decimalUnits 1 (p - (n + 1 : Nat))).1 ≤
      u * (decimalUnits 1 (p - (n + 1 : Nat))).2 := by
  have hshift := decimalUnits_add (p - (n + 1 : Nat)) n
  have hpoint : p - ((n + 1 : Nat) : Int) + n = p - 1 := by
    push_cast
    omega
  rw [hpoint] at hshift
  refine Nat.le_of_mul_le_mul_right ?_ (decimalUnits_snd_pos 1 (p - 1))
  rw [← hshift, Nat.mul_right_comm]
  exact Nat.mul_le_mul_right _ h.low

/-- No further digit gets in front of it. -/
theorem AtPoint.lt_grid (h : AtPoint u p) (n : Nat) :
    u * (decimalUnits 1 (p - n)).2 < tenTo n * (decimalUnits 1 (p - n)).1 := by
  have hshift := decimalUnits_add (p - n) n
  rw [Int.sub_add_cancel] at hshift
  refine Nat.lt_of_mul_lt_mul_right (a := (decimalUnits 1 p).2) ?_
  rw [← hshift, Nat.mul_right_comm]
  exact Nat.mul_lt_mul_of_pos_right h.high (decimalUnits_snd_pos 1 _)

/-- The two neighbours on a grid have one digit more than the grid at most. -/
theorem AtPoint.length_digits_le (h : AtPoint u p)
    (hd : d = gridBelow u (p - n) ∨ d = gridBelow u (p - n) + 1) :
    (digits d).length ≤ n + 1 := by
  have hbelow : gridBelow u (p - n) < tenTo n :=
    (Nat.div_lt_iff_lt_mul (decimalUnits_fst_pos _)).2 (h.lt_grid n)
  refine (length_digits_le_iff (Nat.succ_pos n)).2 ?_
  have hpow := tenTo_pos n
  rw [tenTo_succ]
  omega

/-- There are fewer spacings in a double than the seventeen digits can tell apart. -/
theorem lt_spacing (u : Nat) : u < twoTo 53 * spacing u := by
  rw [spacing, ← twoTo_add]
  refine Nat.lt_of_lt_of_le (lt_twoTo_log2_succ u) (Nat.pow_le_pow_right (by decide) (by omega))

/-- On a grid of seventeen digits one of the neighbours reads back. -/
theorem isSome_gridHit?_seventeen (hpos : 0 < u) (hu : IsDouble u) (hp : AtPoint u p) :
    (gridHit? u p 17).isSome := by
  refine isSome_gridHit? ?_
  rw [readsBack_iff hpos hu, readsBack_iff hpos hu, decimalUnits_eq (gridBelow u _),
    decimalUnits_eq (gridBelow u _ + 1), gridBelow]
  have hgrid := hp.grid_le 16
  have hone := decimalUnits_fst_pos (p - (17 : Nat))
  have hden := decimalUnits_snd_pos 1 (p - (17 : Nat))
  generalize (decimalUnits 1 (p - (17 : Nat))).1 = one at *
  generalize (decimalUnits 1 (p - (17 : Nat))).2 = den at *
  have hsplit : u * den / one * one + u * den % one = u * den := Nat.div_add_mod' _ _
  have hrest : u * den % one < one := Nat.mod_lt _ hone
  have hdense : u * den < twoTo 53 * (spacing u * den) := by
    rw [← Nat.mul_assoc]
    exact Nat.mul_lt_mul_of_pos_right (lt_spacing u) hden
  rw [show tenTo 16 = 10000000000000000 from rfl] at hgrid
  rw [show twoTo 53 = 9007199254740992 from rfl] at hdense
  have habove : (u * den / one + 1) * one = u * den / one * one + one := by
    rw [Nat.add_mul, Nat.one_mul]
  -- if the point above is too far away, the one below is near enough
  rcases Nat.lt_or_ge (2 * (one - u * den % one)) (spacing u * den) with hnear | hfar
  · right
    constructor
    · omega
    · omega
    · omega
  · left
    rcases reachBelow_cases u with ⟨hpower, hreach⟩ | hreach
    · have htop : u * den = twoTo 52 * (spacing u * den) := by
        rw [← Nat.mul_assoc, ← hpower]
      rw [show twoTo 52 = 4503599627370496 from rfl] at htop
      omega
    · have hscaled : reachBelow u * den = 2 * (spacing u * den) := by
        rw [hreach, Nat.mul_assoc]
      constructor
      · omega
      · omega
      · omega

/-- The search ends with the first grid on which something is found. -/
theorem exists_shortestFrom {fuel n last : Nat} (hn : n ≤ last) (hlast : last < n + fuel)
    (h : (gridHit? u p last).isSome) :
    ∃ m d, m ≤ last ∧ gridHit? u p m = some d ∧
      shortestFrom u p fuel n = ⟨digits d, p + (((digits d).length : Int) - m)⟩ := by
  induction fuel generalizing n with
  | zero => omega
  | succ fuel ih =>
      unfold shortestFrom
      cases hhit : gridHit? u p n with
      | some d => exact ⟨n, d, hn, hhit, rfl⟩
      | none =>
          have hne : n ≠ last := by
            rintro rfl
            simp [hhit] at h
          exact ih (by omega) (by omega)

end Grid

/-! ## Significant digits -/

/-- Digits end with zeros behind what is left without them. -/
theorem exists_append_zeros (ds : List Char) :
    ∃ k, ds = (ds.reverse.dropWhile (· == '0')).reverse ++ zeros k := by
  obtain ⟨k, hk⟩ : ∃ k, ds.reverse.takeWhile (· == '0') = zeros k := by
    refine ⟨_, List.eq_replicate_iff.2 ⟨rfl, fun c hc => ?_⟩⟩
    simpa using List.all_eq_true.1 List.all_takeWhile c hc
  refine ⟨k, ?_⟩
  calc ds = ds.reverse.reverse := (List.reverse_reverse ds).symm
    _ = (zeros k ++ ds.reverse.dropWhile (· == '0')).reverse := by
        rw [← hk, List.takeWhile_append_dropWhile]
    _ = (ds.reverse.dropWhile (· == '0')).reverse ++ zeros k := by
        rw [List.reverse_append, zeros, List.reverse_replicate]

/-- The digits of a number without the zeros at their end, and how many zeros these are. -/
structure IsTrimmed (d : Nat) (ds : List Char) (k : Nat) : Prop where
  nonempty : ds ≠ []
  isDigit : ∀ c ∈ ds, c.isDigit = true
  leading : ds.head? ≠ some '0'
  length : (digits d).length = ds.length + k
  value : d = digitsValue ds * tenTo k

/-- A positive number has digits that are no zeros at the end. -/
theorem exists_isTrimmed {d : Nat} (hd : 0 < d) :
    ∃ k, IsTrimmed d ((digits d).reverse.dropWhile (· == '0')).reverse k := by
  obtain ⟨k, hk⟩ := exists_append_zeros (digits d)
  refine ⟨k, ?_⟩
  generalize ((digits d).reverse.dropWhile (· == '0')).reverse = ds at hk ⊢
  have hvalue : d = digitsValue ds * tenTo k := by
    have hdigits := digitsValue_digits d
    rw [hk, digitsValue_append, digitsValue_zeros, zeros, List.length_replicate] at hdigits
    omega
  have hne : ds ≠ [] := by
    rintro rfl
    simp at hvalue
    omega
  constructor
  · exact hne
  · intro c hc
    refine isDigit_of_mem_digits (n := d) ?_
    rw [hk]
    exact List.mem_append_left _ hc
  · have hhead := head?_digits_ne_zero hd
    rwa [hk, List.head?_append_of_ne_nil _ hne] at hhead
  · rw [hk, List.length_append, zeros, List.length_replicate]
  · exact hvalue

/-- Significant digits that spell a double: they are worth a number that rounds to it. -/
structure Spells (u : Nat) (d : Decimal) : Prop where
  nonempty : d.digits ≠ []
  isDigit : ∀ c ∈ d.digits, c.isDigit = true
  leading : d.digits.head? ≠ some '0'
  point_low : -500 ≤ d.point
  point_high : d.point ≤ 500
  value : decimalNearest (digitsValue d.digits) (d.point - d.digits.length) = u

/-- Zero is nearest to zero. -/
theorem decimalNearest_zero (e : Int) : decimalNearest 0 e = 0 := by
  unfold decimalNearest
  rw [decimalUnits_eq, Nat.zero_mul]
  unfold nearestUnits
  dsimp only
  rw [Nat.zero_div]
  simp [roundDiv, Nat.mul_pos (decimalUnits_snd_pos 1 e) (spacing_pos 0)]

/-- The shortest digits of a double spell it. -/
theorem spells_shortest {u : Nat} (hpos : 0 < u) (hu : IsDouble u) (hfinite : u < overflowUnits) :
    Spells u (shortest u) := by
  obtain ⟨hpoint, hlow, hhigh⟩ := atPoint_decimalPoint hpos hfinite
  obtain ⟨n, d, hn, hhit, hfrom⟩ := exists_shortestFrom (by decide : 1 ≤ 17)
    (by decide : 17 < 1 + 17) (isSome_gridHit?_seventeen hpos hu hpoint)
  obtain ⟨hback, hneighbour⟩ := readsBack_of_gridHit? hhit
  have hnearest : decimalNearest d (decimalPoint u - n) = u :=
    nearestUnits_of_readsBack hpos hu hback
  have hd : 0 < d := by
    rcases Nat.eq_zero_or_pos d with rfl | hd
    · rw [decimalNearest_zero] at hnearest
      omega
    · exact hd
  have hlength := hpoint.length_digits_le hneighbour
  obtain ⟨k, htrimmed⟩ := exists_isTrimmed hd
  unfold shortest
  rw [hfrom]
  dsimp only
  generalize ((digits d).reverse.dropWhile (· == '0')).reverse = ds at htrimmed ⊢
  have hsome := List.length_pos_of_ne_nil htrimmed.nonempty
  have hcount := htrimmed.length
  refine ⟨htrimmed.nonempty, htrimmed.isDigit, htrimmed.leading, ?_, ?_, ?_⟩
  · dsimp only
    omega
  · dsimp only
    omega
  · -- the zeros that are left out are made up for by the exponent
    have hexponent : decimalPoint u + (((digits d).length : Int) - n) - ds.length =
        decimalPoint u - n + k := by
      rw [hcount]
      push_cast
      omega
    dsimp only
    rw [hexponent, ← decimalNearest_mul_tenTo, ← htrimmed.value]
    exact hnearest

end Number
end ContractAudit
