/-!
# Rounding quotients of natural numbers

One rounding rule serves the whole library: a quotient goes to the nearest
integer, and a quotient that lies half-way goes to the even neighbour.  The
double-precision arithmetic and the fixed-place texts of reports are both
built from {lit}`roundDiv`.  The powers of two and of ten that scale its
arguments, and the decimal texts of integers, stand beside it.

Main results:

- Theorem {lit}`roundDiv_mul_self`: an exact quotient is not changed.
-/

namespace ContractAudit
namespace Number

/-- The integer nearest to `num / den`; a half goes to the even neighbour. -/
def roundDiv (num den : Nat) : Nat :=
  let q := num / den
  let r := num % den
  if 2 * r < den then q
  else if den < 2 * r then q + 1
  else q + q % 2

/-- A quotient that is an integer rounds to itself. -/
theorem roundDiv_mul_self (q : Nat) {den : Nat} (hden : 0 < den) :
    roundDiv (q * den) den = q := by
  unfold roundDiv
  simp [Nat.mul_div_cancel _ hden, hden]

/-- The power of two with an exponent. -/
def twoTo (n : Nat) : Nat :=
  Nat.pow 2 n

@[simp]
theorem twoTo_zero : twoTo 0 = 1 := rfl

theorem twoTo_succ (n : Nat) : twoTo (n + 1) = twoTo n * 2 := rfl

theorem twoTo_pos (n : Nat) : 0 < twoTo n :=
  Nat.pow_pos (by decide)

/-- The power of ten with an exponent. -/
def tenTo (n : Nat) : Nat :=
  Nat.pow 10 n

@[simp]
theorem tenTo_zero : tenTo 0 = 1 := rfl

theorem tenTo_succ (n : Nat) : tenTo (n + 1) = tenTo n * 10 := rfl

theorem tenTo_pos (n : Nat) : 0 < tenTo n :=
  Nat.pow_pos (by decide)

/-- The decimal digits of a natural number, most significant first. -/
def digits (n : Nat) : List Char :=
  Nat.toDigits 10 n

/-- The decimal text of a natural number. -/
def natText (n : Nat) : String :=
  String.ofList (digits n)

/-- The decimal text of an integer, with a minus sign where it is negative. -/
def intText (i : Int) : String :=
  match i with
  | .ofNat n => natText n
  | .negSucc n => "-" ++ natText (n + 1)

end Number
end ContractAudit
