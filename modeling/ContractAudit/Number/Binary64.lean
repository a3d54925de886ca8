import ContractAudit.Number.Rounding

/-!
# Double-precision numbers, exactly

Every finite double is an integer multiple of the smallest positive one,
`2 ^ -1074`.  A non-negative finite double is therefore kept as that multiple,
its number of *units*: order, equality and exact products are those of the
natural numbers, and a rounding is one call of {lit}`nearestUnits`.

Main definitions:

- {lit}`nearestUnits`: the correctly rounded value of a ratio of units.
- {lit}`Magnitude`: a non-negative finite double.
- {lit}`Double`: all doubles, with signs, infinities and the not-a-number.
-/

namespace ContractAudit
namespace Number

/-- Number of units in one: the smallest positive double is `2 ^ -1074`. -/
def unitsPerOne : Nat := twoTo 1074

/-- Units of `2 ^ 1024`, the first power of two beyond the finite doubles. -/
def overflowUnits : Nat := twoTo 2098

/-- Distance of neighbouring doubles around `q` units: 53 significant bits are kept. -/
def spacing (q : Nat) : Nat :=
  twoTo (q.log2 - 52)

/-- The number of units of the double nearest to `num / den` units, half to even,
as if the exponents had no upper end. -/
def nearestUnits (num den : Nat) : Nat :=
  let s := spacing (num / den)
  roundDiv num (den * s) * s

/-- A non-negative finite double. -/
structure Magnitude where
  /-- The value as a multiple of `2 ^ -1074`. -/
  units : Nat
  deriving DecidableEq, Repr

namespace Magnitude

/-- The number zero. -/
def zero : Magnitude := ⟨0⟩

/-- The nearest double to `num / den`, or `none` where it is too large. -/
def ofRatio? (num den : Nat) : Option Magnitude :=
  let u := nearestUnits (num * unitsPerOne) den
  if u < overflowUnits then some ⟨u⟩ else none

/-- The nearest double to a natural number, or `none` where it is too large. -/
def ofNat? (n : Nat) : Option Magnitude :=
  ofRatio? n 1

/-- The correctly rounded quotient of two doubles. -/
def div? (x y : Magnitude) : Option Magnitude :=
  let u := nearestUnits (x.units * unitsPerOne) y.units
  if u < overflowUnits then some ⟨u⟩ else none

/-- The correctly rounded product of a double and a small integer. -/
def scale? (x : Magnitude) (k : Nat) : Option Magnitude :=
  let u := nearestUnits (x.units * k) 1
  if u < overflowUnits then some ⟨u⟩ else none

/-- The integer part. -/
def floor (x : Magnitude) : Nat :=
  x.units / unitsPerOne

/-- The integer nearest to the value times `10 ^ places`, half to even. -/
def scaledDecimal (x : Magnitude) (places : Nat) : Nat :=
  roundDiv (x.units * tenTo places) unitsPerOne

/-- The double nearest to the value rounded to `places` decimals. -/
def roundPlaces (x : Magnitude) (places : Nat) : Magnitude :=
  ⟨nearestUnits (x.scaledDecimal places * unitsPerOne) (tenTo places)⟩

end Magnitude

/-- A double of any kind. -/
inductive Double where
  | nan
  | infinite (negative : Bool)
  | finite (negative : Bool) (size : Magnitude)
  deriving DecidableEq, Repr

namespace Double

/-- A magnitude as a double; `none` stands for a value beyond the finite ones. -/
def ofMagnitude? (negative : Bool) : Option Magnitude → Double
  | some m => finite negative m
  | none => infinite negative

/-- Whether `m < x`; nothing is below or above the not-a-number. -/
def exceeds (x : Double) (m : Magnitude) : Bool :=
  match x with
  | nan => false
  | infinite negative => !negative
  | finite negative v => !negative && m.units < v.units

/-- Whether `x ≤ 0`; false for the not-a-number. -/
def nonpositive (x : Double) : Bool :=
  match x with
  | nan => false
  | infinite negative => negative
  | finite negative v => negative || v.units == 0

/-- The correctly rounded product with a small positive integer. -/
def scale (x : Double) (k : Nat) : Double :=
  match x with
  | finite negative v => ofMagnitude? negative (v.scale? k)
  | other => other

end Double

end Number
end ContractAudit
