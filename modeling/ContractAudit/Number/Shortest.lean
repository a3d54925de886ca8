import ContractAudit.Number.Binary64

/-!
# Decimal texts of doubles

{lit}`shortest` finds the fewest significant digits that read back as the same
double, and of those the nearest to it.  {lit}`Layout` fixes how the digits
are laid out; {lit}`Magnitude.fixed` writes a fixed number of decimals instead.
-/

namespace ContractAudit
namespace Number

/-- A positive decimal number `0.d₁d₂… × 10 ^ point`. -/
structure Decimal where
  digits : List Char
  point : Int

/-- Four times the bounds of the interval of reals that round to `u` units:
the lower end, the upper end, and whether the ends belong to it. -/
def roundingInterval (u : Nat) : Nat × Nat × Bool :=
  let s := spacing u
  let below := if s * twoTo 52 == u && 1 < s then s else 2 * s
  (4 * u - below, 4 * u + 2 * s, u / s % 2 == 0)

/-- The least `j` up to `fuel` with `unitsPerOne ≤ u * 10 ^ j`. -/
def leadingShift (u : Nat) : Nat → Nat → Nat
  | 0, j => j
  | fuel + 1, j => if unitsPerOne ≤ u * tenTo j then j else leadingShift u fuel (j + 1)

/-- The position of the decimal point: `10 ^ (p - 1) ≤ value < 10 ^ p`. -/
def decimalPoint (u : Nat) : Int :=
  if unitsPerOne ≤ u then ((digits (u / unitsPerOne)).length : Int)
  else 1 - (leadingShift u 400 1 : Int)

/-- The value `d * 10 ^ e`, in units, as a ratio of natural numbers. -/
def decimalUnits (d : Nat) (e : Int) : Nat × Nat :=
  match e with
  | .ofNat n => (d * tenTo n * unitsPerOne, 1)
  | .negSucc n => (d * unitsPerOne, tenTo (n + 1))

/-- Whether the decimal `d * 10 ^ e` rounds to `u` units. -/
def readsBack (u : Nat) (d : Nat) (e : Int) : Bool :=
  let (num, den) := decimalUnits d e
  let (low, high, closed) := roundingInterval u
  if closed then low * den ≤ 4 * num && 4 * num ≤ high * den
  else low * den < 4 * num && 4 * num < high * den

/-- Twice the distance of `d * 10 ^ e` from `u` units, over the same denominator
for both neighbours on one decimal grid. -/
def distance (u : Nat) (d : Nat) (e : Int) : Nat :=
  let (num, den) := decimalUnits d e
  if num ≤ u * den then u * den - num else num - u * den

/-- The neighbour of `u` units with `n` digits that reads back, nearest first. -/
def gridHit? (u : Nat) (point : Int) (n : Nat) : Option Nat :=
  let e := point - n
  let (one, den) := decimalUnits 1 e
  let below := u * den / one
  let above := below + 1
  match readsBack u below e, readsBack u above e with
  | true, true =>
    if distance u below e < distance u above e then some below
    else if distance u above e < distance u below e then some above
    else some (below + below % 2)
  | true, false => some below
  | false, true => some above
  | false, false => none

/-- Searches the decimal grids from `n` digits on. -/
def shortestFrom (u : Nat) (point : Int) : Nat → Nat → Decimal
  | 0, n => ⟨digits (u * tenTo n / unitsPerOne), point⟩
  | fuel + 1, n =>
    match gridHit? u point n with
    | some d =>
      let text := digits d
      ⟨text, point + ((text.length : Int) - n)⟩
    | none => shortestFrom u point fuel (n + 1)

/-- The fewest significant digits that read back as `u > 0` units. -/
def shortest (u : Nat) : Decimal :=
  let d := shortestFrom u (decimalPoint u) 17 1
  ⟨(d.digits.reverse.dropWhile (· == '0')).reverse, d.point⟩

/-- How the digits of a double are laid out. -/
structure Layout where
  /-- Decimal exponents from here on are written positionally. -/
  firstPositional : Int
  /-- Decimal exponents from here on have an exponent part. -/
  firstLarge : Int
  /-- Least number of digits of an exponent. -/
  exponentWidth : Nat

/-- The layout of every double in a message or a report: positional between
`10 ^ -4` and `10 ^ 16`, with `.0` kept, else an exponent of two digits or more. -/
def plainLayout : Layout := ⟨-4, 16, 2⟩

/-- A list of `n` zeros. -/
def zeros (n : Nat) : List Char :=
  List.replicate n '0'

/-- Writes a number of digits with at least `width` places. -/
def padded (width n : Nat) : List Char :=
  let d := digits n
  zeros (width - d.length) ++ d

/-- Lays out significant digits around the decimal point. -/
def Layout.write (l : Layout) (d : Decimal) : List Char :=
  let e := d.point - 1
  if l.firstPositional ≤ e ∧ e < l.firstLarge then
    if d.point ≤ 0 then
      '0' :: '.' :: (zeros (-d.point).toNat ++ d.digits)
    else
      let p := d.point.toNat
      let whole := d.digits.take p ++ zeros (p - d.digits.length)
      let part := d.digits.drop p
      whole ++ '.' :: (if part.isEmpty then ['0'] else part)
  else
    let mantissa := match d.digits with
      | [] => ['0']
      | [c] => [c]
      | c :: rest => c :: '.' :: rest
    let sign := if e < 0 then '-' else '+'
    mantissa ++ 'e' :: sign :: padded l.exponentWidth e.natAbs

namespace Magnitude

/-- The shortest text that reads back as the same double. -/
def text (x : Magnitude) : String :=
  if x.units = 0 then "0.0" else String.ofList (plainLayout.write (shortest x.units))

/-- The text of a scaled integer with `places` decimals. -/
def fixedText (scaled places : Nat) : String :=
  if places = 0 then natText scaled
  else
    natText (scaled / tenTo places) ++ "."
      ++ String.ofList (padded places (scaled % tenTo places))

/-- The value with exactly `places` decimals, half to even. -/
def fixed (x : Magnitude) (places : Nat) : String :=
  fixedText (x.scaledDecimal places) places

end Magnitude

namespace Double

/-- A sign in front of a negative text. -/
def signed (negative : Bool) (body : String) : String :=
  if negative then "-" ++ body else body

/-- The shortest text that reads back as the same double. -/
def text : Double → String
  | nan => "nan"
  | infinite negative => signed negative "inf"
  | finite negative m => signed negative m.text

/-- The value with exactly `places` decimals, half to even. -/
def fixed (x : Double) (places : Nat) : String :=
  match x with
  | nan => "nan"
  | infinite negative => signed negative "inf"
  | finite negative m => signed negative (m.fixed places)

end Double

end Number
end ContractAudit
