import ContractAudit.Number.Shortest
import ContractAudit.Text.Blank
import ContractAudit.Text.Quoted

/-!
# Reading numbers

Settings spell numbers as text.  Blanks around the number are ignored, decimal
digits of any script count, and an underscore may stand between two digits.
{lit}`readDouble` rounds correctly at any length; {lit}`readInt` is exact and
refuses numbers of more than {lit}`maxIntDigits` digits.
-/

namespace ContractAudit
namespace Number

/-- Why a text is not a number. -/
inductive ReadError where
  | notDouble (text : String)
  | notInt (text : String)
  | tooLong (count : Nat)
  deriving DecidableEq, Repr

/-- The most digits of an integer that is read or written. -/
def maxIntDigits : Nat := 4300

/-- The message of a failed reading. -/
def ReadError.message : ReadError → String
  | notDouble text => "could not convert string to float: " ++ Text.quoted text
  | notInt text =>
    "invalid literal for int() with base 10: "
      ++ String.ofList ((Text.quoted text).toList.take 200)
  | tooLong count =>
    "Exceeds the limit (" ++ natText maxIntDigits
      ++ " digits) for integer string conversion: value has " ++ natText count
      ++ " digits; use sys.set_int_max_str_digits() to increase the limit"

/-- The character that stands for `c` in a number: digits of any script become
those of ASCII, blanks beyond ASCII become spaces, all else beyond ASCII is refused. -/
def numeral (c : Char) : Char :=
  if c.toNat < 127 then c
  else if Text.isBlank c then ' '
  else match Text.digitValue? c with
    | some d => Char.ofNat (48 + d)
    | none => '?'

/-- The blanks of ASCII that may stand around a number. -/
def isMargin (c : Char) : Bool :=
  c == ' ' || (9 ≤ c.toNat && c.toNat ≤ 13)

/-- The characters of a number without its margins. -/
def numberBody (s : String) : List Char :=
  Text.dropRight isMargin ((s.toList.map numeral).dropWhile isMargin)

/-- Whether each underscore has a digit on both sides; `before` is the last character. -/
def underscoresFit : Char → List Char → Bool
  | before, [] => before != '_'
  | before, c :: rest =>
    (if c == '_' then before.isDigit else before != '_' || c.isDigit) && underscoresFit c rest

/-- Splits a sign off. -/
def splitSign : List Char → Bool × List Char
  | '-' :: rest => (true, rest)
  | '+' :: rest => (false, rest)
  | cs => (false, cs)

/-- The value of a list of digits. -/
def digitsValue (cs : List Char) : Nat :=
  cs.foldl (fun n c => 10 * n + (c.toNat - 48)) 0

/-- Decimal exponents beyond which no list of digits in reach is a finite double. -/
def exponentCap : Nat := 1000000

/-- The double nearest to `mantissa * 10 ^ exponent`, where the mantissa has
`count` digits. -/
def nearestDecimal (negative : Bool) (mantissa count : Nat) (exponent : Int) : Double :=
  if mantissa = 0 ∨ (count : Int) + exponent < -400 then .finite negative .zero
  else if exponent > 400 then .infinite negative
  else match exponent with
    | .ofNat n => .ofMagnitude? negative (Magnitude.ofRatio? (mantissa * tenTo n) 1)
    | .negSucc n => .ofMagnitude? negative (Magnitude.ofRatio? mantissa (tenTo (n + 1)))

/-- The exponent part of a number: `none` where it is malformed. -/
def exponentPart? : List Char → Option Int
  | [] => some 0
  | e :: rest =>
    if e == 'e' || e == 'E' then
      let (negative, ds) := splitSign rest
      if ds.isEmpty || !ds.all Char.isDigit then none
      else
        let size := digitsValue (ds.dropWhile (· == '0') |>.take 12)
        let size := min size exponentCap
        some (if negative then -(size : Int) else size)
    else none

/-- Reads an unsigned decimal number. -/
def decimal? (negative : Bool) (cs : List Char) : Option Double :=
  let whole := cs.takeWhile Char.isDigit
  let rest := cs.dropWhile Char.isDigit
  let (part, tail) := match rest with
    | '.' :: more => (more.takeWhile Char.isDigit, more.dropWhile Char.isDigit)
    | _ => ([], rest)
  if whole.isEmpty && part.isEmpty then none
  else (exponentPart? tail).map fun e =>
    let ds := (whole ++ part).dropWhile (· == '0')
    nearestDecimal negative (digitsValue ds) ds.length (e - part.length)

/-- Reads a double; the words for infinity and not-a-number are read in any case. -/
def readDouble (s : String) : Except ReadError Double :=
  let body := numberBody s
  let plain := body.filter (· != '_')
  let (negative, rest) := splitSign plain
  let word := String.ofList (rest.map Char.toLower)
  let result :=
    if !underscoresFit ' ' body then none
    else if word = "inf" ∨ word = "infinity" then some (.infinite negative)
    else if word = "nan" then some .nan
    else decimal? negative rest
  match result with
  | some x => .ok x
  | none => .error (.notDouble s)

/-- Reads an integer. -/
def readInt (s : String) : Except ReadError Int :=
  let (negative, body) := splitSign (numberBody s)
  let run := body.takeWhile fun c => c.isDigit || c == '_'
  let ds := run.filter (· != '_')
  if maxIntDigits < ds.length ∧ underscoresFit ' ' run then .error (.tooLong ds.length)
  else if ds.isEmpty || run.length != body.length || !underscoresFit ' ' run then
    .error (.notInt s)
  else
    let n := digitsValue ds
    .ok (if negative then -(n : Int) else n)

end Number
end ContractAudit
