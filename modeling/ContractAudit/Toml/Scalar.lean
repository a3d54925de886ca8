import ContractAudit.Toml.Text
import ContractAudit.Config.Value
import ContractAudit.Number.Reading

/-!
# Numbers, dates and times

The values of a settings document that have no quotes and no brackets.  Each
reader takes the longest form that stands in front.
-/

namespace ContractAudit
namespace Toml

open Config (Value Date Clock Moment)

/-- Reads further digits, each of which may follow one underscore. -/
def moreDigits (ok : Char → Bool) : List Char → List Char × List Char
  | '_' :: c :: rest =>
    if ok c then
      let (ds, tail) := moreDigits ok rest
      (c :: ds, tail)
    else ([], '_' :: c :: rest)
  | c :: rest =>
    if ok c then
      let (ds, tail) := moreDigits ok rest
      (c :: ds, tail)
    else ([], c :: rest)
  | [] => ([], [])

/-- Reads one or more digits; underscores between them are dropped. -/
def digits? (ok : Char → Bool) : List Char → Option (List Char × List Char)
  | c :: rest =>
    if ok c then
      let (ds, tail) := moreDigits ok rest
      some (c :: ds, tail)
    else none
  | [] => none

/-- Reads exactly `count` decimal digits as a number. -/
def fixedDigits? (count : Nat) (cs : List Char) : Option (Nat × List Char) :=
  let ds := cs.take count
  if ds.length == count && ds.all Char.isDigit then some (digitsValue 10 ds, cs.drop count)
  else none

/-- Reads one given character. -/
def mark? (c : Char) : List Char → Option (List Char)
  | d :: rest => if d == c then some rest else none
  | [] => none

/-- Reads a number of two digits between two bounds. -/
def twoDigits? (low high : Nat) (cs : List Char) : Option (Nat × List Char) := do
  let (n, rest) ← fixedDigits? 2 cs
  if low ≤ n && n ≤ high then some (n, rest) else none

/-- Reads the fraction of a second in millionths; further digits are dropped. -/
def fraction (cs : List Char) : Nat × List Char :=
  match cs with
  | '.' :: rest =>
    let ds := rest.takeWhile Char.isDigit
    if ds.isEmpty then (0, cs)
    else
      let kept := ds.take 6
      (digitsValue 10 kept * Number.tenTo (6 - kept.length), rest.dropWhile Char.isDigit)
  | _ => (0, cs)

/-- Reads a time of day. -/
def clock? (cs : List Char) : Option (Clock × List Char) := do
  let (hour, cs) ← twoDigits? 0 23 cs
  let (minute, cs) ← twoDigits? 0 59 (← mark? ':' cs)
  let (second, cs) ← twoDigits? 0 59 (← mark? ':' cs)
  let (micros, cs) := fraction cs
  some (⟨hour, minute, second, micros⟩, cs)

/-- Reads a signed offset in minutes. -/
def signedOffset? (cs : List Char) : Option (Int × List Char) := do
  let (negative, rest) ← match cs with
    | '+' :: rest => some (false, rest)
    | '-' :: rest => some (true, rest)
    | _ => none
  let (hours, rest) ← twoDigits? 0 23 rest
  let (minutes, rest) ← twoDigits? 0 59 (← mark? ':' rest)
  let size : Int := 60 * hours + minutes
  some (if negative then -size else size, rest)

/-- Reads an offset from universal time, if one stands here. -/
def offset (cs : List Char) : Option Int × List Char :=
  match cs with
  | 'Z' :: rest => (some 0, rest)
  | 'z' :: rest => (some 0, rest)
  | _ => match signedOffset? cs with
    | some (minutes, rest) => (some minutes, rest)
    | none => (none, cs)

/-- Reads a day. -/
def date? (cs : List Char) : Option (Date × List Char) := do
  let (year, cs) ← fixedDigits? 4 cs
  let (month, cs) ← twoDigits? 1 12 (← mark? '-' cs)
  let (day, cs) ← twoDigits? 1 31 (← mark? '-' cs)
  some (⟨year, month, day⟩, cs)

/-- Whether a character can stand between a date and a time. -/
def joinsTime (c : Char) : Bool :=
  c == 'T' || c == 't' || c == ' '

/-- Reads a date, a time of day or both; the calendar need not have the day. -/
def moment? (cs : List Char) : Option (Moment × List Char) :=
  match date? cs with
  | none => (clock? cs).map fun p => (.clock p.1, p.2)
  | some (day, rest) =>
    match rest with
    | c :: more =>
      if joinsTime c then
        match clock? more with
        | some (time, rest) =>
          let (minutes, rest) := offset rest
          some (.stamp day time minutes, rest)
        | none => some (.date day, rest)
      else some (.date day, rest)
    | [] => some (.date day, rest)

/-- Whether the calendar has the day of a moment. -/
def isOnCalendar : Moment → Bool
  | .date d => d.isValid
  | .clock _ => true
  | .stamp d _ _ => d.isValid

/-- Reads an integer with a base mark. -/
def basedInteger? (cs : List Char) : Option (Int × List Char) :=
  let read (base : Nat) (ok : Char → Bool) (rest : List Char) : Option (Int × List Char) :=
    (digits? ok rest).map fun p => (digitsValue base p.1, p.2)
  match cs with
  | '0' :: 'x' :: rest => read 16 isHexDigit rest
  | '0' :: 'b' :: rest => read 2 (fun c => c == '0' || c == '1') rest
  | '0' :: 'o' :: rest => read 8 (fun c => '0' ≤ c && c ≤ '7') rest
  | _ => none

/-- Reads the whole part of a decimal number: a zero, or digits without a zero in front. -/
def wholePart? : List Char → Option (List Char × List Char)
  | '0' :: rest => some (['0'], rest)
  | cs => digits? Char.isDigit cs

/-- Reads the decimals of a number with their point. -/
def decimals (cs : List Char) : List Char × List Char :=
  match cs with
  | '.' :: rest => match digits? Char.isDigit rest with
    | some (ds, tail) => ('.' :: ds, tail)
    | none => ([], cs)
  | _ => ([], cs)

/-- Reads the exponent of a number with its letter. -/
def exponent (cs : List Char) : List Char × List Char :=
  match cs with
  | e :: rest =>
    if e == 'e' || e == 'E' then
      let (sign, more) := match rest with
        | '+' :: more => (['+'], more)
        | '-' :: more => (['-'], more)
        | _ => ([], rest)
      match digits? Char.isDigit more with
      | some (ds, tail) => (e :: sign ++ ds, tail)
      | none => ([], cs)
    else ([], cs)
  | [] => ([], cs)

/-- Reads a decimal number: an integer, or a double where decimals or an exponent
follow. -/
def decimalNumber? (cs : List Char) : Option (Reading Value) :=
  let (negative, body) := Number.splitSign cs
  match wholePart? body with
  | none => none
  | some (whole, rest) =>
    let (part, rest) := decimals rest
    let (power, rest) := exponent rest
    if part.isEmpty && power.isEmpty then
      if Number.maxIntDigits < whole.length then some (.error (.longInteger whole.length))
      else
        let n : Int := digitsValue 10 whole
        some (.ok (.int (if negative then -n else n), rest))
    else
      let x := (Number.decimal? negative (whole ++ part ++ power)).getD .nan
      some (.ok (.float x, rest))

/-- Reads a number in any form. -/
def number? (cs : List Char) : Option (Reading Value) :=
  match basedInteger? cs with
  | some (i, rest) => some (.ok (.int i, rest))
  | none => decimalNumber? cs

/-- Reads an infinity or the not-a-number. -/
def specialNumber? (cs : List Char) : Option (Value × List Char) :=
  let (negative, body) := Number.splitSign cs
  match body with
  | 'i' :: 'n' :: 'f' :: rest => some (.float (.infinite negative), rest)
  | 'n' :: 'a' :: 'n' :: rest => some (.float .nan, rest)
  | _ => none

/-- Reads a truth value. -/
def truth? : List Char → Option (Value × List Char)
  | 't' :: 'r' :: 'u' :: 'e' :: rest => some (.bool true, rest)
  | 'f' :: 'a' :: 'l' :: 's' :: 'e' :: rest => some (.bool false, rest)
  | _ => none

/-- Reads a date, a time, a number or a truth value. -/
def scalar (cs : List Char) : Reading Value :=
  match truth? cs with
  | some (v, rest) => .ok (v, rest)
  | none => match moment? cs with
    | some (m, rest) => if isOnCalendar m then .ok (.moment m, rest) else fail .noDate cs
    | none => match number? cs with
      | some r => r
      | none => match specialNumber? cs with
        | some (v, rest) => .ok (v, rest)
        | none => fail .value cs

end Toml
end ContractAudit
