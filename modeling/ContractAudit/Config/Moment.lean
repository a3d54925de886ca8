import ContractAudit.Number.Shortest

/-!
# Dates and times

Settings files can hold dates, times of day, and both together with an optional
offset from universal time.  No setting needs one, but a message shows the value
that was found instead.
-/

namespace ContractAudit
namespace Config

open Number (natText padded)

/-- A day of the calendar. -/
structure Date where
  year : Nat
  month : Nat
  day : Nat
  deriving DecidableEq, Repr

/-- A time of day, down to the millionth of a second. -/
structure Clock where
  hour : Nat
  minute : Nat
  second : Nat
  micros : Nat
  deriving DecidableEq, Repr

/-- A date, a time of day, or both with the minutes by which local time is ahead
of universal time. -/
inductive Moment where
  | date (day : Date)
  | clock (time : Clock)
  | stamp (day : Date) (time : Clock) (offset : Option Int)
  deriving DecidableEq, Repr

namespace Date

/-- Whether a year has a leap day. -/
def isLeap (year : Nat) : Bool :=
  year % 4 == 0 && (year % 100 != 0 || year % 400 == 0)

/-- The number of days of a month. -/
def daysIn (year month : Nat) : Nat :=
  if month == 2 then (if isLeap year then 29 else 28)
  else if month == 4 || month == 6 || month == 9 || month == 11 then 30
  else 31

/-- Whether the calendar has the day; it starts with the year one. -/
def isValid (d : Date) : Bool :=
  1 ≤ d.year && 1 ≤ d.month && d.month ≤ 12 && 1 ≤ d.day && d.day ≤ daysIn d.year d.month

/-- The date as year, month and day. -/
def text (d : Date) : String :=
  String.ofList (padded 4 d.year ++ '-' :: padded 2 d.month ++ '-' :: padded 2 d.day)

end Date

namespace Clock

/-- The time as hours, minutes and seconds, with a fraction where there is one. -/
def text (t : Clock) : String :=
  String.ofList (padded 2 t.hour ++ ':' :: padded 2 t.minute ++ ':' :: padded 2 t.second
    ++ if t.micros == 0 then [] else '.' :: padded 6 t.micros)

/-- The parts of a time from the hour on, without zeros at the end. -/
def parts (t : Clock) : List Nat :=
  if t.micros != 0 then [t.hour, t.minute, t.second, t.micros]
  else if t.second != 0 then [t.hour, t.minute, t.second]
  else [t.hour, t.minute]

end Clock

namespace Moment

/-- An offset as a sign, hours and minutes. -/
def offsetText (minutes : Int) : String :=
  let size := minutes.natAbs
  String.ofList ((if minutes < 0 then '-' else '+') :: padded 2 (size / 60) ++ ':' ::
    padded 2 (size % 60))

/-- A moment as it is shown on its own. -/
def text : Moment → String
  | date d => d.text
  | clock t => t.text
  | stamp d t offset => d.text ++ " " ++ t.text ++ (offset.map offsetText).getD ""

/-- The name of a kind of moment. -/
def kindName : Moment → String
  | date _ => "date"
  | clock _ => "time"
  | stamp _ _ _ => "datetime"

/-- An offset as it is shown inside other values; days are negative before
universal time. -/
def zoneText (minutes : Int) : String :=
  if minutes == 0 then "datetime.timezone.utc"
  else
    let days := if minutes < 0 then "days=-1, " else ""
    let seconds := (minutes * 60).emod 86400
    "datetime.timezone(datetime.timedelta(" ++ days ++ "seconds=" ++ natText seconds.toNat ++ "))"

/-- A moment as it is shown inside other values. -/
def quoted (m : Moment) : String :=
  let show_ (parts : List String) :=
    "datetime." ++ m.kindName ++ "(" ++ ", ".intercalate parts ++ ")"
  match m with
  | date d => show_ ([d.year, d.month, d.day].map natText)
  | clock t => show_ (t.parts.map natText)
  | stamp d t offset =>
    show_ (([d.year, d.month, d.day] ++ t.parts).map natText
      ++ (offset.map fun o => "tzinfo=" ++ zoneText o).toList)

end Moment

end Config
end ContractAudit
