import ContractAudit.Coverage.Tally
import ContractAudit.Number.Shortest
import ContractAudit.Text.Quoted

/-!
# The report as comma-separated values

One record per row, each ended by a line feed.  A field is quoted exactly when it
has a comma, a double quote or a line end, and a quote inside is doubled.

Releases of the writer differ in what they take for a line end.  The later ones
quote a field for a line feed and for a carriage return, whatever the records end
with; the earlier ones quote it only for what the records end with, the line feed.
{lit}`LineEnds` is the choice between the two, and everything here takes it.
-/

namespace ContractAudit
namespace Report

open Coverage (Tally Row)
open Number (intText)

/-- The line ends that a field is quoted for. -/
inductive LineEnds where
  /-- The line feed and the carriage return. -/
  | every
  /-- The line feed only, which ends the records. -/
  | written
  deriving DecidableEq, Repr

/-- Whether a character is a line end that a field is quoted for. -/
def LineEnds.holds : LineEnds → Char → Bool
  | every, c => c == '\n' || c == '\r'
  | written, c => c == '\n'

/-- Whether a field has to be quoted. -/
def needsQuotes (ends : LineEnds) (cs : List Char) : Bool :=
  cs.any fun c => c == ',' || c == Text.doubleQuote || ends.holds c

/-- Doubles the quotes of a quoted field. -/
def doubleQuotes (cs : List Char) : List Char :=
  cs.flatMap fun c => if c == Text.doubleQuote then [c, c] else [c]

/-- A field as it is written. -/
def csvField (ends : LineEnds) (s : String) : List Char :=
  let cs := s.toList
  if needsQuotes ends cs then Text.doubleQuote :: (doubleQuotes cs ++ [Text.doubleQuote]) else cs

/-- A record with its line end. -/
def csvRecord (ends : LineEnds) (fields : List String) : List Char :=
  [','].intercalate (fields.map (csvField ends)) ++ ['\n']

/-- Decimals of a coverage in a report. -/
def coveragePlaces : Nat := 3

/-- The names of the fields. -/
def csvHeader : List String :=
  ["file", "coverage", "functions", "assertions", "status"]

/-- The fields of a row. -/
def csvFields (r : Row) : List String :=
  [r.label, r.coverage.fixed coveragePlaces, intText r.functions, intText r.assertions,
    r.verdict.text]

/-- The whole report. -/
def csv (ends : LineEnds) (t : Tally) : String :=
  String.ofList ((csvHeader :: t.rows.map csvFields).flatMap (csvRecord ends))

end Report
end ContractAudit
