import ContractAudit.Report.Grid
import ContractAudit.Report.Json
import ContractAudit.Text.Markup

/-!
# Report formats

A report is a table for people, or one of two documents for programs.
-/

namespace ContractAudit
namespace Report

open Coverage (Tally Row)
open Number (Double intText)

/-- The formats of a report. -/
inductive Format where
  | table
  | json
  | csv
  deriving DecidableEq, Repr

/-- The text of a label in a table: shown as it is, pictograph codes apart. -/
def tableLabel (s : String) : List Char :=
  Text.plain (Text.escape s.toList)

/-- A coverage in per cent with one decimal. -/
def percentText (r : Row) : String :=
  ((Double.finite false r.coverage).scale 100).fixed 1 ++ "%"

/-- The coverage cell of a row; without functions there is nothing to cover. -/
def coverageCell (r : Row) : String :=
  if r.hasFunctions then percentText r else "n/a"

/-- The cells of a row. -/
def tableCells (r : Row) : List (List Char) :=
  [ tableLabel r.label, (coverageCell r).toList, (intText r.functions).toList,
    r.verdict.text.toList ]

/-- The table of a tally, the total in a section of its own. -/
def tableGrid (t : Tally) : Grid where
  title := "Design-by-Contract Coverage"
  columns :=
    [ { head := "File" },
      { head := "Coverage", align := .right, fixed := some 10 },
      { head := "Functions", align := .right, fixed := some 10 },
      { head := "Status", align := .center, fixed := some 12 } ]
  sections := [t.fileRows.map tableCells, t.totalRow.toList.map tableCells]

namespace Format

/-- All formats, in the order of their names. -/
def all : List Format := [csv, json, table]

/-- The name of a format. -/
def name : Format → String
  | table => "rich"
  | json => "json"
  | csv => "csv"

/-- The format of a name. -/
def ofName? (s : String) : Option Format :=
  all.find? fun f => f.name == s

/-- The message for a name that is no format's. -/
def unknown (s : String) : String :=
  "Unknown formatter: " ++ Text.quoted s ++ ". Choose from: " ++ ", ".intercalate (all.map name)

/-- The report as text.  Unless it is said otherwise, fields are quoted as by the earlier
writers of comma-separated values. -/
def write (f : Format) (t : Tally) (ends : LineEnds := .written) : String :=
  match f with
  | table => (tableGrid t).text
  | json => Report.json t
  | csv => Report.csv ends t

/-- The report as it is printed: every line is ended. -/
def print (f : Format) (t : Tally) (ends : LineEnds := .written) : String :=
  match f with
  | json => f.write t ends ++ "\n"
  | _ => f.write t ends

end Format

end Report
end ContractAudit
