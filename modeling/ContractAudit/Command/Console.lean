import ContractAudit.Log.Routing
import ContractAudit.Report.Format
import ContractAudit.Tree.Language

/-!
# The console

How lines, records, panels and the table of languages look on the console.
-/

namespace ContractAudit
namespace Command

open Report (expandTabs cutLines layout)

/-- A marked-up text as it is printed, with a line feed after it. -/
def printed (markup : List Char) : String :=
  let lines := (cutLines (Text.plain markup)).map (expandTabs 0)
  String.ofList (lines.flatMap fun l => l ++ ['\n'])

/-- A marked-up text with a text in it that is shown as it is. -/
def printedWith (before : String) (verbatim : String) (after : String) : String :=
  printed (before.toList ++ Text.escape verbatim.toList ++ after.toList)

/-- The lines of records on the console. -/
def printedRecords (records : List Log.Record) : String :=
  "".intercalate ((records.flatMap Log.Record.consoleLines).map (· ++ "\n"))

/-- A message in a frame with a title. -/
def panel (title message : String) : String :=
  let inner := Report.Grid.lineLimit - 4
  let rest := String.ofList (List.replicate (inner - title.length - 1) '─')
  let top := "╭─ " ++ title ++ " " ++ rest ++ "╮"
  let bottom := "╰" ++ String.ofList (List.replicate (inner + 2) '─') ++ "╯"
  let body := (layout .left inner message.toList).map fun l => "│ " ++ String.ofList l ++ " │"
  "".intercalate ((top :: body ++ [bottom]).map (· ++ "\n"))

/-- How the command is used. -/
def usage : String :=
  "Usage: contract-coverage [OPTIONS] COMMAND [ARGS]...\n"

/-- The name and the version of the program. -/
def versionLine : String :=
  printed "[bold cyan]contract-coverage[/bold cyan] version [green]0.3.0[/green]".toList

/-- The table of the languages and their file suffixes. -/
def languageGrid : Report.Grid where
  title := "Supported Languages"
  columns := [{ head := "Language" }, { head := "Extensions" }]
  sections :=
    [Tree.Language.all.map fun l => [l.name.toList, (" ".intercalate l.extensions).toList]]

end Command
end ContractAudit
