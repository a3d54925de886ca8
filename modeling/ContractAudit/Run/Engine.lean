import ContractAudit.Run.Journal
import ContractAudit.Tree.Extraction
import ContractAudit.Script.Grammar
import ContractAudit.Number.Shortest

/-!
# The engine

Files are analysed one after the other against one tally.  Each is loaded, its
tree is counted and its row recorded; after the last one the total row follows.
Any failure ends the run.

Main definitions:

- {lit}`loadBy`: what loading one file gives, with any parser.
- {lit}`attemptFile`: one file against the tally, with the tally after a failure.
- {lit}`analyzeFile`: one file of a run, which its failure ends.
- {lit}`runFilesBy`: all files and the total row; how a file is loaded can depend
  on what was logged before it.
- {lit}`runFiles`: a run whose files are not changed by what it logs.
-/

namespace ContractAudit
namespace Run

open Files (World SourceFile)
open Coverage (Tally Row)
open ContractAudit.Tree (Concrete Grammar Node)

/-- The name under which the engine logs. -/
def engineSpeaker : String := "contract_coverage.analysis.engine"

/-- The name under which grammars are reported. -/
def grammarSpeaker : String := "contract_coverage.scanning.treesitter_parser"

/-- What loading a file gives: its grammar once that is known, and its tree. -/
structure Loading where
  grammar : Option Grammar
  tree : Except Failure Node

/-- A parser: the concrete tree of every text, by any of the grammars. -/
abbrev Parse := Grammar → List Char → Concrete

/-- Loads a file with a parser: reads it, finds its grammar, parses and lowers it. -/
def loadBy (parse : Parse) (w : World) (limit : Option Int) (file : SourceFile) : Loading :=
  match w.readText file.path limit "utf-8" with
  | .error e => ⟨none, .error e⟩
  | .ok source =>
    match Tree.grammarOf file.path "" with
    | .error f => ⟨none, .error (.fault f)⟩
    | .ok g =>
      ⟨some g,
        match Tree.programOf file.path g.language (parse g source) with
        | .ok n => .ok n
        | .error f => .error (.fault f)⟩

/-- Loads a file. -/
def load (w : World) (limit : Option Int) (file : SourceFile) : Loading :=
  loadBy Script.parse w limit file

/-- The tally of a run and the grammars that are in use. -/
structure Progress where
  tally : Tally := {}
  grammars : List Grammar := []

/-- The counts of a row as they are reported. -/
def countsText (r : Row) : String :=
  Number.intText r.functions ++ " functions, " ++ Number.intText r.assertions
    ++ " assertions, coverage " ++ r.coverage.fixed 3

/-- Takes a grammar into use; the first time it is reported. -/
def useGrammar (grammars : List Grammar) : Option Grammar → Task (List Grammar)
  | none => pure grammars
  | some g =>
    if grammars.contains g then pure grammars
    else do
      Task.tell .debug grammarSpeaker ("Loaded tree-sitter grammar for " ++ g.name)
      return grammars ++ [g]

/-- Counts a tree and records its row.  The tally afterwards is given also where there is no
row: what was counted by then stays in it. -/
def analyzeTree (t : Tally) (label : String) (tree : Node) : Task (Except Failure Row × Tally) := do
  match t.analyzeTree label tree with
  | (t', .ok row) =>
    Task.tell .debug engineSpeaker (label ++ ": " ++ countsText row)
    return (.ok row, t')
  | (t', .error e) => return (.error e.toFailure, t')

/-- Loads a file, counts its tree and records its row.  A failure is given as the outcome,
together with the progress at that moment, so that a caller can go on. -/
def attemptFile (load : SourceFile → Loading) (p : Progress) (file : SourceFile) :
    Task (Except Failure Row × Progress) := do
  let loading := load file
  let grammars ← useGrammar p.grammars loading.grammar
  match loading.tree with
  | .error e => return (.error e, { p with grammars })
  | .ok tree =>
    let (outcome, tally) ← analyzeTree p.tally file.label tree
    return (outcome, { tally, grammars })

/-- Analyses one file; its failure ends the run. -/
def analyzeFile (load : SourceFile → Loading) (p : Progress) (file : SourceFile) :
    Task (Row × Progress) := do
  let (outcome, p) ← attemptFile load p file
  let row ← Task.check outcome
  return (row, p)

/-- Analyses files in order.  Each is loaded when its turn comes, after what was logged by
then. -/
def analyzeFilesBy (load : List Log.Record → SourceFile → Loading) :
    Progress → List SourceFile → Task Progress
  | p, [] => pure p
  | p, file :: rest => do
    let told ← Task.told
    let (row, p) ← analyzeFile (load told) p file
    Task.finish file row
    analyzeFilesBy load p rest

/-- Analyses files in order that are loaded in the same way at any time. -/
def analyzeFiles (load : SourceFile → Loading) (p : Progress) (files : List SourceFile) :
    Task Progress :=
  analyzeFilesBy (fun _ => load) p files

/-- Records the total row and reports the run. -/
def conclude (t : Tally) : Task Tally := do
  match t.recordTotal with
  | .error e => throw e.toFailure
  | .ok (total, t) =>
    let count := t.rows.length - 1
    if count = 0 then Task.tell .warning engineSpeaker "No files were analyzed"
    Task.tell .info engineSpeaker
      ("Analyzed " ++ Number.natText count ++ " files: " ++ countsText total)
    return t

/-- Analyses files in order and concludes the run. -/
def runFilesBy (load : List Log.Record → SourceFile → Loading) (files : List SourceFile) :
    Task Tally := do
  let p ← analyzeFilesBy load {} files
  conclude p.tally

/-- Analyses files in order that are loaded in the same way at any time, and concludes the
run. -/
def runFiles (load : SourceFile → Loading) (files : List SourceFile) : Task Tally :=
  runFilesBy (fun _ => load) files

end Run
end ContractAudit
