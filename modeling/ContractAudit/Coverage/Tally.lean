import ContractAudit.Coverage.Ratio
import ContractAudit.Tree.Node

/-!
# The tally of a run

One tally counts for all files of a run.  A snapshot taken before a file lets
its row be computed from the difference of the counters, while the counters
themselves give the total row, which is recorded once and comes last.

Main definitions:

- {lit}`Tally.recordFile`, {lit}`Tally.recordTotal`: append a row or fail
  without a change.
- {lit}`Tally.countTree`: adds the functions and assertions of a tree.
- {lit}`Tally.analyzeTree`: counts a tree and records its row.
-/

namespace ContractAudit
namespace Coverage

open Number (Magnitude Double)
open ContractAudit.Tree (Node)

/-- The label of the total row. -/
def totalLabel : String := "Total"

/-- A line of the report. -/
structure Row where
  label : String
  coverage : Magnitude
  functions : Int
  assertions : Int
  verdict : Verdict
  deriving DecidableEq, Repr

namespace Row

/-- Whether the row has functions that could be covered. -/
def hasFunctions (r : Row) : Bool :=
  0 < r.functions

/-- The row of a label and two counts. -/
def ofCounts (label : String) (functions assertions : Int) : Except RatioError Row := do
  let coverage ← ratio assertions functions
  return ⟨label, coverage, functions, assertions, classify (.finite false coverage)⟩

end Row

/-- The counters and rows of a run. -/
structure Tally where
  functions : Int := 0
  assertions : Int := 0
  rows : List Row := []
  finalized : Bool := false
  deriving DecidableEq, Repr

/-- The counters at one moment of a run. -/
structure Snapshot where
  functions : Int
  assertions : Int
  deriving DecidableEq, Repr

/-- Why a tally refuses a step. -/
inductive TallyError where
  | finalized (label : String)
  | totalRecorded
  | ratio (cause : RatioError)
  | notANode (type : String)
  deriving DecidableEq, Repr

/-- The failure that a refused step leads to. -/
def TallyError.toFailure : TallyError → Failure
  | finalized label =>
    .fault (.analysis ("Cannot record '" ++ label ++ "': run is already finalized"))
  | totalRecorded => .fault (.analysis "Total row has already been recorded")
  | ratio cause => cause.toFailure
  | notANode type => .unexpected .badType (Node.notANode type)

namespace Tally

/-- The counters now. -/
def snapshot (t : Tally) : Snapshot :=
  ⟨t.functions, t.assertions⟩

/-- Functions and assertions counted since a snapshot. -/
def delta (t : Tally) (s : Snapshot) : Int × Int :=
  (t.functions - s.functions, t.assertions - s.assertions)

/-- Adds to the counters. -/
def add (t : Tally) (functions assertions : Int) : Tally :=
  { t with functions := t.functions + functions, assertions := t.assertions + assertions }

/-- The rows of files. -/
def fileRows (t : Tally) : List Row :=
  if t.finalized then t.rows.dropLast else t.rows

/-- The total row, once it is recorded. -/
def totalRow (t : Tally) : Option Row :=
  if t.finalized then t.rows.getLast? else none

/-- Appends a row. -/
def push (t : Tally) (r : Row) : Tally :=
  { t with rows := t.rows ++ [r] }

/-- Appends the row of what was counted since a snapshot. -/
def recordFile (t : Tally) (label : String) (s : Snapshot) : Except TallyError (Row × Tally) :=
  if t.finalized then .error (.finalized label)
  else
    let d := t.delta s
    match Row.ofCounts label d.1 d.2 with
    | .ok r => .ok (r, t.push r)
    | .error e => .error (.ratio e)

/-- Appends the total row and closes the tally. -/
def recordTotal (t : Tally) : Except TallyError (Row × Tally) :=
  if t.finalized then .error .totalRecorded
  else match Row.ofCounts totalLabel t.functions t.assertions with
    | .ok r => .ok (r, { t.push r with finalized := true })
    | .error e => .error (.ratio e)

/-- Counts one node. -/
def countNode (t : Tally) (n : Node) : Tally :=
  if n.isFunction then t.add 1 0
  else if n.isAssertion then t.add 0 1
  else t

/-- Counts the nodes of a tree in walk order; where the walk stops, the nodes
before stay counted. -/
def countTree (t : Tally) (root : Node) : Tally × Option TallyError :=
  let w := root.walk
  (w.visited.foldl countNode t, w.stopped.map TallyError.notANode)

/-- Counts a tree and records its row. -/
def analyzeTree (t : Tally) (label : String) (root : Node) : Tally × Except TallyError Row :=
  let s := t.snapshot
  let (counted, stopped) := t.countTree root
  match stopped with
  | some e => (counted, .error e)
  | none => match counted.recordFile label s with
    | .ok (r, t') => (t', .ok r)
    | .error e => (counted, .error e)

end Tally

end Coverage
end ContractAudit
