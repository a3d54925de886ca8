import ContractAudit.Log.Record

/-!
# Routing of records

The verbosity of a run decides which records are kept.  Kept records go to the
console and, where one is asked for, to the end of a log file.
-/

namespace ContractAudit
namespace Log

/-- How much a run tells. -/
inductive Verbosity where
  | quiet
  | normal
  | verbose
  deriving DecidableEq, Repr

namespace Verbosity

/-- All verbosities. -/
def all : List Verbosity := [quiet, normal, verbose]

/-- The name of a verbosity. -/
def name : Verbosity → String
  | quiet => "quiet"
  | normal => "normal"
  | verbose => "verbose"

/-- The verbosity of a name. -/
def ofName? (s : String) : Option Verbosity :=
  all.find? fun v => v.name == s

/-- The names of all verbosities. -/
def names : List String :=
  all.map name

/-- The least important level that is kept. -/
def threshold : Verbosity → Level
  | quiet => .error
  | normal => .warning
  | verbose => .debug

/-- The verbosity that two switches stand for: the quiet one wins. -/
def ofSwitches (verbose quiet : Bool) : Verbosity :=
  if quiet then .quiet else if verbose then .verbose else .normal

/-- Whether a record is kept. -/
def keeps (v : Verbosity) (r : Record) : Bool :=
  v.threshold.number ≤ r.level.number

/-- The records that are kept. -/
def kept (v : Verbosity) (records : List Record) : List Record :=
  records.filter v.keeps

end Verbosity

/-- The verbosity of a name, or the failure of a name that is none. -/
def verbosityOf (name : String) : Except Failure Verbosity :=
  match Verbosity.ofName? name with
  | some v => .ok v
  | none => .error (.unexpected .badValue ("Unknown verbosity: " ++ Text.quoted name))

/-- Records that are routed in one way. -/
structure Round where
  verbosity : String
  toFile : Bool
  records : List Record

/-- How records were routed and which were kept. -/
structure Routed where
  verbosity : Verbosity
  toFile : Bool
  kept : List Record

/-- The number of places that kept records go to. -/
def Routed.targets (r : Routed) : Nat :=
  if r.toFile then 2 else 1

/-- Routes the records of a round. -/
def Round.route (r : Round) : Except Failure Routed :=
  (verbosityOf r.verbosity).map fun v => ⟨v, r.toFile, v.kept r.records⟩

/-- The texts in the log file after rounds, `none` where no round asked for one. -/
def fileAfter (rounds : List Round) : Option (List String) :=
  let asked := rounds.filterMap fun r => match r.route with
    | .ok routed => if routed.toFile then some routed.kept else none
    | .error _ => none
  if asked.isEmpty then none else some (asked.flatten.map Record.fileText)

end Log
end ContractAudit
