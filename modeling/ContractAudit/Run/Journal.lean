import ContractAudit.Log.Record
import ContractAudit.Files.Source
import ContractAudit.Coverage.Tally

/-!
# Journals

A task of a run can fail; what it logged and which files it finished before
stays in the journal.
-/

namespace ContractAudit
namespace Run

/-- What has happened in a run. -/
structure Journal where
  log : List Log.Record := []
  finished : List (Files.SourceFile × Coverage.Row) := []

/-- A step of a run: it can fail, and it writes to the journal. -/
abbrev Task := ExceptT Failure (StateM Journal)

namespace Task

/-- Writes a record. -/
def tell (level : Log.Level) (speaker message : String) : Task Unit :=
  modify fun j => { j with log := j.log ++ [⟨level, speaker, message⟩] }

/-- What was logged so far. -/
def told : Task (List Log.Record) := do
  return (← get).log

/-- Notes that a file is finished. -/
def finish (file : Files.SourceFile) (row : Coverage.Row) : Task Unit :=
  modify fun j => { j with finished := j.finished ++ [(file, row)] }

/-- A step that can only fail. -/
def check {α : Type} : Except Failure α → Task α
  | .ok a => pure a
  | .error e => throw e

/-- The outcome of a task that starts with an empty journal, and the journal after it. -/
def start {α : Type} (t : Task α) : Except Failure α × Journal :=
  t.run.run {}

end Task

end Run
end ContractAudit
