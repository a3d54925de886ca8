import ContractAudit.Failure

/-!
# Log records

A run tells what it does in records.  Each has a level, the name of the part of
the program that speaks, and a message.
-/

namespace ContractAudit
namespace Log

/-- How important a record is. -/
inductive Level where
  | debug
  | info
  | warning
  | error
  | critical
  deriving DecidableEq, Repr

namespace Level

/-- All levels, least important first. -/
def all : List Level := [debug, info, warning, error, critical]

/-- The rank of a level. -/
def number : Level → Nat
  | debug => 10
  | info => 20
  | warning => 30
  | error => 40
  | critical => 50

/-- The name of a level. -/
def name : Level → String
  | debug => "DEBUG"
  | info => "INFO"
  | warning => "WARNING"
  | error => "ERROR"
  | critical => "CRITICAL"

/-- The level of a name. -/
def ofName? (s : String) : Option Level :=
  all.find? fun l => l.name == s

/-- Width of the level in a line. -/
def column : Nat := 8

/-- The name of a level, filled up to its column. -/
def padded (l : Level) : String :=
  l.name ++ String.ofList (List.replicate (column - l.name.length) ' ')

end Level

/-- The name that all speakers share. -/
def packageName : String := "contract_coverage"

/-- The full name of a speaker: the shared name, with the given one below it unless
it starts with the shared name already. -/
def speaker : Option String → String
  | none => packageName
  | some name => if name.startsWith packageName then name else packageName ++ "." ++ name

/-- A record of a run. -/
structure Record where
  level : Level
  speaker : String
  message : String
  deriving DecidableEq, Repr

namespace Record

/-- The lines of a record on the console: later lines of a message stand below the
first one. -/
def consoleLines (r : Record) : List String :=
  match r.message.splitOn "\n" with
  | [] => [r.level.padded]
  | first :: rest =>
    let margin := String.ofList (List.replicate (Level.column + 1) ' ')
    (r.level.padded ++ " " ++ first) :: rest.map (margin ++ ·)

/-- The text of a record in a log file. -/
def fileText (r : Record) : String :=
  r.level.padded ++ " " ++ r.speaker ++ ": " ++ r.message

end Record

end Log
end ContractAudit
