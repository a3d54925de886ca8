import ContractAudit.Config.Value
import ContractAudit.Log.Routing
import ContractAudit.Report.Format

/-!
# Fields of the settings

The eight things that can be set, with their names, their defaults and the form
that a text for them has in the environment.
-/

namespace ContractAudit
namespace Config

/-- Something that can be set. -/
inductive Field where
  | patterns
  | excludePatterns
  | root
  | maxFileSize
  | outputFormat
  | outputFile
  | showProgress
  | verbosity
  deriving DecidableEq, Repr

namespace Field

/-- All fields, in the order in which they are read and checked. -/
def all : List Field :=
  [patterns, excludePatterns, root, maxFileSize, outputFormat, outputFile, showProgress, verbosity]

/-- The name of a field. -/
def name : Field → String
  | patterns => "patterns"
  | excludePatterns => "exclude_patterns"
  | root => "root"
  | maxFileSize => "max_file_size_mb"
  | outputFormat => "output_format"
  | outputFile => "output_file"
  | showProgress => "show_progress"
  | verbosity => "verbosity"

/-- The names of all fields. -/
def names : List String :=
  all.map name

/-- The field of a name. -/
def ofName? (s : String) : Option Field :=
  all.find? fun f => f.name == s

/-- Five, as a double. -/
def five : Number.Double :=
  .ofMagnitude? false (Number.Magnitude.ofNat? 5)

/-- The value of a field that nothing sets. -/
def default : Field → Value
  | patterns => .texts ["src/**/*.js"]
  | excludePatterns =>
    .texts ["node_modules", "bower_components", "dist", "build", "coverage", ".git", "*.min.js",
      "*.bundle.js"]
  | root => .text "."
  | maxFileSize => .float five
  | outputFormat => .text "rich"
  | outputFile => .null
  | showProgress => .bool true
  | verbosity => .text "normal"

/-- Whether a single text stands for a list of one. -/
def isList : Field → Bool
  | patterns => true
  | excludePatterns => true
  | _ => false

/-- A name leads back to its field. -/
theorem ofName?_name (f : Field) : ofName? f.name = some f := by
  cases f <;> decide

/-- Every field is listed. -/
theorem mem_all (f : Field) : f ∈ all := by
  cases f <;> decide

end Field

/-- The names of the report formats, in the order in which messages list them. -/
def formatNames : List String :=
  ["rich", "json", "csv"]

end Config
end ContractAudit
