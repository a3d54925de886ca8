import ContractAudit.Files.Pathname
import ContractAudit.Text.Quoted

/-!
# Faults

A fault ends a run: no partial report is written.  It has a kind, a one-line
message and a list of named details, which the full text shows in their order.
-/

namespace ContractAudit

/-- What a fault is about. -/
inductive FaultKind where
  | general
  | analysis
  | fileAccess
  | parsing
  | unsupportedLanguage
  | configuration
  | invalidSetting
  deriving DecidableEq, Repr

namespace FaultKind

/-- The name of a kind in log records. -/
def name : FaultKind → String
  | general => "ContractCoverageError"
  | analysis => "AnalysisError"
  | fileAccess => "FileAccessError"
  | parsing => "ParsingError"
  | unsupportedLanguage => "UnsupportedLanguageError"
  | configuration => "ConfigurationError"
  | invalidSetting => "InvalidConfigError"

/-- The kind that a kind is a case of. -/
def broader? : FaultKind → Option FaultKind
  | general => none
  | analysis => some general
  | configuration => some general
  | fileAccess => some analysis
  | parsing => some analysis
  | unsupportedLanguage => some analysis
  | invalidSetting => some configuration

/-- A kind and the kinds it is a case of, narrowest first. -/
def lineage (k : FaultKind) : List FaultKind :=
  match k.broader? with
  | none => [k]
  | some b => match b.broader? with
    | none => [k, b]
    | some c => [k, b, c]

/-- Whether a kind concerns the configuration. -/
def isConfiguration (k : FaultKind) : Bool :=
  k.lineage.contains configuration

end FaultKind

/-- A fatal fault of a run. -/
structure Fault where
  kind : FaultKind
  message : String
  details : List (String × String)
  deriving DecidableEq, Repr

namespace Fault

/-- The exit status that a fault leads to. -/
def exitCode : Nat := 2

/-- The detail of a name. -/
def detail? (f : Fault) (key : String) : Option String :=
  f.details.lookup key

/-- The file of a fault, with line and column as far as they are known. -/
def location (f : Fault) : Option String :=
  (f.detail? "filepath").map fun path =>
    match f.detail? "line" with
    | none => path
    | some line =>
      match f.detail? "column" with
      | none => path ++ ":" ++ line
      | some column => path ++ ":" ++ line ++ ":" ++ column

/-- The message and, in brackets, the details. -/
def text (f : Fault) : String :=
  if f.details.isEmpty then f.message
  else f.message ++ " (" ++ ", ".intercalate (f.details.map fun d => d.1 ++ "=" ++ d.2) ++ ")"

/-- A fault of the bookkeeping of a run. -/
def analysis (message : String) : Fault :=
  ⟨.analysis, message, []⟩

/-- A file that cannot be read. -/
def fileAccess (path : Files.Pathname) (reason : String) : Fault :=
  ⟨.fileAccess, "Cannot access file: " ++ path.text,
    [("filepath", path.text), ("reason", reason)]⟩

/-- A file that cannot be parsed; the line and the column count from one. -/
def parsing (path : Files.Pathname) (language reason : String) (line column : Option Int) : Fault :=
  let entry (key : String) (n : Option Int) :=
    (n.map fun v => (key, Number.intText v)).toList
  ⟨.parsing, "Failed to parse " ++ language ++ " file: " ++ path.text,
    [("filepath", path.text), ("language", language), ("reason", reason)]
      ++ entry "line" line ++ entry "column" column⟩

/-- A language without a grammar. -/
def unsupportedLanguage (language : String) (supported : List String) : Fault :=
  ⟨.unsupportedLanguage, "Unsupported language: " ++ language,
    [("language", language), ("supported", ", ".intercalate supported)]⟩

/-- A missing or malformed configuration. -/
def configuration (message : String) : Fault :=
  ⟨.configuration, message, []⟩

/-- A setting whose value is refused. -/
def invalidSetting (key value reason : String) : Fault :=
  ⟨.invalidSetting, "Invalid configuration for " ++ key ++ ": " ++ value,
    [("key", key), ("value", value), ("reason", reason)]⟩

end Fault

end ContractAudit
