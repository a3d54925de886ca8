import ContractAudit.Config.Field

/-!
# Settings

Settings give each field a value.  They are usable only after a check: patterns
must be texts that are relative and not blank, the size limit must be positive,
and the format and the verbosity must be known.

Main definitions:

- {lit}`Settings.ofTable`: a value for each field, the default where none is set.
- {lit}`Settings.defect?`: the first thing that is wrong.
- {lit}`blamedKey`: the setting that a message is about.
-/

namespace ContractAudit
namespace Config

/-- A value for each field. -/
structure Settings where
  patterns : Value
  excludePatterns : Value
  root : Value
  maxFileSize : Value
  outputFormat : Value
  outputFile : Value
  showProgress : Value
  verbosity : Value
  deriving Repr

/-- Why a value is refused. -/
inductive SettingError where
  | noPatterns
  | blankPattern
  | absolutePattern (pattern : String)
  | sizeNotPositive
  | unknownFormat
  | unknownVerbosity
  deriving DecidableEq, Repr

namespace SettingError

/-- The message of a refused value. -/
def message : SettingError → String
  | noPatterns => "patterns must contain at least one glob pattern"
  | blankPattern => "patterns must be non-empty strings"
  | absolutePattern pattern => "pattern '" ++ pattern ++ "' must be relative to root"
  | sizeNotPositive => "max_file_size_mb must be positive"
  | unknownFormat => "output_format must be one of: " ++ ", ".intercalate formatNames
  | unknownVerbosity => "verbosity must be one of: " ++ ", ".intercalate Log.Verbosity.names

/-- The field whose value is refused. -/
def field : SettingError → Field
  | noPatterns => .patterns
  | blankPattern => .patterns
  | absolutePattern _ => .patterns
  | sizeNotPositive => .maxFileSize
  | unknownFormat => .outputFormat
  | unknownVerbosity => .verbosity

end SettingError

/-- What is wrong with settings: a value is refused, or it cannot be examined. -/
inductive Defect where
  | refused (why : SettingError)
  | unusable (failure : Failure)
  deriving DecidableEq, Repr

/-- A defect as a failure. -/
def Defect.toFailure : Defect → Failure
  | refused why => .unexpected .badValue why.message
  | unusable failure => failure

/-- The key of a setting by the message of its refusal: the field whose name the
message starts with. -/
def blamedKey (message : String) : String :=
  match Field.all.find? fun f => message.startsWith f.name with
  | some f => f.name
  | none => if message.startsWith "pattern " then Field.patterns.name else "config"

/-- The defect of one pattern, if it has one. -/
def patternDefect? : Value → Option SettingError
  | .text s =>
    if Text.allBlank s.toList then some .blankPattern
    else if (Files.Pathname.parse s).isAbsolute then some (.absolutePattern s)
    else none
  | _ => some .blankPattern

/-- The defect of the patterns. -/
def patternsDefect? (v : Value) : Option Defect :=
  if !v.isTruthy then some (.refused .noPatterns)
  else match v.items? with
    | none => some (.unusable v.notIterable)
    | some items => (items.findSome? patternDefect?).map .refused

/-- Whether a size is at most zero, `none` where it is no number. -/
def isNonpositive? : Value → Option Bool
  | .bool b => some !b
  | .int i => some (i ≤ 0)
  | .float x => some x.nonpositive
  | _ => none

/-- The defect of the size limit. -/
def sizeDefect? (v : Value) : Option Defect :=
  match isNonpositive? v with
  | some true => some (.refused .sizeNotPositive)
  | some false => none
  | none =>
    some (.unusable (.unexpected .badType
      ("'<=' not supported between instances of '" ++ v.fullKindName ++ "' and 'int'")))

/-- Whether a value is one of some texts. -/
def isOneOf (names : List String) : Value → Bool
  | .text s => names.contains s
  | _ => false

namespace Settings

/-- The value of a field. -/
def get (s : Settings) : Field → Value
  | .patterns => s.patterns
  | .excludePatterns => s.excludePatterns
  | .root => s.root
  | .maxFileSize => s.maxFileSize
  | .outputFormat => s.outputFormat
  | .outputFile => s.outputFile
  | .showProgress => s.showProgress
  | .verbosity => s.verbosity

/-- The settings with a value for each field. -/
def ofFunction (value : Field → Value) : Settings where
  patterns := value .patterns
  excludePatterns := value .excludePatterns
  root := value .root
  maxFileSize := value .maxFileSize
  outputFormat := value .outputFormat
  outputFile := value .outputFile
  showProgress := value .showProgress
  verbosity := value .verbosity

/-- Each field has the value it was given. -/
@[simp]
theorem get_ofFunction (value : Field → Value) (f : Field) :
    (ofFunction value).get f = value f := by
  cases f <;> rfl

/-- The settings of a table, with defaults for what it does not set. -/
def ofTable (t : Table) : Settings :=
  ofFunction fun f => (t.get? f.name).getD f.default

/-- The first defect of settings, in the order in which the fields are checked. -/
def defect? (s : Settings) : Option Defect :=
  match patternsDefect? s.patterns with
  | some d => some d
  | none => match sizeDefect? s.maxFileSize with
    | some d => some d
    | none =>
      if !isOneOf formatNames s.outputFormat then some (.refused .unknownFormat)
      else if !isOneOf Log.Verbosity.names s.verbosity then some (.refused .unknownVerbosity)
      else none

/-- Settings as they are given, if they have no defect. -/
def checked (s : Settings) : Except Defect Settings :=
  match s.defect? with
  | some d => .error d
  | none => .ok s

/-- The settings of given fields; a key that is no field is an error. -/
def make (t : Table) : Except Failure Settings :=
  match t.keys.find? fun k => (Field.ofName? k).isNone with
  | some k =>
    .error (.unexpected .badType
      ("CoverageConfig.__init__() got an unexpected keyword argument '" ++ k ++ "'"))
  | none => match (ofTable t).checked with
    | .ok s => .ok s
    | .error d => .error d.toFailure

/-! ## Derived values -/

/-- Bytes in a megabyte are this number squared. -/
def kilo : Nat := 1024

/-- The integer part of a double. -/
def truncated : Number.Double → Except Failure Int
  | .nan => .error (.unexpected .badValue "cannot convert float NaN to integer")
  | .infinite _ => .error (.unexpected .overflow "cannot convert float infinity to integer")
  | .finite negative m => .ok (if negative then -(m.floor : Int) else m.floor)

/-- The size limit in bytes. -/
def maxFileSizeBytes (s : Settings) : Except Failure Int :=
  match s.maxFileSize with
  | .bool b => .ok (if b then kilo * kilo else 0)
  | .int i => .ok (i * kilo * kilo)
  | .float x => truncated ((x.scale kilo).scale kilo)
  | v =>
    .error (.unexpected .badType
      ("int() argument must be a string, a bytes-like object or a real number, not '"
        ++ v.kindName ++ "'"))

/-- The root directory of the patterns. -/
def rootPath (s : Settings) : Except Failure Files.Pathname :=
  s.root.path

/-- The texts among the patterns; of checked settings these are all. -/
def patternTexts (s : Settings) : List String :=
  (s.patterns.items?.getD []).filterMap fun v => match v with
    | .text t => some t
    | _ => none

/-- The format of the report. -/
def format? (s : Settings) : Option Report.Format :=
  match s.outputFormat with
  | .text t => Report.Format.ofName? t
  | _ => none

/-- The verbosity of the run. -/
def verbosity? (s : Settings) : Option Log.Verbosity :=
  match s.verbosity with
  | .text t => Log.Verbosity.ofName? t
  | _ => none

end Settings

end Config
end ContractAudit
