import ContractAudit.Config.Field
import ContractAudit.Number.Reading

/-!
# Settings from the environment

Every field can be set by a variable of its name in capitals behind
{lit}`variableStart`.  The form of a field says how the text of its variable is
read: a list is cut at commas, a truth value is one of a few words.
-/

namespace ContractAudit
namespace Config

/-- The form of the text of a variable. -/
inductive Form where
  | word
  | choice
  | integer
  | decimal
  | truth
  | wordList
  | optional (inner : Form)
  | unsupported
  deriving DecidableEq, Repr

/-- Why the text of a variable is not read. -/
inductive FormError where
  | noTruth (text : String)
  | noNumber (cause : Number.ReadError)
  deriving DecidableEq, Repr

/-- The message of a text that is not read. -/
def FormError.message : FormError → String
  | noTruth text => "expected true/false, got '" ++ text ++ "'"
  | noNumber cause => cause.message

/-- The items of a list: what stands between commas, without blanks around it, unless
nothing is left. -/
def listItems (s : String) : List String :=
  ((Text.cutAt ',' s).map fun item => String.ofList (Text.trim item.toList)).filter (· != "")

/-- The words for true. -/
def trueWords : List String := ["true", "1", "yes", "on"]

/-- The words for false. -/
def falseWords : List String := ["false", "0", "no", "off"]

/-- The truth value of a word in any case. -/
def truthOf (s : String) : Except FormError Bool :=
  let lower := String.ofList (s.toList.map Char.toLower)
  if trueWords.contains lower then .ok true
  else if falseWords.contains lower then .ok false
  else .error (.noTruth s)

/-- Reads the text of a variable; a form that no text has gives no value. -/
def Form.read (s : String) : Form → Except FormError (Option Value)
  | word => .ok (some (.text s))
  | choice => .ok (some (.text s))
  | integer => match Number.readInt s with
    | .ok i => .ok (some (.int i))
    | .error e => .error (.noNumber e)
  | decimal => match Number.readDouble s with
    | .ok x => .ok (some (.float x))
    | .error e => .error (.noNumber e)
  | truth => (truthOf s).map fun b => some (.bool b)
  | wordList => .ok (some (.texts (listItems s)))
  | optional inner => inner.read s
  | unsupported => .ok none

/-- The form of a field. -/
def Field.form : Field → Form
  | patterns => .wordList
  | excludePatterns => .wordList
  | root => .word
  | maxFileSize => .decimal
  | outputFormat => .choice
  | outputFile => .optional .word
  | showProgress => .truth
  | verbosity => .choice

/-- What the name of every variable starts with. -/
def variableStart : String := "CONTRACT_COVERAGE_"

/-- The name of the variable of a field. -/
def Field.variableName (f : Field) : String :=
  variableStart ++ String.ofList (f.name.toList.map Char.toUpper)

/-- The variables of a run, by name. -/
abbrev Environment := List (String × String)

/-- Reads the variables of some fields. -/
def Environment.readFields (env : Environment) : List Field → Except Failure Table
  | [] => .ok []
  | f :: rest =>
    match env.lookup f.variableName with
    | none => env.readFields rest
    | some s =>
      match f.form.read s with
      | .error e =>
        .error (.fault (.invalidSetting f.name s (f.variableName ++ ": " ++ e.message)))
      | .ok v => (env.readFields rest).map fun t => (v.map fun v => (f.name, v)).toList ++ t

/-- The settings in the environment. -/
def Environment.table (env : Environment) : Except Failure Table :=
  env.readFields Field.all

end Config
end ContractAudit
