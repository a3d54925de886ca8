import ContractAudit.Config.Settings
import ContractAudit.Config.Environment
import ContractAudit.Toml.Document
import ContractAudit.Files.World
import ContractAudit.Text.Decoding

/-!
# Loading of settings

Settings come in layers.  From the lowest to the highest: the project file, the
tool table of the package file, an explicitly named file, the environment, and
what the caller asks for.  For each field the highest layer that sets it wins;
what no layer sets has its default.

Main definitions:

- {lit}`Layers.merged`: all layers as one table.
- {lit}`resolve`: the checked settings of a merged table.
- {lit}`load`: the settings of a run.
-/

namespace ContractAudit
namespace Config

open Files (Pathname World)

/-- What each source of settings sets. -/
structure Layers where
  project : Table := []
  tool : Table := []
  explicit : Table := []
  environment : Table := []
  caller : Table := []

/-! ## The caller -/

/-- The name of the switch for a verbose run. -/
def verboseSwitch : String := "verbose"

/-- The name of the switch for a quiet run. -/
def quietSwitch : String := "quiet"

/-- Whether a switch is set by the caller. -/
def isSwitchedOn (t : Table) (name : String) : Bool :=
  ((t.get? name).getD (.bool false)).isTruthy

/-- The verbosity that the switches of the caller ask for. -/
def switchedVerbosity? (t : Table) : Option Log.Verbosity :=
  if isSwitchedOn t quietSwitch then some .quiet
  else if isSwitchedOn t verboseSwitch then some .verbose
  else none

/-- Whether a key of the caller is a switch. -/
def isSwitch (key : String) : Bool :=
  key == verboseSwitch || key == quietSwitch

/-- Whether a value is there at all. -/
def isNull : Value → Bool
  | .null => true
  | _ => false

/-- The layer of the caller: switches stand for a verbosity, which replaces one given
beside them, and a null sets nothing. -/
def callerLayer (t : Table) : Table :=
  let plain := t.filter fun e => !isSwitch e.1
  let chosen := match switchedVerbosity? t with
    | some v => Table.override plain [(Field.verbosity.name, .text v.name)]
    | none => plain
  chosen.filter fun e => !isNull ((chosen.get? e.1).getD .null)

/-! ## Merging -/

/-- All layers as one table. -/
def Layers.merged (l : Layers) : Table :=
  [l.tool, l.explicit, l.environment, l.caller].foldl Table.override l.project

/-- A field that holds a list takes a single text as a list of one. -/
def wrapSingle (e : String × Value) : String × Value :=
  match Field.ofName? e.1, e.2 with
  | some f, .text s => if f.isList then (e.1, .texts [s]) else e
  | _, _ => e

/-- The keys of a table that are no fields, in increasing order. -/
def unknownKeys (t : Table) : List String :=
  ((t.keys.filter fun k => (Field.ofName? k).isNone).eraseDups).mergeSort fun a b => a ≤ b

/-- The fault of keys that are no fields. -/
def unknownKeysFault (keys : List String) : Failure :=
  .fault (.configuration ("Unknown configuration keys: " ++ ", ".intercalate keys))

/-- A setting that is refused: its key, the value that it has and the reason. -/
structure RefusedSetting where
  key : String
  value : Value
  reason : String
  deriving Repr

/-- The failure of a refused setting: a fault that shows the value, if the value can be
shown. -/
def RefusedSetting.toFailure (r : RefusedSetting) : Failure :=
  match r.value.obstacle? Value.shownDepth with
  | some e => e.toFailure
  | none => .fault (.invalidSetting r.key r.value.shown r.reason)

/-- The setting of a table that is refused: that of the field which the message is
about. -/
def refusedSetting (t : Table) (why : SettingError) : RefusedSetting :=
  let key := blamedKey why.message
  ⟨key, (t.get? key).getD .null, why.message⟩

/-- The failure of a table with a refused value. -/
def refusalFault (t : Table) (why : SettingError) : Failure :=
  (refusedSetting t why).toFailure

/-- The checked settings of a merged table. -/
def resolve (merged : Table) : Except Failure Settings :=
  let t : Table := merged.map wrapSingle
  match unknownKeys t with
  | [] => match (Settings.ofTable t).checked with
    | .ok s => .ok s
    | .error (.refused why) => .error (refusalFault t why)
    | .error (.unusable failure) => .error failure
  | keys => .error (unknownKeysFault keys)

/-! ## Files -/

/-- The name of the project file. -/
def projectFileName : String := "contract-coverage.toml"

/-- The name of the package file. -/
def packageFileName : String := "pyproject.toml"

/-- The name of the tool table in the package file. -/
def toolTableName : String := "contract-coverage"

/-- The table of a settings file. -/
def readDocument (w : World) (path : Pathname) : Except Failure Table :=
  match w.read path with
  | .error e =>
    .error (.fault (.configuration
      ("Cannot read config file '" ++ path.text ++ "': " ++ e.message path)))
  | .ok bytes =>
    match Text.decodeUtf8 bytes with
    | .error bad => .error (.unexpected .undecodable bad.message)
    | .ok source =>
      match Toml.parse source with
      | .ok t => .ok t
      | .error (.flaw what rest) =>
        .error (.fault (.configuration ("Invalid config file '" ++ path.text ++ "': "
          ++ (Toml.Refusal.flaw what rest).message source)))
      | .error long => .error (.unexpected .badValue (long.message source))

/-- A file in the working directory, by its full path. -/
def inWorkingDirectory (w : World) (name : String) : Pathname :=
  ⟨.single, w.cwd ++ [name]⟩

/-- The layer of the project file. -/
def projectLayer (w : World) : Except Failure Table :=
  let path := inWorkingDirectory w projectFileName
  if w.has path then readDocument w path else .ok []

/-- The tool table in the table of a package file. -/
def toolTable (path : Pathname) (t : Table) : Except Failure Table :=
  match (t.get? "tool").getD (.table []) with
  | .table tools =>
    match Table.get? tools toolTableName with
    | none => .ok []
    | some (.table t) => .ok t
    | some _ =>
      .error (.fault (.configuration
        ("Invalid [tool." ++ toolTableName ++ "] table in '" ++ path.text ++ "'")))
  | other =>
    .error (.unexpected .noAttribute
      ("'" ++ other.fullKindName ++ "' object has no attribute 'get'"))

/-- The layer of the package file. -/
def toolLayer (w : World) : Except Failure Table :=
  let path := inWorkingDirectory w packageFileName
  if w.has path then do toolTable path (← readDocument w path) else .ok []

/-- The layer of an explicitly named file. -/
def explicitLayer (w : World) : Option Pathname → Except Failure Table
  | none => .ok []
  | some path =>
    if w.has path then readDocument w path
    else .error (.fault (.configuration ("Config file not found: " ++ path.text)))

/-- The layers of a run, read in order. -/
def layers (w : World) (env : Environment) (file : Option Pathname) (caller : Table) :
    Except Failure Layers := do
  let project ← projectLayer w
  let tool ← toolLayer w
  let explicit ← explicitLayer w file
  let environment ← env.table
  return { project, tool, explicit, environment, caller := callerLayer caller }

/-- The settings of a run. -/
def load (w : World) (env : Environment) (file : Option Pathname) (caller : Table) :
    Except Failure Settings := do
  let l ← layers w env file caller
  resolve l.merged

end Config
end ContractAudit
