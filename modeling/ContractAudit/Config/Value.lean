import ContractAudit.Config.Moment
import ContractAudit.Failure
import ContractAudit.Number.Reading

/-!
# Values of settings

A settings file, an environment variable or a caller can give a setting any
value; only validation says whether it fits.  A value is shown on its own
({lit}`Value.shown`) or inside another one ({lit}`Value.quoted`), where texts
stand between quotes.  A value cannot be shown if an integer in it is too long,
or if it is nested too deeply.
-/

namespace ContractAudit
namespace Config

open Number (Double intText)

/-- A value that a setting can be given. -/
inductive Value where
  | null
  | bool (b : Bool)
  | int (i : Int)
  | float (x : Double)
  | text (s : String)
  | list (items : List Value)
  | table (entries : List (String × Value))
  | moment (m : Moment)
  deriving Repr, Inhabited

/-- The entries of a table, in the order in which they were made. -/
abbrev Table := List (String × Value)

namespace Value

/-- The list of texts. -/
def texts (items : List String) : Value :=
  list (items.map text)

mutual

/-- A value as it is shown inside another one. -/
def quoted : Value → String
  | null => "None"
  | bool true => "True"
  | bool false => "False"
  | int i => intText i
  | float x => x.text
  | text s => Text.quoted s
  | list items => "[" ++ ", ".intercalate (quotedItems items) ++ "]"
  | table entries => "\x7b" ++ ", ".intercalate (quotedEntries entries) ++ "\x7d"
  | moment m => m.quoted

/-- The items of a list as they are shown. -/
def quotedItems : List Value → List String
  | [] => []
  | v :: rest => quoted v :: quotedItems rest

/-- The entries of a table as they are shown. -/
def quotedEntries : List (String × Value) → List String
  | [] => []
  | (key, v) :: rest => (Text.quoted key ++ ": " ++ quoted v) :: quotedEntries rest

end

/-- A value as it is shown on its own: a text has no quotes. -/
def shown : Value → String
  | text s => s
  | moment m => m.text
  | other => other.quoted

/-- Why a value cannot be shown. -/
inductive ShowError where
  | longInteger
  | tooDeep
  deriving DecidableEq, Repr

/-- The failure of showing a value. -/
def ShowError.toFailure : ShowError → Failure
  | longInteger =>
    .unexpected .badValue ("Exceeds the limit (" ++ Number.natText Number.maxIntDigits
      ++ " digits) for integer string conversion; use sys.set_int_max_str_digits() to increase "
      ++ "the limit")
  | tooDeep =>
    .unexpected .tooDeep "maximum recursion depth exceeded while getting the repr of an object"

/-- The depth to which values inside each other are shown. -/
def shownDepth : Nat := 990

/-- Whether an integer has more digits than are written. -/
def isLong (i : Int) : Bool :=
  Number.tenTo Number.maxIntDigits ≤ i.natAbs

mutual

/-- The first obstacle to showing a value, where values are shown to a depth. -/
def obstacle? : Value → Nat → Option ShowError
  | _, 0 => some .tooDeep
  | int i, _ + 1 => if isLong i then some .longInteger else none
  | list items, depth + 1 => itemObstacle? items depth
  | table entries, depth + 1 => entryObstacle? entries depth
  | _, _ + 1 => none

/-- The first obstacle among the items of a list. -/
def itemObstacle? : List Value → Nat → Option ShowError
  | [], _ => none
  | v :: rest, depth => (obstacle? v depth).or (itemObstacle? rest depth)

/-- The first obstacle among the entries of a table. -/
def entryObstacle? : List (String × Value) → Nat → Option ShowError
  | [], _ => none
  | (_, v) :: rest, depth => (obstacle? v depth).or (entryObstacle? rest depth)

end

/-- The short name of the kind of a value. -/
def kindName : Value → String
  | null => "NoneType"
  | bool _ => "bool"
  | int _ => "int"
  | float _ => "float"
  | text _ => "str"
  | list _ => "list"
  | table _ => "dict"
  | moment m => m.kindName

/-- The full name of the kind of a value. -/
def fullKindName (v : Value) : String :=
  match v with
  | moment m => "datetime." ++ m.kindName
  | _ => v.kindName

/-- Whether a value counts as present: not null, false, zero or empty. -/
def isTruthy : Value → Bool
  | null => false
  | bool b => b
  | int i => i != 0
  | float (.finite _ m) => m.units != 0
  | float _ => true
  | text s => s != ""
  | list items => !items.isEmpty
  | table entries => !entries.isEmpty
  | moment _ => true

/-- What a value holds, one by one: the items of a list, the keys of a table, the
characters of a text. -/
def items? : Value → Option (List Value)
  | list items => some items
  | table entries => some (entries.map fun e => text e.1)
  | text s => some (s.toList.map fun c => text (String.ofList [c]))
  | _ => none

/-- The failure of going through a value that holds nothing. -/
def notIterable (v : Value) : Failure :=
  .unexpected .badType ("'" ++ v.fullKindName ++ "' object is not iterable")

/-- What a value holds, or the failure. -/
def items (v : Value) : Except Failure (List Value) :=
  match v.items? with
  | some l => .ok l
  | none => .error v.notIterable

/-- The failure of using a value as a path. -/
def notAPath (v : Value) : Failure :=
  .unexpected .badType ("expected str, bytes or os.PathLike object, not " ++ v.kindName)

/-- The text of a value that names a file, a directory or a pattern of them. -/
def pathText (v : Value) : Except Failure String :=
  match v with
  | text s => .ok s
  | other => .error other.notAPath

/-- The path that a value spells. -/
def path (v : Value) : Except Failure Files.Pathname :=
  v.pathText.map Files.Pathname.parse

end Value

namespace Table

/-- The value of a key; an earlier entry hides a later one. -/
def get? (t : Table) (key : String) : Option Value :=
  t.lookup key

/-- Two tables as one, where the entries of the second win. -/
def override (base upper : Table) : Table :=
  upper ++ base

/-- The keys of a table. -/
def keys (t : Table) : List String :=
  t.map Prod.fst

end Table

end Config
end ContractAudit
