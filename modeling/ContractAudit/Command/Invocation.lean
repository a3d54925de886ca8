import ContractAudit.Command.Arguments
import ContractAudit.Config.Value
import ContractAudit.Files.World
import ContractAudit.Report.Format

/-!
# Invocations

What a command line asks for: help, the version, the table of languages, or an
analysis with its options.
-/

namespace ContractAudit
namespace Command

open Files (Pathname World)

/-- The options of an analysis. -/
structure Options where
  patterns : List String := []
  root : Option Pathname := none
  exclude : List String := []
  format : Option Report.Format := none
  output : Option Pathname := none
  strict : Bool := false
  noProgress : Bool := false
  verbose : Bool := false
  quiet : Bool := false
  logFile : Option Pathname := none
  config : Option Pathname := none
  version : Bool := false

/-- What a command line asks for. -/
inductive Invocation where
  | help
  | version
  | languages
  | analysis (options : Options)

/-- Why a command line is refused.  The usage is shown unless an option lacks its
value or has one that it does not take. -/
structure CommandError where
  message : String
  showsUsage : Bool := true

/-- A refused argument as a refused command line. -/
def ArgumentError.toCommandError (e : ArgumentError) : CommandError :=
  match e with
  | noSuchOption _ => { message := e.message }
  | _ => { message := e.message, showsUsage := false }

/-- The values that an option was given, in order. -/
def valuesOf (given : List Given) (o : Opt) : List String :=
  given.filterMap fun g => if g.opt = o then some g.value else none

/-- Whether an option was given. -/
def isGiven (given : List Given) (o : Opt) : Bool :=
  given.any fun g => g.opt = o

/-- The lower case of a letter; the long s is an s. -/
def foldCase (c : Char) : Char :=
  if c == 'ſ' then 's' else c.toLower

/-- The format of a name in any case. -/
def formatOf (name : String) : Except CommandError Report.Format :=
  match Report.Format.ofName? (String.ofList (name.toList.map foldCase)) with
  | some f => .ok f
  | none => .error { message := Text.quoted name ++ " is not one of 'rich', 'json', 'csv'." }

/-- A path that must lead to a directory. -/
def directoryOf (w : World) (s : String) : Except CommandError Pathname :=
  let path := Pathname.parse s
  if s == "" || !w.has path then
    .error { message := "Directory " ++ Text.quoted s ++ " does not exist." }
  else if w.isDirectory path then .ok path
  else .error { message := "Directory " ++ Text.quoted s ++ " is a file." }

/-- A path that must not lead to a directory. -/
def fileOf (w : World) (s : String) : Except CommandError Pathname :=
  let path := Pathname.parse s
  if s != "" && w.isDirectory path then
    .error { message := "File " ++ Text.quoted s ++ " is a directory." }
  else .ok path

/-- The last value of an option, examined. -/
def lastValue {α : Type} (given : List Given) (o : Opt) (f : String → Except CommandError α) :
    Except CommandError (Option α) :=
  match (valuesOf given o).getLast? with
  | none => .ok none
  | some s => (f s).map some

/-- The options of an analysis, examined. -/
def optionsOf (w : World) (given : List Given) : Except CommandError Options := do
  let root ← lastValue given .path (directoryOf w)
  let format ← lastValue given .format formatOf
  let output ← lastValue given .output (fileOf w)
  let logFile ← lastValue given .logFile (fileOf w)
  let config ← lastValue given .config (fileOf w)
  return {
    patterns := valuesOf given .glob
    root
    exclude := valuesOf given .exclude
    format
    output
    strict := isGiven given .strict
    noProgress := isGiven given .noProgress
    verbose := isGiven given .verbose
    quiet := isGiven given .quiet
    logFile
    config
    version := isGiven given .version }

/-- The name of the command that shows the languages. -/
def languagesCommand : String := "languages"

/-- Reads what follows the name of a further command. -/
def readFurther (name : String) (args : List String) : Except CommandError Invocation :=
  if name != languagesCommand then
    .error { message := "No such command " ++ Text.quoted name ++ "." }
  else match scan [.help] true none args with
    | .error e => .error e.toCommandError
    | .ok (given, words) =>
      if isGiven given .help then .ok .help
      else if words.isEmpty then .ok .languages
      else .error { message := "Got unexpected extra argument (" ++ " ".intercalate words ++ ")" }

/-- Reads a command line. -/
def interpret (w : World) (args : List String) : Except CommandError Invocation :=
  match scan Opt.all false none args with
  | .error e => .error e.toCommandError
  | .ok (given, words) =>
    if isGiven given .help then .ok .help
    else do
      let options ← optionsOf w given
      match words with
      | [] => return if options.version then .version else .analysis options
      | name :: rest => readFurther name rest

namespace Options

/-- What the options set, as the caller's layer of the settings. -/
def settings (o : Options) : Config.Table :=
  let entry (present : Bool) (name : String) (v : Config.Value) : Config.Table :=
    if present then [(name, v)] else []
  entry (!o.patterns.isEmpty) "patterns" (.texts o.patterns)
    ++ entry o.root.isSome "root" (.text ((o.root.map Pathname.text).getD ""))
    ++ entry (!o.exclude.isEmpty) "exclude_patterns" (.texts o.exclude)
    ++ entry o.format.isSome "output_format" (.text ((o.format.map Report.Format.name).getD ""))
    ++ entry o.output.isSome "output_file" (.text ((o.output.map Pathname.text).getD ""))
    ++ entry o.noProgress "show_progress" (.bool false)
    ++ entry o.verbose "verbose" (.bool true)
    ++ entry o.quiet "quiet" (.bool true)

end Options

end Command
end ContractAudit
