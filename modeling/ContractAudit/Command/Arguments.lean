import ContractAudit.Files.Pathname
import ContractAudit.Text.Quoted

/-!
# Arguments of the command line

Arguments are options and words.  An option has a long name and perhaps a letter;
some take a value, which follows in the same argument or is the next one.
Letters of options without a value can share one argument.

Main definitions:

- {lit}`readArgument`: the options in one argument.
- {lit}`scan`: the options of all arguments and the words among them.
-/

namespace ContractAudit
namespace Command

/-- The options of the command. -/
inductive Opt where
  | glob
  | path
  | exclude
  | format
  | output
  | strict
  | noProgress
  | verbose
  | quiet
  | logFile
  | config
  | version
  | help
  deriving DecidableEq, Repr

namespace Opt

/-- All options. -/
def all : List Opt :=
  [glob, path, exclude, format, output, strict, noProgress, verbose, quiet, logFile, config,
    version, help]

/-- The long name of an option. -/
def long : Opt → String
  | glob => "--glob"
  | path => "--path"
  | exclude => "--exclude"
  | format => "--format"
  | output => "--output"
  | strict => "--strict"
  | noProgress => "--no-progress"
  | verbose => "--verbose"
  | quiet => "--quiet"
  | logFile => "--log-file"
  | config => "--config"
  | version => "--version"
  | help => "--help"

/-- The letter of an option. -/
def letter? : Opt → Option Char
  | glob => some 'g'
  | path => some 'C'
  | exclude => some 'e'
  | format => some 'f'
  | output => some 'o'
  | verbose => some 'v'
  | quiet => some 'q'
  | config => some 'c'
  | _ => none

/-- Whether an option takes a value. -/
def takesValue : Opt → Bool
  | glob => true
  | path => true
  | exclude => true
  | format => true
  | output => true
  | logFile => true
  | config => true
  | _ => false

end Opt

/-- An option that was given, with its value where it takes one. -/
structure Given where
  opt : Opt
  value : String
  deriving DecidableEq, Repr

/-- Why arguments are refused. -/
inductive ArgumentError where
  | noSuchOption (name : String)
  | needsValue (name : String)
  | takesNoValue (name : String)
  deriving DecidableEq, Repr

/-- The message of a refused argument. -/
def ArgumentError.message : ArgumentError → String
  | noSuchOption name => "No such option: " ++ name
  | needsValue name => "Option " ++ Text.quoted name ++ " requires an argument."
  | takesNoValue name => "Option " ++ Text.quoted name ++ " does not take a value."

/-- What one argument gives: complete options, and perhaps one whose value is the
next argument, with the name it was given by. -/
structure ArgumentReading where
  given : List Given
  awaiting : Option (Opt × String) := none

/-- The text before the first equals sign and, if there is one, the text after it. -/
def splitAtEquals (cs : List Char) : List Char × Option (List Char) :=
  match cs.dropWhile (· != '=') with
  | [] => (cs, none)
  | _ :: value => (cs.takeWhile (· != '='), some value)

/-- The option of a long name. -/
def longOption? (known : List Opt) (name : String) : Option Opt :=
  known.find? fun o => o.long == name

/-- Reads an argument that has a long name. -/
def readLong (o : Opt) (value : Option (List Char)) : Except ArgumentError ArgumentReading :=
  match o.takesValue, value with
  | true, some v => .ok { given := [⟨o, String.ofList v⟩] }
  | true, none => .ok { given := [], awaiting := some (o, o.long) }
  | false, some _ => .error (.takesNoValue o.long)
  | false, none => .ok { given := [⟨o, ""⟩] }

/-- Reads the letters of an argument: an option that takes a value takes the rest. -/
def readLetters (known : List Opt) : List Char → Except ArgumentError ArgumentReading
  | [] => .ok { given := [] }
  | c :: rest =>
    match known.find? fun o => o.letter? == some c with
    | none => .error (.noSuchOption (String.ofList ['-', c]))
    | some o =>
      if o.takesValue then
        if rest.isEmpty then .ok { given := [], awaiting := some (o, String.ofList ['-', c]) }
        else .ok { given := [⟨o, String.ofList rest⟩] }
      else (readLetters known rest).map fun r => { r with given := ⟨o, ""⟩ :: r.given }

/-- Reads an argument that starts with a hyphen. -/
def readArgument (known : List Opt) (arg : String) : Except ArgumentError ArgumentReading :=
  let (name, value) := splitAtEquals arg.toList
  match longOption? known (String.ofList name) with
  | some o => readLong o value
  | none =>
    if arg.startsWith "--" then .error (.noSuchOption (String.ofList name))
    else readLetters known (arg.toList.drop 1)

/-- Whether an argument holds options. -/
def holdsOptions (arg : String) : Bool :=
  arg.startsWith "-" && arg != "-"

/-- Reads arguments.  Without `mixed` the first word ends the options; two hyphens
always do.  The words are returned in order. -/
def scan (known : List Opt) (mixed : Bool) :
    Option (Opt × String) → List String → Except ArgumentError (List Given × List String)
  | some (_, name), [] => .error (.needsValue name)
  | none, [] => .ok ([], [])
  | some (o, _), value :: rest => do
    let (given, words) ← scan known mixed none rest
    return (⟨o, value⟩ :: given, words)
  | none, arg :: rest =>
    if arg == "--" then .ok ([], rest)
    else if holdsOptions arg then do
      let reading ← readArgument known arg
      let (given, words) ← scan known mixed reading.awaiting rest
      return (reading.given ++ given, words)
    else if mixed then do
      let (given, words) ← scan known mixed none rest
      return (given, arg :: words)
    else .ok ([], arg :: rest)

end Command
end ContractAudit
