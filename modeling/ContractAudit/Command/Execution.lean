import ContractAudit.Command.Invocation
import ContractAudit.Command.Console
import ContractAudit.Command.Progress
import ContractAudit.Run.Analysis

/-!
# Execution of the command

Executing a command line gives an exit status, what is printed, and the world
afterwards.  Records are added to the log file as they are told.  The report is
written only after the whole analysis has succeeded; until then nothing but the
log file changes.

Main definitions:

- {lit}`Toolkit`: what the command takes from elsewhere.
- {lit}`Outcome`: what an execution leaves.
- {lit}`loggedRun`: the run of an analysis, which tells its records to the log file.
- {lit}`analysisOutcome`: the outcome of an analysis.
- {lit}`executeWith`: the outcome of a command line with any tools.
- {lit}`execute`: the outcome of a command line.
-/

namespace ContractAudit
namespace Command

open Files (Pathname World)
open Config (Settings Environment)
open Coverage (Tally)
open Log (Record Verbosity)

/-- What the command takes from elsewhere: how a command line is read, how a source text is
parsed, what the progress display says to a line, and which line ends the fields of
comma-separated values are quoted for. -/
structure Toolkit where
  interpret : World → List String → Except CommandError Invocation
  parse : Run.Parse
  display : Display
  lineEnds : Report.LineEnds

/-- The tools that are in use, with the earlier of the writers of comma-separated values. -/
def standardTools : Toolkit where
  interpret := interpret
  parse := Script.parse
  display := markupDisplay
  lineEnds := .written

/-- What an execution leaves. -/
structure Outcome where
  status : Nat
  stdout : String := ""
  stderr : String := ""
  world : World

/-- The exit status of success. -/
def successStatus : Nat := 0

/-- The exit status of a strict run whose total needs help. -/
def needsHelpStatus : Nat := 1

/-- The exit status of a failure. -/
def failureStatus : Nat := 2

/-- The exit status of a failure that is not caught. -/
def uncaughtStatus : Nat := 1

/-- The exit status of an interrupted run. -/
def interruptStatus : Nat := 130

/-! ## The log file -/

/-- Resolves double dots in a list of names without looking at links. -/
def foldNames (names : List String) : List String :=
  names.foldl (fun acc n => if n == ".." then acc.dropLast else acc ++ [n]) []

/-- The full path of a log file. -/
def fullPath (w : World) (p : Pathname) : Pathname :=
  if p.isAbsolute then ⟨p.root, foldNames p.names⟩ else ⟨.single, foldNames (w.cwd ++ p.names)⟩

/-- Makes sure that a log file is there. -/
def openLog (w : World) : Option Pathname → Except Failure World
  | none => .ok w
  | some p =>
    let path := fullPath w p
    match w.append path [] with
    | .ok w => .ok w
    | .error e => .error (.unexpected .operatingSystem (e.message path))

/-- Adds records to a log file. -/
def appendLog (w : World) (logFile : Option Pathname) (records : List Record) : World :=
  match logFile with
  | none => w
  | some p =>
    let text := "".intercalate (records.map fun r => r.fileText ++ "\n")
    match w.append (fullPath w p) text.toUTF8.toList with
    | .ok w => w
    | .error _ => w

/-! ## An analysis -/

/-- An analysis up to some point: how it tells what it does, what it has told, and
whether a progress display was shown. -/
structure Trace where
  verbosity : Verbosity
  logFile : Option Pathname
  log : List Record := []
  progress : Bool := false

namespace Trace

/-- The outcome at the end of a trace: the progress display ends with a line feed,
after the records so far and before those of the end.  The world has the records so far
in its log. -/
def close (t : Trace) (w : World) (status : Nat) (stdout : String) (last : List Record)
    (notes : String) : Outcome where
  status
  stdout
  stderr := printedRecords (t.verbosity.kept t.log) ++ (if t.progress then "\n" else "")
    ++ printedRecords (t.verbosity.kept last) ++ notes
  world := appendLog w t.logFile (t.verbosity.kept last)

/-- The outcome of a failure. -/
def fail (t : Trace) (w : World) : Failure → Outcome
  | .fault f =>
    let record : Record := ⟨.debug, Log.packageName, f.kind.name ++ ": " ++ f.text⟩
    let place := match f.location with
      | some l => printedWith "  at " l ""
      | none => ""
    t.close w Fault.exitCode "" [record] (printedWith "[red]Error:[/red] " f.text "" ++ place)
  | .unexpected _ message =>
    let record : Record := ⟨.error, Log.packageName, "Unexpected error during analysis"⟩
    t.close w failureStatus "" [record] (printedWith "[red]Unexpected error:[/red] " message "")

/-- The outcome of an interrupted run. -/
def interrupt (t : Trace) (w : World) : Outcome :=
  let record : Record := ⟨.info, Log.packageName, "Analysis interrupted by user"⟩
  t.close w interruptStatus "" [record] (printed "\n[yellow]Analysis interrupted[/yellow]".toList)

end Trace

/-- What delivering a report prints: the report itself, or a note on where it is. -/
structure Delivery where
  stdout : String := ""
  notes : String := ""

/-- Writes a report to a file, with the directories above it.  Directories that are made
stay where a later one or the file is refused. -/
def saveReport (w : World) (text : String) (path : Pathname) : World × Except Failure Unit :=
  match w.makeDirectories path.parent with
  | (made, .error (e, p)) => (made, .error (.unexpected .operatingSystem (e.message p)))
  | (made, .ok ()) => match made.write path text.toUTF8.toList with
    | .ok written => (written, .ok ())
    | .error e => (made, .error (.unexpected .operatingSystem (e.message path)))

/-- Delivers a report: to the console, or to the output file of the settings.  The
world is the one afterwards. -/
def deliver (tools : Toolkit) (w : World) (s : Settings) (t : Tally) :
    World × Except Failure Delivery :=
  let format := s.format?.getD .table
  match s.outputFile with
  | .null => (w, .ok { stdout := format.print t tools.lineEnds })
  | file => match file.path with
    | .error e => (w, .error e)
    | .ok path => match saveReport w (format.write t tools.lineEnds) path with
      | (after, .ok ()) =>
        let note := printedWith "Report saved to: [bold green]" path.text "[/bold green]"
        (after, .ok { notes := note })
      | (after, .error e) => (after, .error e)

/-- Whether the total of a tally needs help. -/
def totalNeedsHelp (t : Tally) : Bool :=
  match t.totalRow with
  | some r => r.verdict == .needsHelp
  | none => false

/-- The note of a strict run whose total needs help. -/
def strictNote (t : Tally) : String :=
  match t.totalRow with
  | some r => "--strict: total coverage " ++ Report.percentText r ++ " needs help\n"
  | none => ""

/-- The outcome of an analysis that has succeeded. -/
def Trace.report (trace : Trace) (tools : Toolkit) (w : World) (strict : Bool) (s : Settings)
    (t : Tally) : Outcome :=
  match deliver tools w s t with
  | (after, .error e) => trace.fail after e
  | (after, .ok d) =>
    if strict && totalNeedsHelp t then
      trace.close after needsHelpStatus d.stdout [] (d.notes ++ strictNote t)
    else trace.close after successStatus d.stdout [] d.notes

/-- Whether a run shows a progress display. -/
def showsProgress (s : Settings) (verbosity : Verbosity) : Bool :=
  s.showProgress.isTruthy && verbosity != .quiet

/-- The verbosity of a run: that of its settings. -/
def runVerbosity (o : Options) (s : Settings) : Verbosity :=
  s.verbosity?.getD (Verbosity.ofSwitches o.verbose o.quiet)

/-- The world with the records of a run in its log. -/
def withLog (w : World) (o : Options) (s : Settings) (records : List Record) : World :=
  appendLog w o.logFile ((runVerbosity o s).kept records)

/-- The run of an analysis.  Its records are in the log as soon as they are told, so that a
log which is itself analysed is read as it stands when its turn comes. -/
def loggedRun (tools : Toolkit) (w : World) (o : Options) (s : Settings) : Run.Task Tally :=
  Run.runSettingsBy
    (fun limit told => Run.loadBy tools.parse (withLog w o s told) (some limit)) w s

/-- The outcome of an analysis.  A display that cannot be taken down fails instead of the
analysis, whatever that has given, and leaves no line feed. -/
def analysisOutcome (tools : Toolkit) (w : World) (env : Environment) (o : Options)
    (interrupted : Bool) : Outcome :=
  match openLog w o.logFile with
  | .error e => { status := uncaughtStatus, stderr := e.text ++ "\n", world := w }
  | .ok w =>
    let asked := Verbosity.ofSwitches o.verbose o.quiet
    let before : Trace := { verbosity := asked, logFile := o.logFile }
    match Config.load w env o.config o.settings with
    | .error e => before.fail w e
    | .ok s =>
      let verbosity := runVerbosity o s
      let progress := showsProgress s verbosity
      let during : Trace := { verbosity, logFile := o.logFile, progress }
      if interrupted then during.interrupt w
      else
        let (result, journal) := (loggedRun tools w o s).start
        let told := withLog w o s journal.log
        let after : Trace := { during with log := journal.log }
        match if progress then takeDown? tools.display journal else none with
        | some e => { after with progress := false }.fail told e
        | none => match result with
          | .error e => after.fail told e
          | .ok t => after.report tools told o.strict s t

/-- The outcome of a command line with any tools. -/
def executeWith (tools : Toolkit) (w : World) (env : Environment) (args : List String)
    (interrupted : Bool) : Outcome :=
  match tools.interpret w args with
  | .error e =>
    let shown := panel "Error" e.message
    let stderr := if e.showsUsage then usage ++ shown else shown
    { status := failureStatus, stderr, world := w }
  | .ok .help => { status := successStatus, stdout := usage, world := w }
  | .ok .version => { status := successStatus, stdout := versionLine, world := w }
  | .ok .languages => { status := successStatus, stdout := languageGrid.text, world := w }
  | .ok (.analysis o) => analysisOutcome tools w env o interrupted

/-- The outcome of a command line. -/
def execute (w : World) (env : Environment) (args : List String) (interrupted : Bool) : Outcome :=
  executeWith standardTools w env args interrupted

end Command
end ContractAudit
