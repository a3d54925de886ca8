import ContractAudit.Command.Execution
import ContractAudit.Proofs.Files.Frame
import ContractAudit.Proofs.Run.Analysis

/-!
# The course of an analysis

An analysis opens its log file, resolves its settings, analyses its files,
takes the progress display down and delivers the report.  The outcome is
decided by the first of these steps that fails, or by the end of the last one.
What an outcome leaves in the tree of files besides a report is the log, which
stays in one place however often records are added to it.

Main results:

- Theorem {lit}`Logged.sameExcept`: opening a log and adding to it, any number of
  times, changes only the place of the log.
- Theorem {lit}`fails_or_completes`: a step fails, or all of them are completed.
- Theorem {lit}`reportless_of_fails`, {lit}`outcome_of_completes`: the outcome in
  either case.
-/

namespace ContractAudit
namespace Command

open Files (Pathname World Place Spot SameExcept)
open Config (Settings Environment)
open Coverage (Tally Row)
open Log (Record Verbosity)

/-! ## The log -/

/-- A world in which a log was opened and records were added to it. -/
inductive Logged (w : World) (logFile : Option Pathname) : World → Prop
  | opened {opened : World} (h : openLog w logFile = .ok opened) : Logged w logFile opened
  | added {before : World} (h : Logged w logFile before) (records : List Record) :
      Logged w logFile (appendLog before logFile records)

/-- An outcome without a report: the status of a failure, nothing on the console, and a
world that has changed by records in the log only. -/
structure Reportless (w : World) (logFile : Option Pathname) (out : Outcome) : Prop where
  status : out.status = failureStatus
  stdout : out.stdout = ""
  world : Logged w logFile out.world

/-- The status of a failure. -/
theorem Trace.status_fail (t : Trace) (w : World) (e : Failure) :
    (t.fail w e).status = failureStatus := by
  cases e with
  | fault f => rfl
  | unexpected kind message => rfl

/-- A failure leaves no report. -/
theorem Trace.reportless_fail (t : Trace) {w w' : World} (h : Logged w t.logFile w')
    (e : Failure) : Reportless w t.logFile (t.fail w' e) := by
  refine ⟨t.status_fail w' e, ?_, ?_⟩
  · cases e with
    | fault f => rfl
    | unexpected kind message => rfl
  · cases e with
    | fault f => exact h.added _
    | unexpected kind message => exact h.added _

/-! ## Steps -/

/-- Why the progress display of an analysis cannot be taken down, if it cannot. -/
def progressFailure? (tools : Toolkit) (opened : World) (o : Options) (s : Settings) :
    Option Failure :=
  if showsProgress s (runVerbosity o s) then
    takeDown? tools.display (loggedRun tools opened o s).start.2
  else none

/-- The world after the run of an analysis. -/
def worldAfterRun (tools : Toolkit) (opened : World) (o : Options) (s : Settings) : World :=
  withLog opened o s (loggedRun tools opened o s).start.2.log

/-- The log is open and the settings are resolved. -/
structure Ready (w : World) (env : Environment) (o : Options) (opened : World) (s : Settings) :
    Prop where
  log : openLog w o.logFile = .ok opened
  settings : Config.load opened env o.config o.settings = .ok s

/-- The steps of an analysis. -/
inductive Stage where
  | logging
  | settings
  | analysis
  | progress
  | report
  deriving DecidableEq, Repr

/-- A step of an analysis fails. -/
inductive Fails (tools : Toolkit) (w : World) (env : Environment) (o : Options) : Stage → Prop
  | logging {e : Failure} (h : openLog w o.logFile = .error e) : Fails tools w env o .logging
  | settings {opened : World} {e : Failure} (hlog : openLog w o.logFile = .ok opened)
      (h : Config.load opened env o.config o.settings = .error e) :
      Fails tools w env o .settings
  | analysis {opened : World} {s : Settings} {e : Failure} (hready : Ready w env o opened s)
      (h : (loggedRun tools opened o s).start.1 = .error e) : Fails tools w env o .analysis
  | progress {opened : World} {s : Settings} {e : Failure} (hready : Ready w env o opened s)
      (h : progressFailure? tools opened o s = some e) : Fails tools w env o .progress
  | report {opened after : World} {s : Settings} {t : Tally} {e : Failure}
      (hready : Ready w env o opened s) (hresult : (loggedRun tools opened o s).start.1 = .ok t)
      (hprogress : progressFailure? tools opened o s = none)
      (h : deliver tools (worldAfterRun tools opened o s) s t = (after, .error e)) :
      Fails tools w env o .report

/-- All steps of an analysis are completed, with a tally and a delivered report. -/
structure Completes (tools : Toolkit) (w : World) (env : Environment) (o : Options)
    (opened : World) (s : Settings) (t : Tally) (after : World) (d : Delivery) : Prop where
  ready : Ready w env o opened s
  result : (loggedRun tools opened o s).start.1 = .ok t
  progress : progressFailure? tools opened o s = none
  delivered : deliver tools (worldAfterRun tools opened o s) s t = (after, .ok d)

section Outcomes

variable {tools : Toolkit} {w opened after : World} {env : Environment} {o : Options}
  {s : Settings} {t : Tally} {d : Delivery} {e : Failure} {stage : Stage}

/-- A step fails, or all of them are completed. -/
theorem fails_or_completes (tools : Toolkit) (w : World) (env : Environment) (o : Options) :
    (∃ stage, Fails tools w env o stage) ∨
      ∃ opened s t after d, Completes tools w env o opened s t after d := by
  cases hlog : openLog w o.logFile with
  | error e => exact .inl ⟨_, .logging hlog⟩
  | ok opened =>
      cases hsettings : Config.load opened env o.config o.settings with
      | error e => exact .inl ⟨_, .settings hlog hsettings⟩
      | ok s =>
          have hready : Ready w env o opened s := ⟨hlog, hsettings⟩
          cases hprogress : progressFailure? tools opened o s with
          | some e => exact .inl ⟨_, .progress hready hprogress⟩
          | none =>
              cases hresult : (loggedRun tools opened o s).start.1 with
              | error e => exact .inl ⟨_, .analysis hready hresult⟩
              | ok t =>
                  rcases hdeliver : deliver tools (worldAfterRun tools opened o s) s t with
                    ⟨after, e | d⟩
                  · exact .inl ⟨_, .report hready hresult hprogress hdeliver⟩
                  · exact .inr ⟨opened, s, t, after, d, hready, hresult, hprogress, hdeliver⟩

/-- The world after the run has changed by records in the log only. -/
theorem Ready.logged (h : Ready w env o opened s) (tools : Toolkit) :
    Logged w o.logFile (worldAfterRun tools opened o s) :=
  (Logged.opened h.log).added _

/-- The outcome of an analysis whose log is open and whose settings are resolved. -/
theorem exists_traces (tools : Toolkit) (h : Ready w env o opened s) :
    ∃ trace trace' : Trace, trace.logFile = o.logFile ∧ trace'.logFile = o.logFile ∧
      analysisOutcome tools w env o false =
        match progressFailure? tools opened o s with
        | some e => trace'.fail (worldAfterRun tools opened o s) e
        | none => match (loggedRun tools opened o s).start.1 with
          | .error e => trace.fail (worldAfterRun tools opened o s) e
          | .ok t => trace.report tools (worldAfterRun tools opened o s) o.strict s t := by
  let trace : Trace :=
    { verbosity := runVerbosity o s, logFile := o.logFile,
      progress := showsProgress s (runVerbosity o s),
      log := (loggedRun tools opened o s).start.2.log }
  refine ⟨trace, { trace with progress := false }, rfl, rfl, ?_⟩
  unfold analysisOutcome
  rw [h.log]
  dsimp only
  rw [h.settings]
  rfl

/-- An analysis whose log cannot be opened ends at once. -/
theorem outcome_of_logging (h : openLog w o.logFile = .error e) :
    analysisOutcome tools w env o false =
      { status := uncaughtStatus, stderr := e.text ++ "\n", world := w } := by
  unfold analysisOutcome
  rw [h]

/-- A step between the log and the report that fails leaves no report. -/
theorem reportless_of_fails (h : Fails tools w env o stage) (hlog : stage ≠ .logging)
    (hreport : stage ≠ .report) :
    Reportless w o.logFile (analysisOutcome tools w env o false) := by
  cases h with
  | logging => exact absurd rfl hlog
  | report => exact absurd rfl hreport
  | @settings opened e hopen hfailed =>
      unfold analysisOutcome
      rw [hopen]
      dsimp only
      rw [hfailed]
      dsimp only
      exact Trace.reportless_fail { verbosity := _, logFile := o.logFile } (.opened hopen) e
  | @analysis opened s e hready hfailed =>
      obtain ⟨trace, trace', htrace, htrace', hout⟩ := exists_traces tools hready
      have hlogged := hready.logged tools
      rw [hout, hfailed]
      -- whether the display fails too or not, there is no report
      split
      next e' _ =>
        rw [← htrace'] at hlogged ⊢
        exact trace'.reportless_fail hlogged e'
      next =>
        rw [← htrace] at hlogged ⊢
        exact trace.reportless_fail hlogged e
  | @progress opened s e hready hfailed =>
      obtain ⟨trace, trace', -, htrace', hout⟩ := exists_traces tools hready
      have hlogged := hready.logged tools
      rw [hout, hfailed]
      rw [← htrace'] at hlogged ⊢
      exact trace'.reportless_fail hlogged e

/-- A report that cannot be delivered leaves the status of a failure. -/
theorem status_of_report (h : Fails tools w env o .report) :
    (analysisOutcome tools w env o false).status = failureStatus := by
  cases h with
  | @report opened after s t e hready hresult hprogress hdeliver =>
      obtain ⟨trace, trace', -, -, hout⟩ := exists_traces tools hready
      rw [hout, hprogress, hresult]
      dsimp only
      rw [Trace.report, hdeliver]
      exact trace.status_fail after e

/-- A step after the log that fails leads to the status of a failure. -/
theorem status_of_fails (h : Fails tools w env o stage) (hlog : stage ≠ .logging) :
    (analysisOutcome tools w env o false).status = failureStatus := by
  by_cases hreport : stage = .report
  · subst hreport
    exact status_of_report h
  · exact (reportless_of_fails h hlog hreport).status

/-- The outcome of a completed analysis: what is delivered, and the verdict if it counts. -/
theorem outcome_of_completes (h : Completes tools w env o opened s t after d) :
    (analysisOutcome tools w env o false).status =
        (if o.strict && totalNeedsHelp t then needsHelpStatus else successStatus) ∧
      (analysisOutcome tools w env o false).stdout = d.stdout := by
  obtain ⟨trace, trace', -, -, hout⟩ := exists_traces tools h.ready
  rw [hout, h.progress, h.result]
  dsimp only
  rw [Trace.report, h.delivered]
  dsimp only
  split
  · exact ⟨rfl, rfl⟩
  · exact ⟨rfl, rfl⟩

end Outcomes

end Command
end ContractAudit
