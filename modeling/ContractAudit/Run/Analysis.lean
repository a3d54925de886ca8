import ContractAudit.Run.Discovery
import ContractAudit.Run.Engine
import ContractAudit.Config.Load

/-!
# Analysis

An analysis discovers the files that its settings select and runs the engine
over them.
-/

namespace ContractAudit
namespace Run

open Files (World Pathname SourceFile)
open Config (Settings Environment Table)

/-- The name under which an analysis logs. -/
def analysisSpeaker : String := "contract_coverage.api"

/-- Runs an analysis with settings that are resolved.  Files are loaded with the size limit
of the settings, each after what was logged before it. -/
def runSettingsBy (load : Int → List Log.Record → SourceFile → Loading) (w : World)
    (s : Settings) : Task Coverage.Tally := do
  let root ← Task.check s.rootPath
  Task.tell .debug analysisSpeaker
    ("Analyzing " ++ ", ".intercalate s.patternTexts ++ " under " ++ root.text)
  let limit ← Task.check s.maxFileSizeBytes
  let files ← discover w s.patternTexts root s.excludePatterns
  runFilesBy (load limit) files

/-- Runs an analysis whose files are not changed by what it logs. -/
def runSettings (w : World) (s : Settings) : Task Coverage.Tally :=
  runSettingsBy (fun limit _ => load w (some limit)) w s

/-- Loads settings and runs an analysis with them. -/
def analyze (w : World) (env : Environment) (file : Option Pathname) (caller : Table) :
    Task Coverage.Tally := do
  let s ← Task.check (Config.load w env file caller)
  runSettings w s

end Run
end ContractAudit
