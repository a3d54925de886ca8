import Mathlib.Algebra.BigOperators.Ring.Finset
import ContractAudit.Proofs.Run.Engine
import ContractAudit.Proofs.Coverage.Range
import ContractAudit.Proofs.Tree.Image

/-!
# The contract of a run

A run over files that all load ends with one row for each file and the total
row.  Each row is the one its file has in a run by itself, and the total adds
the rows up.  The first file that fails ends the run with its own failure.
Whatever the outcome, the files finished before it are noted once each, in
order, with their rows.

Main results:

- Theorem {lit}`exists_report`: files that load have a report.
- Theorem {lit}`overflow_of_loads`: they only fail by counts too large for a
  double.
- Theorem {lit}`contract_of_run`: the contract, for any number of files and
  whatever loading gives.
-/

namespace ContractAudit
namespace Run

open Files (SourceFile World)
open Coverage (Row Tally RatioError Representable totalLabel)
open ContractAudit.Tree (Node)

variable {load : SourceFile → Loading} {files : List SourceFile} {trees : List Node}
  {rows : List Row}

/-! ## The conclusion of a run -/

/-- The tally that concludes a run, or why its counters have no total row. -/
def concluded (t : Tally) : Except Failure Tally :=
  match Row.ofCounts totalLabel t.functions t.assertions with
  | .ok total => .ok (t.close total)
  | .error e => .error e.toFailure

/-- A run that is still open is concluded without finishing further files. -/
theorem yields_conclude {t : Tally} (hopen : t.finalized = false) :
    (conclude t).Yields (concluded t) [] := by
  rw [conclude, Tally.recordTotal_of_open hopen, concluded]
  cases Row.ofCounts totalLabel t.functions t.assertions with
  | error e => exact .throw e.toFailure
  | ok total =>
      dsimp only
      have hreport (message : String) :
          (Task.tell .info engineSpeaker message >>= fun _ => pure (t.close total)).Yields
            (.ok (t.close total)) [] :=
        Task.Yields.bind_silent (.tell _ _ _) (.pure _)
      -- Without files there is a warning before the report.
      split_ifs
      · exact Task.Yields.bind_silent (.tell _ _ _) (hreport _)
      · exact hreport _

/-- A run analyses its files and concludes. -/
theorem runFiles_eq_bind (load : SourceFile → Loading) (files : List SourceFile) :
    runFiles load files = analyzeFiles load {} files >>= fun p => conclude p.tally :=
  rfl

/-- Files that have rows on their own are finished in order, and the sums of their
counts conclude the run. -/
theorem yields_runFiles (h : HaveRows load files rows) :
    (runFiles load files).Yields (concluded (absorb {} rows)) (files.zip rows) := by
  obtain ⟨grammars, hfiles⟩ := yields_analyzeFiles (p := {}) h rfl
  rw [runFiles_eq_bind, ← List.append_nil (files.zip rows)]
  exact hfiles.bind (yields_conclude rfl)

/-- The first file without a row on its own ends the run with its failure. -/
theorem yields_runFiles_error {before : List SourceFile} (h : HaveRows load before rows)
    {file : SourceFile} {e : Failure} (hfile : ownRow load file = .error e)
    (after : List SourceFile) :
    (runFiles load (before ++ file :: after)).Yields (.error e) (before.zip rows) :=
  (yields_analyzeFiles_error h hfile after rfl).bind_error

/-- Sums that have a row give the total row. -/
theorem concluded_absorb {total : Row}
    (h : Row.ofCounts totalLabel (rows.map Row.functions).sum (rows.map Row.assertions).sum =
      .ok total) : concluded (absorb {} rows) = .ok ((absorb {} rows).close total) := by
  simp [concluded, absorb, h]

/-- Sums that have no row fail. -/
theorem concluded_absorb_error {e : RatioError}
    (h : Row.ofCounts totalLabel (rows.map Row.functions).sum (rows.map Row.assertions).sum =
      .error e) : concluded (absorb {} rows) = .error e.toFailure := by
  simp [concluded, absorb, h]

/-- A run gives each file its own row and closes the tally with the total row of their sums,
or it fails. -/
theorem yields_runFiles_cases (load : SourceFile → Loading) (files : List SourceFile) :
    (∃ rows total, HaveRows load files rows ∧
      Row.ofCounts totalLabel (rows.map Row.functions).sum (rows.map Row.assertions).sum =
        .ok total ∧
      (runFiles load files).Yields (.ok ((absorb {} rows).close total)) (files.zip rows)) ∨
    ∃ e done, (runFiles load files).Yields (.error e) done := by
  rcases exists_rows_or_first_failure load files with
    ⟨rows, hrows⟩ | ⟨before, file, after, rows, e, rfl, hrows, hfile⟩
  · have hrun := yields_runFiles hrows
    cases htotal : Row.ofCounts totalLabel (rows.map Row.functions).sum
        (rows.map Row.assertions).sum with
    | error e =>
        rw [concluded_absorb_error htotal] at hrun
        exact .inr ⟨_, _, hrun⟩
    | ok total =>
        rw [concluded_absorb htotal] at hrun
        exact .inl ⟨rows, total, hrows, htotal, hrun⟩
  · exact .inr ⟨_, _, yields_runFiles_error hrows hfile after⟩

/-- A run that completes has given each file its own row and closed the tally with the
total row of their sums. -/
theorem runFiles_eq_ok {t : Tally} (h : (runFiles load files).start.1 = .ok t) :
    ∃ rows total, HaveRows load files rows ∧
      Row.ofCounts totalLabel (rows.map Row.functions).sum (rows.map Row.assertions).sum =
        .ok total ∧
      t = (absorb {} rows).close total := by
  rcases yields_runFiles_cases load files with ⟨rows, total, hrows, htotal, hrun⟩ | ⟨e, done, hrun⟩
  · rw [hrun.start.1] at h
    exact ⟨rows, total, hrows, htotal, (Except.ok.inj h).symm⟩
  · rw [hrun.start.1] at h
    cases h

/-- Every file loads as a tree without foreign values. -/
def Loads (load : SourceFile → Loading) : List SourceFile → List Node → Prop :=
  List.Forall₂ fun file tree => (load file).tree = .ok tree ∧ tree.Whole

/-- Each of the files has its tree. -/
theorem Loads.exists_tree (h : Loads load files trees) {file : SourceFile} (hfile : file ∈ files) :
    ∃ tree, (load file).tree = .ok tree ∧ tree.Whole := by
  induction h with
  | nil => cases hfile
  | cons hhead _ ih =>
      rcases List.mem_cons.1 hfile with rfl | hrest
      · exact ⟨_, hhead⟩
      · exact ih hrest

/-- Every tree that loading gives, with any parser, is without foreign values. -/
theorem whole_of_loadBy {parse : Parse} {w : World} {limit : Option Int} {file : SourceFile}
    {tree : Node} (h : (loadBy parse w limit file).tree = .ok tree) : tree.Whole := by
  unfold loadBy at h
  split at h
  next => cases h
  next =>
    split at h
    next => cases h
    next =>
      dsimp only at h
      split at h
      next program hprogram =>
        obtain rfl : program = tree := Except.ok.inj h
        exact Tree.whole_of_programWithin hprogram
      next => cases h

/-- Whether a file that loads has a row depends on the counts of its tree alone. -/
theorem ownRow_of_whole {file : SourceFile} {tree : Node}
    (htree : (load file).tree = .ok tree) (hwhole : tree.Whole) :
    ownRow load file =
      match Row.ofCounts file.label tree.functionCount tree.assertionCount with
      | .ok row => .ok row
      | .error e => .error e.toFailure := by
  rw [ownRow, htree]
  dsimp only
  rw [treeRow, Node.walk_of_whole hwhole]
  rfl

/-- The row of a file that loads holds the counts of its tree. -/
theorem ownRow_eq_ok_iff {file : SourceFile} {tree : Node}
    (htree : (load file).tree = .ok tree) (hwhole : tree.Whole) {row : Row} :
    ownRow load file = .ok row ↔
      Row.ofCounts file.label tree.functionCount tree.assertionCount = .ok row := by
  rw [ownRow_of_whole htree hwhole]
  cases Row.ofCounts file.label tree.functionCount tree.assertionCount <;> simp

/-- A file that loads can only have too large counts. -/
theorem overflow_of_ownRow_eq_error {file : SourceFile} {tree : Node}
    (htree : (load file).tree = .ok tree) (hwhole : tree.Whole) {e : Failure}
    (h : ownRow load file = .error e) : ∃ message, e = .unexpected .overflow message := by
  rw [ownRow_of_whole htree hwhole] at h
  cases hrow : Row.ofCounts file.label tree.functionCount tree.assertionCount with
  | ok row =>
      rw [hrow] at h
      cases h
  | error cause =>
      rw [hrow] at h
      obtain rfl : cause.toFailure = e := Except.error.inj h
      exact Coverage.toFailure_of_ratio_eq_error (Row.ofCounts_eq_error_iff.1 hrow)

/-! ## The contract -/

/-- The report of files with their trees: one row for each file, in order, with the
counts of its own tree, and the total row with the sums. -/
structure Report (files : List SourceFile) (trees : List Node) (rows : List Row)
    (total : Row) : Prop where
  labels : rows.map Row.label = files.map SourceFile.label
  functions : rows.map Row.functions = trees.map fun tree => (tree.functionCount : Int)
  assertions : rows.map Row.assertions = trees.map fun tree => (tree.assertionCount : Int)
  consistent : ∀ row ∈ rows, row.Consistent
  total_label : total.label = totalLabel
  total_functions : total.functions = (rows.map Row.functions).sum
  total_assertions : total.assertions = (rows.map Row.assertions).sum
  total_consistent : total.Consistent

/-- The rows that files have on their own hold the counts of their own trees. -/
theorem counts_of_rows (h : Loads load files trees) (hrows : HaveRows load files rows) :
    rows.map Row.label = files.map SourceFile.label ∧
      rows.map Row.functions = (trees.map fun tree => (tree.functionCount : Int)) ∧
      rows.map Row.assertions = (trees.map fun tree => (tree.assertionCount : Int)) ∧
      ∀ row ∈ rows, row.Consistent := by
  induction h generalizing rows with
  | nil =>
      cases hrows
      exact ⟨rfl, rfl, rfl, by simp⟩
  | @cons file tree files trees hfile _ ih =>
      cases hrows with
      | @cons _ row _ rows hrow hrest =>
          rw [ownRow_eq_ok_iff hfile.1 hfile.2] at hrow
          obtain ⟨hlabel, hfunctions, hassertions, hconsistent⟩ := Row.ofCounts_eq_ok_iff.1 hrow
          obtain ⟨hlabels, hfs, has, hall⟩ := ih hrest
          refine ⟨?_, ?_, ?_, List.forall_mem_cons.2 ⟨hconsistent, hall⟩⟩
          · rw [List.map_cons, List.map_cons, hlabel, hlabels]
          · rw [List.map_cons, List.map_cons, hfunctions, hfs]
          · rw [List.map_cons, List.map_cons, hassertions, has]

/-- Files whose total counts have a coverage have rows on their own. -/
theorem exists_rows_of_loads (h : Loads load files trees)
    (htotal : Representable (trees.map Node.functionCount).sum
      (trees.map Node.assertionCount).sum) :
    ∃ rows, HaveRows load files rows := by
  induction h with
  | nil => exact ⟨[], .nil⟩
  | @cons file tree files trees hfile _ ih =>
      simp only [List.map_cons, List.sum_cons] at htotal
      obtain ⟨row, hrow⟩ := Row.exists_ofCounts
        (htotal.mono (Nat.le_add_right _ _) (Nat.le_add_right _ _)) file.label
      obtain ⟨rows, hrows⟩ := ih (htotal.mono (Nat.le_add_left _ _) (Nat.le_add_left _ _))
      exact ⟨row :: rows, .cons ((ownRow_eq_ok_iff hfile.1 hfile.2).2 hrow) hrows⟩

/-- The counts of the rows add up to the counts of all trees. -/
theorem sum_counts {g : Row → Int} {f : Node → Nat}
    (h : rows.map g = trees.map fun tree => (f tree : Int)) :
    (rows.map g).sum = ((trees.map f).sum : Nat) := by
  rw [h, Nat.cast_list_sum, List.map_map]
  rfl

/-- The rows of files that load and the total row of their sums are a report. -/
theorem report_of_rows (h : Loads load files trees) (hrows : HaveRows load files rows) {total : Row}
    (hcounts : Row.ofCounts totalLabel (rows.map Row.functions).sum
      (rows.map Row.assertions).sum = .ok total) : Report files trees rows total := by
  obtain ⟨hlabels, hfunctions, hassertions, hall⟩ := counts_of_rows h hrows
  obtain ⟨hlabel, hsum, hsum', hconsistent⟩ := Row.ofCounts_eq_ok_iff.1 hcounts
  exact ⟨hlabels, hfunctions, hassertions, hall, hlabel, hsum, hsum', hconsistent⟩

/-- Files that load, and whose total counts have a coverage, have a report. -/
theorem exists_report (h : Loads load files trees)
    (htotal : Representable (trees.map Node.functionCount).sum
      (trees.map Node.assertionCount).sum) :
    ∃ rows total, HaveRows load files rows ∧
      Row.ofCounts totalLabel (rows.map Row.functions).sum (rows.map Row.assertions).sum =
        .ok total ∧
      Report files trees rows total := by
  obtain ⟨rows, hrows⟩ := exists_rows_of_loads h htotal
  obtain ⟨-, hfunctions, hassertions, -⟩ := counts_of_rows h hrows
  obtain ⟨total, hcounts⟩ := Row.exists_ofCounts htotal totalLabel
  rw [← sum_counts hfunctions, ← sum_counts hassertions] at hcounts
  exact ⟨rows, total, hrows, hcounts, report_of_rows h hrows hcounts⟩

/-- A row that a file has on its own is the row of a run over that file alone. -/
theorem exists_run_alone {file : SourceFile} {row : Row}
    (h : ownRow load file = .ok row) :
    ∃ alone, (runFiles load [file]).start.1 = .ok alone ∧ alone.fileRows = [row] := by
  have hconsistent := consistent_of_ownRow h
  have htotal : Row.ofCounts totalLabel ([row].map Row.functions).sum
      ([row].map Row.assertions).sum = .ok { row with label := totalLabel } := by
    rw [Row.ofCounts_eq_ok_iff]
    refine ⟨rfl, by simp, by simp, ?_⟩
    exact ⟨hconsistent.functions_nonneg, hconsistent.assertions_nonneg, hconsistent.coverage_eq,
      hconsistent.verdict_eq⟩
  have hrun := (@yields_runFiles load [file] [row] (.cons h .nil)).start.1
  rw [concluded_absorb htotal] at hrun
  exact ⟨_, hrun, rfl⟩

/-- Counts that are too large, of one file or in total, end the run with an overflow. -/
theorem overflow_of_loads (h : Loads load files trees)
    (htotal : ¬ Representable (trees.map Node.functionCount).sum
      (trees.map Node.assertionCount).sum) :
    ∃ message, (runFiles load files).start.1 = .error (.unexpected .overflow message) := by
  rcases exists_rows_or_first_failure load files with
    ⟨rows, hrows⟩ | ⟨before, file, after, rows, e, rfl, hrows, hfile⟩
  · obtain ⟨-, hfunctions, hassertions, -⟩ := counts_of_rows h hrows
    obtain ⟨e, he, -⟩ := Coverage.ratio_of_not_representable htotal
    obtain ⟨message, hmessage⟩ := Coverage.toFailure_of_ratio_eq_error he
    rw [← sum_counts hfunctions, ← sum_counts hassertions, ← Row.ofCounts_eq_error_iff] at he
    rw [(yields_runFiles hrows).start.1, concluded_absorb_error he, hmessage]
    exact ⟨message, rfl⟩
  · obtain ⟨tree, htree, hwhole⟩ := h.exists_tree (List.mem_append_right before List.mem_cons_self)
    obtain ⟨message, rfl⟩ := overflow_of_ownRow_eq_error htree hwhole hfile
    exact ⟨message, (yields_runFiles_error hrows hfile after).start.1⟩

/-- What a run over files does, given what loading each of them gives. -/
structure Contract (load : SourceFile → Loading) (files : List SourceFile) : Prop where
  /-- Files that load are reported, in order, with the rows that they have in runs by
  themselves, unless their counts in total are too large for a double. -/
  complete : ∀ trees, Loads load files trees →
    Representable (trees.map Node.functionCount).sum (trees.map Node.assertionCount).sum →
    ∃ tally rows total, (runFiles load files).start.1 = .ok tally ∧
      (runFiles load files).start.2.finished = files.zip rows ∧
      tally.rows = rows ++ [total] ∧ tally.fileRows = rows ∧ tally.totalRow = some total ∧
      Report files trees rows total ∧
      ∀ file row, (file, row) ∈ files.zip rows →
        ∃ alone, (runFiles load [file]).start.1 = .ok alone ∧ alone.fileRows = [row]
  /-- Counts that are too large end the run. -/
  overflow : ∀ trees, Loads load files trees →
    ¬ Representable (trees.map Node.functionCount).sum (trees.map Node.assertionCount).sum →
    ∃ message, (runFiles load files).start.1 = .error (.unexpected .overflow message)
  /-- Either every file has a row, or there is a first one that has none. -/
  exhaustive : (∃ rows, HaveRows load files rows) ∨
    ∃ before file after rows e, files = before ++ file :: after ∧
      HaveRows load before rows ∧ ownRow load file = .error e
  /-- Where every file has a row, every file is finished, in order, with its row. -/
  finished : ∀ rows, HaveRows load files rows →
    (runFiles load files).start.2.finished = files.zip rows
  /-- The first file without a row ends the run with its failure; exactly the files
  before it are finished. -/
  failed : ∀ before file after rows e, files = before ++ file :: after →
    HaveRows load before rows → ownRow load file = .error e →
    (runFiles load files).start.1 = .error e ∧
      (runFiles load files).start.2.finished = before.zip rows

/-- Every run keeps its contract, and loading from a file system gives trees without
foreign values only, whatever the parser. -/
theorem contract_of_run (load : SourceFile → Loading) (files : List SourceFile) :
    Contract load files ∧
      ∀ (parse : Parse) (w : World) (limit : Option Int) (file : SourceFile) (tree : Node),
        (loadBy parse w limit file).tree = .ok tree → tree.Whole := by
  refine ⟨⟨?_, ?_, ?_, ?_, ?_⟩, fun parse w limit file tree => whole_of_loadBy⟩
  · intro trees hloads htotal
    obtain ⟨rows, total, hrows, hcounts, hreport⟩ := exists_report hloads htotal
    obtain ⟨hresult, hfinished⟩ := (yields_runFiles hrows).start
    rw [concluded_absorb hcounts] at hresult
    refine ⟨_, rows, total, hresult, hfinished, ?_, ?_, ?_, hreport, ?_⟩
    · simp [absorb]
    · simp [Tally.fileRows, absorb]
    · simp [Tally.totalRow, absorb]
    · intro file row hmem
      exact exists_run_alone (List.forall₂_zip hrows hmem)
  · intro trees hloads htotal
    exact overflow_of_loads hloads htotal
  · exact exists_rows_or_first_failure load files
  · intro rows hrows
    exact (yields_runFiles hrows).start.2
  · rintro before file after rows e rfl hrows hfile
    exact (yields_runFiles_error hrows hfile after).start

/-- Two files, of which the first has a function with a precondition and the second a
bare function, are reported with these counts and their sums. -/
theorem contract_of_two_files :
    let guarded : Node := .program [.function "f"
      [.statement (.call (.identifier "precondition" 2) [] false 2) 2] false false 1] 1
    let bare : Node := .program [.function "g" [] false false 1] 1
    let first : SourceFile := ⟨⟨.relative, ["a.js"]⟩, "a.js"⟩
    let second : SourceFile := ⟨⟨.relative, ["b.js"]⟩, "b.js"⟩
    let load : SourceFile → Loading := fun file =>
      ⟨some .javascript, .ok (if file.label = "a.js" then guarded else bare)⟩
    ∃ tally rows total, (runFiles load [first, second]).start.1 = .ok tally ∧
      tally.rows = rows ++ [total] ∧ rows.map Row.label = ["a.js", "b.js"] ∧
      rows.map Row.assertions = [1, 0] ∧ total.functions = 2 ∧ total.assertions = 1 := by
  intro guarded bare first second load
  have hloads : Loads load [first, second] [guarded, bare] :=
    .cons ⟨rfl, by decide⟩ (.cons ⟨rfl, by decide⟩ .nil)
  have htotal : Representable ([guarded, bare].map Node.functionCount).sum
      ([guarded, bare].map Node.assertionCount).sum := by decide +kernel
  obtain ⟨tally, rows, total, hresult, -, hrows, -, -, hreport, -⟩ :=
    (contract_of_run load [first, second]).1.complete _ hloads htotal
  refine ⟨tally, rows, total, hresult, hrows, hreport.labels, hreport.assertions, ?_, ?_⟩
  · rw [hreport.total_functions, hreport.functions]
    decide
  · rw [hreport.total_assertions, hreport.assertions]
    decide

end Run
end ContractAudit
