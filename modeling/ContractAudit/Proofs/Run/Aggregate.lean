import Mathlib.Algebra.Order.BigOperators.Group.List
import ContractAudit.Proofs.Coverage.Verdict
import ContractAudit.Proofs.Run.Contract

/-!
# The verdict on a run and the verdicts on its files

The total row is computed from the summed counts, not from the coverages of the
files, and a file without functions has no coverage but may have assertions.
Both levels are compared through the margin of a row: five times its assertions
less eight times its functions.  Margins add up, and up to `2 ^ 49` functions a
row with functions is sane exactly if its margin is positive.

Main results:

- Theorem {lit}`Row.Consistent.sane_iff`: the verdict of a row by its margin.
- Theorem {lit}`total_verdict_of_rows`: sane files make a sane total, and a sane
  total needs a sane file or assertions in a file without functions.
-/

namespace ContractAudit
namespace Coverage

/-! ## Margins -/

/-- How far a row is above a coverage of four fifths: five times the assertions less eight
times the functions. -/
def Row.margin (r : Row) : Int :=
  5 * r.assertions - 8 * r.functions

variable {r : Row} {rows : List Row}

/-- A row with functions is sane if its margin is positive. -/
theorem Row.Consistent.sane_iff (h : r.Consistent) (hpos : 0 < r.functions)
    (hle : r.functions ≤ 2 ^ 49) : r.verdict = .sane ↔ 0 < r.margin := by
  rw [h.verdict_eq, classify_ratio_iff hpos hle h.coverage_eq, Row.margin]
  omega

/-- A row without functions is not sane. -/
theorem Row.Consistent.verdict_of_no_functions (h : r.Consistent) (hzero : r.functions = 0) :
    r.verdict = .needsHelp := by
  have hnonneg := h.assertions_nonneg
  have hcoverage : ratio r.assertions r.functions = .ok .zero := by
    rw [hzero]
    unfold ratio
    rw [if_neg (by omega), if_pos rfl]
  have hc : Number.Magnitude.zero = r.coverage := Except.ok.inj (hcoverage.symm.trans h.coverage_eq)
  rw [h.verdict_eq, ← hc]
  simp [classify, Number.Double.exceeds, Number.Magnitude.zero]

/-- Margins add up. -/
theorem sum_margin (rows : List Row) :
    (rows.map Row.margin).sum =
      5 * (rows.map Row.assertions).sum - 8 * (rows.map Row.functions).sum := by
  induction rows with
  | nil => rfl
  | cons r rows ih =>
      simp only [List.map_cons, List.sum_cons, ih, Row.margin]
      omega

/-- No row has more functions than all rows together. -/
theorem functions_le_sum (hrows : ∀ r ∈ rows, r.Consistent) (hr : r ∈ rows) :
    r.functions ≤ (rows.map Row.functions).sum := by
  refine List.single_le_sum ?_ _ (List.mem_map_of_mem hr)
  intro f hf
  obtain ⟨r', hr', rfl⟩ := List.mem_map.1 hf
  exact (hrows r' hr').functions_nonneg

/-- What is positive in total is positive in some row. -/
theorem exists_pos_of_sum_pos {f : Row → Int} (h : 0 < (rows.map f).sum) :
    ∃ r ∈ rows, 0 < f r := by
  refine List.exists_lt_of_sum_lt (fun _ => 0) f ?_
  simpa using h

/-- Rows of which those with functions are sane, with one function at least, have a positive
margin in total. -/
theorem sum_margin_pos (hrows : ∀ r ∈ rows, r.Consistent)
    (hle : (rows.map Row.functions).sum ≤ 2 ^ 49) (hpos : 0 < (rows.map Row.functions).sum)
    (hsane : ∀ r ∈ rows, 0 < r.functions → r.verdict = .sane) :
    0 < (rows.map Row.margin).sum := by
  have hmargin : ∀ r ∈ rows, 0 < r.functions → 0 < r.margin := by
    intro r hr hfunctions
    have hbound := functions_le_sum hrows hr
    exact ((hrows r hr).sane_iff hfunctions (by omega)).1 (hsane r hr hfunctions)
  have hnonneg : ∀ m ∈ rows.map Row.margin, 0 ≤ m := by
    intro m hm
    obtain ⟨r, hr, rfl⟩ := List.mem_map.1 hm
    rcases Int.lt_or_le 0 r.functions with hfunctions | hnone
    · exact Int.le_of_lt (hmargin r hr hfunctions)
    · -- Without functions the margin is five times the assertions.
      have hassertions := (hrows r hr).assertions_nonneg
      rw [Row.margin]
      omega
  obtain ⟨r, hr, hfunctions⟩ := exists_pos_of_sum_pos hpos
  exact Int.lt_of_lt_of_le (hmargin r hr hfunctions)
    (List.single_le_sum hnonneg _ (List.mem_map_of_mem hr))

/-- A positive margin in total comes from a row that is sane or from assertions in a row without
functions. -/
theorem exists_of_sum_margin_pos (hrows : ∀ r ∈ rows, r.Consistent)
    (hle : (rows.map Row.functions).sum ≤ 2 ^ 49) (hpos : 0 < (rows.map Row.margin).sum) :
    (∃ r ∈ rows, r.verdict = .sane) ∨ ∃ r ∈ rows, r.functions = 0 ∧ 0 < r.assertions := by
  obtain ⟨r, hr, hmargin⟩ := exists_pos_of_sum_pos hpos
  have hbound := functions_le_sum hrows hr
  rcases (hrows r hr).functions_nonneg.lt_or_eq with hfunctions | hzero
  · exact .inl ⟨r, hr, ((hrows r hr).sane_iff hfunctions (by omega)).2 hmargin⟩
  · refine .inr ⟨r, hr, hzero.symm, ?_⟩
    rw [Row.margin] at hmargin
    omega

end Coverage

namespace Run

open Files (SourceFile)
open Coverage (Row Tally totalLabel)
open ContractAudit.Tree (Node)

variable {load : SourceFile → Loading} {files : List SourceFile} {rows : List Row}

/-- The rows that files have on their own are consistent. -/
theorem HaveRows.consistent (h : HaveRows load files rows) : ∀ r ∈ rows, r.Consistent := by
  induction h with
  | nil => simp
  | cons hrow _ ih => exact List.forall_mem_cons.2 ⟨consistent_of_ownRow hrow, ih⟩

/-- In every run that completes with at most `2 ^ 49` functions, the total is sane if there are
functions and every file that has some is sane; and a sane total has a file that is sane or one
that has assertions but no functions. -/
theorem total_verdict_of_rows {tally : Tally} (h : (runFiles load files).start.1 = .ok tally) :
    ∃ total, tally.totalRow = some total ∧
      (total.functions ≤ 2 ^ 49 →
        (0 < total.functions →
          (∀ r ∈ tally.fileRows, 1 ≤ r.functions → r.verdict = .sane) → total.verdict = .sane) ∧
        (total.verdict = .sane →
          (∃ r ∈ tally.fileRows, r.verdict = .sane) ∨
            ∃ r ∈ tally.fileRows, r.functions = 0 ∧ 0 < r.assertions)) := by
  obtain ⟨rows, total, hrows, hcounts, rfl⟩ := runFiles_eq_ok h
  obtain ⟨-, hfunctions, hassertions, hconsistent⟩ := Row.ofCounts_eq_ok_iff.1 hcounts
  have hfileRows : ((absorb {} rows).close total).fileRows = rows := by
    simp [Tally.fileRows, absorb]
  have hmargin : total.margin = (rows.map Row.margin).sum := by
    rw [Coverage.sum_margin, Row.margin, hfunctions, hassertions]
  refine ⟨total, by simp [Tally.totalRow, absorb], fun hle => ?_⟩
  rw [hfileRows]
  constructor
  · intro hpos hsane
    rw [hconsistent.sane_iff hpos hle, hmargin]
    rw [hfunctions] at hpos hle
    exact Coverage.sum_margin_pos hrows.consistent hle hpos hsane
  · intro hsane
    have hpos : 0 < total.functions := by
      refine hconsistent.functions_nonneg.lt_of_ne fun hzero => ?_
      rw [hconsistent.verdict_of_no_functions hzero.symm] at hsane
      cases hsane
    rw [hconsistent.sane_iff hpos hle, hmargin] at hsane
    rw [hfunctions] at hle
    exact Coverage.exists_of_sum_margin_pos hrows.consistent hle hsane

/-- A file with a fully covered function and a file with an assertion but no functions make a
sane total. -/
theorem total_verdict_of_covered_file :
    let assertion (name : String) : Node := .statement (.call (.identifier name 2) [] false 2) 2
    let covered : Node := .program [.function "f"
      [assertion "precondition", assertion "postcondition"] false false 1] 1
    let bare : Node := .program [assertion "precondition"] 1
    let first : SourceFile := ⟨⟨.relative, ["a.js"]⟩, "a.js"⟩
    let second : SourceFile := ⟨⟨.relative, ["b.js"]⟩, "b.js"⟩
    let load : SourceFile → Loading := fun file =>
      ⟨some .javascript, .ok (if file.label = "a.js" then covered else bare)⟩
    ∃ tally total, (runFiles load [first, second]).start.1 = .ok tally ∧
      tally.totalRow = some total ∧ total.functions = 1 ∧ total.verdict = .sane ∧
      ((∃ r ∈ tally.fileRows, r.verdict = .sane) ∨
        ∃ r ∈ tally.fileRows, r.functions = 0 ∧ 0 < r.assertions) := by
  intro assertion covered bare first second load
  have hloads : Loads load [first, second] [covered, bare] :=
    .cons ⟨rfl, by decide⟩ (.cons ⟨rfl, by decide⟩ .nil)
  obtain ⟨rows, total, hrows, hcounts, hreport⟩ := exists_report hloads (by decide +kernel)
  have hrun := (yields_runFiles hrows).start.1
  rw [concluded_absorb hcounts] at hrun
  obtain ⟨total', htotal, hverdicts⟩ := total_verdict_of_rows hrun
  obtain rfl : total = total' := by simpa [Tally.totalRow, absorb] using htotal
  have hfunctions : total.functions = 1 := by
    rw [hreport.total_functions, hreport.functions]
    decide
  have hfileRows : ((absorb {} rows).close total).fileRows = rows := by
    simp [Tally.fileRows, absorb]
  -- The only row with a function is that of the first file, with two assertions.
  have hsane : ∀ r ∈ rows, 1 ≤ r.functions → r.verdict = .sane := by
    have hf : rows.map Row.functions = [1, 0] := hreport.functions.trans (by decide)
    have ha : rows.map Row.assertions = [2, 1] := hreport.assertions.trans (by decide)
    have hconsistent := hreport.consistent
    obtain ⟨r₁, r₂, rfl⟩ : ∃ r₁ r₂, rows = [r₁, r₂] :=
      List.length_eq_two.1 (by simpa using congrArg List.length hf)
    simp only [List.map_cons, List.map_nil, List.cons.injEq, and_true] at hf ha
    have hfirst : r₁.verdict = .sane := by
      rw [(hconsistent r₁ (by simp)).sane_iff (by omega) (by omega), Row.margin]
      omega
    intro r hr hpos
    rcases List.mem_pair.1 hr with rfl | rfl
    · exact hfirst
    · omega
  rw [hfileRows] at hverdicts
  obtain ⟨hall, hsome⟩ := hverdicts (by omega)
  have hverdict := hall (by omega) hsane
  exact ⟨_, total, hrun, htotal, hfunctions, hverdict, by rw [hfileRows]; exact hsome hverdict⟩

end Run
end ContractAudit
