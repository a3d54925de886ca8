import Mathlib.Algebra.Ring.Int.Defs
import ContractAudit.Proofs.Coverage.Recording

/-!
# Histories of a tally

A tally is used step by step: its caller adds to the counters, captures
snapshots, counts trees, records rows and at some time the total row.  A step
that is refused does not end the history.  Whatever the steps and their order, a
step does one of three things, which {lit}`Tally.apply_cases` lists, and
everything else about histories follows from that list by induction.

Main results:

- Theorem {lit}`Tally.lawful_of_steps`: the rows only grow, their numbers fit
  together, and the total row is recorded at most once and stays the last.
- Theorem {lit}`Tally.late_calls`: once the total row is recorded every further
  recording is refused; the tally stays as it was exactly when no tree analysed
  afterwards has anything to count.
-/

namespace ContractAudit
namespace Coverage

open ContractAudit.Tree (Node)

/-! ## Steps and replies -/

/-- What a caller can do with a tally.  A row can be recorded against any
snapshot, whenever it was captured. -/
inductive Step where
  | add (functions assertions : Int)
  | capture
  | countTree (root : Node)
  | recordFile (label : String) (since : Snapshot)
  | analyzeTree (label : String) (root : Node)
  | recordTotal

/-- What a step adds to the counters, whether it is refused or not: a tree is
counted as far as the walk gets. -/
def Step.counted : Step → Int × Int
  | add functions assertions => (functions, assertions)
  | countTree root => (root.walk.functionCount, root.walk.assertionCount)
  | analyzeTree _ root => (root.walk.functionCount, root.walk.assertionCount)
  | _ => (0, 0)

/-- Whether a step analyses or records.  A caller who takes only such steps
leaves the counters to the engine. -/
def Step.isEngineCall : Step → Bool
  | recordFile _ _ => true
  | analyzeTree _ _ => true
  | recordTotal => true
  | _ => false

/-- What a caller learns from a step. -/
inductive Reply where
  | done
  | captured (s : Snapshot)
  | recorded (r : Row)
  | refused (e : TallyError)

/-- The total row, if a step has recorded one. -/
def totalOf : Step × Reply → Option Row
  | (.recordTotal, .recorded r) => some r
  | _ => none

namespace Tally

/-- The tally after a step, and the reply. -/
def apply (t : Tally) : Step → Tally × Reply
  | .add functions assertions => (t.add functions assertions, .done)
  | .capture => (t, .captured t.snapshot)
  | .countTree root =>
    match t.countTree root with
    | (t', none) => (t', .done)
    | (t', some e) => (t', .refused e)
  | .recordFile label since =>
    match t.recordFile label since with
    | .ok (r, t') => (t', .recorded r)
    | .error e => (t, .refused e)
  | .analyzeTree label root =>
    match t.analyzeTree label root with
    | (t', .ok r) => (t', .recorded r)
    | (t', .error e) => (t', .refused e)
  | .recordTotal =>
    match t.recordTotal with
    | .ok (r, t') => (t', .recorded r)
    | .error e => (t, .refused e)

/-- The tally after steps, one after the other; refused ones do not end it. -/
def run (t : Tally) : List Step → Tally
  | [] => t
  | s :: rest => (t.apply s).1.run rest

/-- The steps with their replies. -/
def history (t : Tally) : List Step → List (Step × Reply)
  | [] => []
  | s :: rest => (s, (t.apply s).2) :: (t.apply s).1.history rest

/-- The total rows that steps record. -/
def totals (t : Tally) (steps : List Step) : List Row :=
  (t.history steps).filterMap totalOf

@[simp]
theorem run_nil (t : Tally) : t.run [] = t := rfl

@[simp]
theorem run_cons (t : Tally) (s : Step) (steps : List Step) :
    t.run (s :: steps) = (t.apply s).1.run steps := rfl

@[simp]
theorem run_append (t : Tally) (as bs : List Step) : t.run (as ++ bs) = (t.run as).run bs := by
  induction as generalizing t with
  | nil => rfl
  | cons s as ih => exact ih (t.apply s).1

@[simp]
theorem totals_nil (t : Tally) : t.totals [] = [] := rfl

theorem totals_cons (t : Tally) (s : Step) (steps : List Step) :
    t.totals (s :: steps) =
      (totalOf (s, (t.apply s).2)).toList ++ (t.apply s).1.totals steps := by
  cases h : totalOf (s, (t.apply s).2) <;> simp [totals, history, h]

/-! ## What a step can do -/

/-- A step changes only the counters, or it also appends a row of a file to an
open tally, or it appends the total row to an open tally and closes it. -/
theorem apply_cases (t : Tally) (s : Step) :
    (∃ reply, t.apply s = (t.add s.counted.1 s.counted.2, reply) ∧ totalOf (s, reply) = none) ∨
    (∃ r, t.apply s = ((t.add s.counted.1 s.counted.2).push r, .recorded r) ∧
      t.finalized = false ∧ r.Consistent ∧ totalOf (s, .recorded r) = none) ∨
    (∃ r, t.apply s = (t.close r, .recorded r) ∧
      t.finalized = false ∧ r.Consistent ∧ s = .recordTotal) := by
  cases s with
  | add f a => exact .inl ⟨.done, rfl, rfl⟩
  | capture => exact .inl ⟨.captured t.snapshot, by simp [apply, Step.counted], rfl⟩
  | countTree root =>
      cases h : root.walk.stopped with
      | none => exact .inl ⟨.done, by simp [apply, Step.counted, countTree_eq, h], rfl⟩
      | some type =>
          exact .inl ⟨.refused (.notANode type),
            by simp [apply, Step.counted, countTree_eq, h], rfl⟩
  | recordFile label since =>
      cases h : t.recordFile label since with
      | error e => exact .inl ⟨.refused e, by simp [apply, Step.counted, h], rfl⟩
      | ok p =>
          obtain ⟨r, t'⟩ := p
          obtain ⟨hopen, rfl, hrow⟩ := recordFile_eq_ok h
          have hr := (Row.ofCounts_eq_ok_iff.mp hrow).2.2.2
          exact .inr (.inl ⟨r, by simp [apply, Step.counted, h], hopen, hr, rfl⟩)
  | analyzeTree label root =>
      cases hwalk : root.walk.stopped with
      | some type =>
          have happly := analyzeTree_of_stopped t label hwalk
          exact .inl ⟨.refused (.notANode type), by simp [apply, Step.counted, happly], rfl⟩
      | none =>
          cases hfinal : t.finalized with
          | true =>
              have happly := analyzeTree_of_finalized hfinal label hwalk
              exact .inl ⟨.refused (.finalized label), by simp [apply, Step.counted, happly], rfl⟩
          | false =>
              have happly := analyzeTree_of_open hfinal label hwalk
              cases hrow : Row.ofCounts label root.walk.functionCount
                  root.walk.assertionCount with
              | error e =>
                  rw [hrow] at happly
                  exact .inl ⟨.refused (.ratio e), by simp [apply, Step.counted, happly], rfl⟩
              | ok r =>
                  rw [hrow] at happly
                  have hr := (Row.ofCounts_eq_ok_iff.mp hrow).2.2.2
                  exact .inr (.inl ⟨r, by simp [apply, Step.counted, happly], rfl, hr, rfl⟩)
  | recordTotal =>
      cases h : t.recordTotal with
      | error e => exact .inl ⟨.refused e, by simp [apply, Step.counted, h], rfl⟩
      | ok p =>
          obtain ⟨r, t'⟩ := p
          obtain ⟨hopen, rfl, hrow⟩ := recordTotal_eq_ok h
          have hr := (Row.ofCounts_eq_ok_iff.mp hrow).2.2.2
          exact .inr (.inr ⟨r, by simp [apply, h], hopen, hr, rfl⟩)

/-- No step takes a row away. -/
theorem rows_prefix_apply (t : Tally) (s : Step) : t.rows <+: (t.apply s).1.rows := by
  rcases apply_cases t s with ⟨reply, h, -⟩ | ⟨r, h, -⟩ | ⟨r, h, -⟩
  · have hrows : (t.apply s).1.rows = t.rows := by rw [h, add_rows]
    exact hrows ▸ List.prefix_rfl
  · rw [h, push_rows, add_rows]
    exact List.prefix_append t.rows [r]
  · rw [h, close_rows]
    exact List.prefix_append t.rows [r]

/-- A refused step leaves behind what it has counted and nothing else. -/
theorem apply_of_refused {t : Tally} {s : Step} {e : TallyError}
    (h : (t.apply s).2 = .refused e) : (t.apply s).1 = t.add s.counted.1 s.counted.2 := by
  rcases apply_cases t s with ⟨reply, happly, -⟩ | ⟨r, happly, -⟩ | ⟨r, happly, -⟩
  · rw [happly]
  · simp [happly] at h
  · simp [happly] at h

/-! ## Finalised tallies -/

/-- A finalised tally only counts: it records no row. -/
theorem apply_of_finalized {t : Tally} (hfinal : t.finalized = true) (s : Step) :
    ∃ reply, t.apply s = (t.add s.counted.1 s.counted.2, reply) ∧ totalOf (s, reply) = none := by
  rcases apply_cases t s with h | ⟨r, -, hopen, -⟩ | ⟨r, -, hopen, -⟩
  · exact h
  · simp [hfinal] at hopen
  · simp [hfinal] at hopen

/-- Whatever the steps, a finalised tally keeps its rows, and no step records
another total row. -/
theorem run_of_finalized {t : Tally} (hfinal : t.finalized = true) (steps : List Step) :
    t.run steps =
        t.add (steps.map (·.counted.1)).sum (steps.map (·.counted.2)).sum ∧
      t.totals steps = [] := by
  induction steps generalizing t with
  | nil => simp
  | cons s steps ih =>
      obtain ⟨reply, happly, hnone⟩ := apply_of_finalized hfinal s
      have hrest := ih (t := t.add s.counted.1 s.counted.2) hfinal
      rw [run_cons, totals_cons, happly, hnone]
      simpa using hrest

/-! ## The invariant -/

/-- The numbers of every row fit together, and a finalised tally has its total row. -/
structure Sound (t : Tally) : Prop where
  consistent : ∀ r ∈ t.rows, r.Consistent
  total_present : t.finalized = true → t.rows ≠ []

/-- One step keeps a tally sound. -/
theorem Sound.apply {t : Tally} (h : t.Sound) (s : Step) : (t.apply s).1.Sound := by
  have hrow : ∀ {r : Row}, r.Consistent → ∀ r' ∈ t.rows ++ [r], r'.Consistent := by
    intro r hr r' hmem
    rcases List.mem_append.mp hmem with hold | hnew
    · exact h.consistent r' hold
    · rw [List.mem_singleton.mp hnew]
      exact hr
  rcases apply_cases t s with ⟨reply, happly, -⟩ | ⟨r, happly, hopen, hr, -⟩ | ⟨r, happly, -, hr, -⟩
  · rw [happly]
    exact ⟨h.consistent, h.total_present⟩
  · rw [happly]
    exact ⟨hrow hr, by simp [hopen]⟩
  · rw [happly]
    exact ⟨hrow hr, by simp⟩

/-- Any steps keep a tally sound. -/
theorem Sound.run {t : Tally} (h : t.Sound) (steps : List Step) : (t.run steps).Sound := by
  induction steps generalizing t with
  | nil => exact h
  | cons s steps ih => exact ih (h.apply s)

/-- The rows of a sound tally are those of files, and then the total row once it
is recorded. -/
theorem Sound.rows_eq {t : Tally} (h : t.Sound) : t.rows = t.fileRows ++ t.totalRow.toList := by
  cases hfinal : t.finalized with
  | false => simp [fileRows, totalRow, hfinal]
  | true =>
      have hne : t.rows ≠ [] := h.total_present hfinal
      simp [fileRows, totalRow, hfinal, List.getLast?_eq_some_getLast hne,
        List.dropLast_concat_getLast hne]

/-- The total rows that steps record on an open tally are the total row that is
there in the end: one or none. -/
theorem totals_of_open {t : Tally} (hopen : t.finalized = false) (steps : List Step) :
    t.totals steps = (t.run steps).totalRow.toList := by
  induction steps generalizing t with
  | nil => simp [totalRow, hopen]
  | cons s steps ih =>
      rw [totals_cons, run_cons]
      rcases apply_cases t s with ⟨reply, happly, hnone⟩ | ⟨r, happly, -, -, hnone⟩ |
        ⟨r, happly, -, -, rfl⟩
      · rw [happly, hnone]
        exact ih hopen
      · rw [happly, hnone]
        exact ih hopen
      · -- From here on the tally is finalised, so the remaining steps record no total row.
        obtain ⟨hrun, htotals⟩ :=
          run_of_finalized (t.close_finalized r) steps
        rw [happly, htotals, hrun]
        simp [totalOf, totalRow]

/-- A row is among the recorded total rows if a step has replied with it. -/
theorem mem_totals_iff {t : Tally} {steps : List Step} {r : Row} :
    r ∈ t.totals steps ↔ (.recordTotal, .recorded r) ∈ t.history steps := by
  have hevent : ∀ event : Step × Reply,
      totalOf event = some r ↔ event = (.recordTotal, .recorded r) := by
    rintro ⟨s, reply⟩
    cases s <;> cases reply <;> simp [totalOf]
  simp [totals, hevent]

/-- What holds of the tally to which steps lead. -/
structure Lawful (start : Tally) (steps : List Step) : Prop where
  /-- The numbers of every row fit together. -/
  rows_consistent : ∀ r ∈ (start.run steps).rows, r.Consistent
  /-- The next step, whichever it is, only appends rows. -/
  rows_grow : ∀ s, (start.run steps).rows <+: ((start.run steps).apply s).1.rows
  /-- The tally is finalised by the total row and by nothing else. -/
  finalized_iff : (start.run steps).finalized = true ↔
    ∃ r, (.recordTotal, .recorded r) ∈ start.history steps
  /-- There is at most one total row. -/
  total_once : (start.totals steps).length ≤ 1
  /-- A total row, once recorded, is the last row, and no row follows. -/
  total_last : ∀ r, (.recordTotal, .recorded r) ∈ start.history steps →
    (start.run steps).rows.getLast? = some r ∧
      ∀ later, ((start.run steps).run later).rows = (start.run steps).rows
  /-- The total row follows the rows of files. -/
  rows_split : (start.run steps).rows =
    (start.run steps).fileRows ++ (start.run steps).totalRow.toList
  /-- A refused row of a file changes nothing. -/
  refused_file : ∀ label since e,
    ((start.run steps).apply (.recordFile label since)).2 = .refused e →
      ((start.run steps).apply (.recordFile label since)).1 = start.run steps
  /-- A refused total row changes nothing. -/
  refused_total : ∀ e, ((start.run steps).apply .recordTotal).2 = .refused e →
    ((start.run steps).apply .recordTotal).1 = start.run steps
  /-- Any other refused step changes nothing but the counters, which only grow. -/
  refused_other : ∀ s e, ((start.run steps).apply s).2 = .refused e →
    ∃ f a : Nat, ((start.run steps).apply s).1 = (start.run steps).add f a

/-- Every history that starts with any counters and without rows is lawful. -/
theorem lawful_of_steps (functions assertions : Int) (steps : List Step) :
    Lawful { functions, assertions } steps := by
  have hsound : (run { functions, assertions } steps).Sound :=
    Sound.run ⟨by simp, by simp⟩ steps
  have htotals : totals { functions, assertions } steps = _ := totals_of_open rfl steps
  generalize ({ functions, assertions } : Tally) = start at hsound htotals ⊢
  have hmem : ∀ r, (.recordTotal, .recorded r) ∈ start.history steps ↔
      (start.run steps).totalRow = some r := by
    intro r
    rw [← mem_totals_iff, htotals, Option.mem_toList]
  refine ⟨hsound.consistent, rows_prefix_apply _, ?_, ?_, ?_, hsound.rows_eq, ?_, ?_, ?_⟩
  · cases hfinal : (start.run steps).finalized with
    | false => simp [hmem, totalRow, hfinal]
    | true =>
        have hne := hsound.total_present hfinal
        simp [hmem, totalRow, hfinal, List.getLast?_eq_some_getLast hne]
  · rw [htotals]
    cases (start.run steps).totalRow <;> simp
  · intro r hr
    cases hfinal : (start.run steps).finalized with
    | false => simp [hmem, totalRow, hfinal] at hr
    | true =>
        refine ⟨by simpa [hmem, totalRow, hfinal] using hr, fun later => ?_⟩
        rw [(run_of_finalized hfinal later).1, add_rows]
  · intro label since e h
    rw [apply_of_refused h]
    exact add_zero _
  · intro e h
    rw [apply_of_refused h]
    exact add_zero _
  · intro s e h
    rw [apply_of_refused h]
    cases s with
    | add f a => simp [apply] at h
    | countTree root => exact ⟨_, _, rfl⟩
    | analyzeTree label root => exact ⟨_, _, rfl⟩
    | capture => exact ⟨0, 0, rfl⟩
    | recordFile label since => exact ⟨0, 0, rfl⟩
    | recordTotal => exact ⟨0, 0, rfl⟩

/-! ## Calls after the total row -/

/-- A finalised tally refuses to analyse and to record, but it has counted the
tree by then. -/
theorem apply_engineCall_of_finalized {t : Tally} (hfinal : t.finalized = true) {s : Step}
    (hcall : s.isEngineCall = true) :
    ∃ e, t.apply s = (t.add s.counted.1 s.counted.2, .refused e) := by
  cases s with
  | add f a => simp [Step.isEngineCall] at hcall
  | capture => simp [Step.isEngineCall] at hcall
  | countTree root => simp [Step.isEngineCall] at hcall
  | recordFile label since =>
      exact ⟨.finalized label, by simp [apply, Step.counted, recordFile_of_finalized hfinal]⟩
  | recordTotal =>
      exact ⟨.totalRecorded, by simp [apply, Step.counted, recordTotal_of_finalized hfinal]⟩
  | analyzeTree label root =>
      cases hwalk : root.walk.stopped with
      | some type =>
          have happly := analyzeTree_of_stopped t label hwalk
          exact ⟨.notANode type, by simp [apply, Step.counted, happly]⟩
      | none =>
          have happly := analyzeTree_of_finalized hfinal label hwalk
          exact ⟨.finalized label, by simp [apply, Step.counted, happly]⟩

/-- All engine calls on a finalised tally are refused. -/
theorem refused_of_mem_history {t : Tally} (hfinal : t.finalized = true) {calls : List Step}
    (hcalls : ∀ s ∈ calls, s.isEngineCall = true) :
    ∀ event ∈ t.history calls, ∃ e, event.2 = .refused e := by
  induction calls generalizing t with
  | nil => simp [history]
  | cons s calls ih =>
      obtain ⟨e, happly⟩ := apply_engineCall_of_finalized hfinal (hcalls s List.mem_cons_self)
      intro event hevent
      rw [history, happly, List.mem_cons] at hevent
      rcases hevent with rfl | hevent
      · exact ⟨e, rfl⟩
      · exact ih (t := t.add s.counted.1 s.counted.2) hfinal
          (fun s' hs' => hcalls s' (List.mem_cons_of_mem s hs')) event hevent

/-- Steps that count nothing leave a finalised tally as it was. -/
theorem run_of_counted_zero {t : Tally} (hfinal : t.finalized = true) {steps : List Step}
    (hzero : ∀ s ∈ steps, s.counted = (0, 0)) : t.run steps = t := by
  induction steps with
  | nil => rfl
  | cons s steps ih =>
      obtain ⟨reply, happly, -⟩ := apply_of_finalized hfinal s
      rw [run_cons, happly, hzero s List.mem_cons_self, add_zero]
      exact ih fun s' hs' => hzero s' (List.mem_cons_of_mem s hs')

/-- Engine calls leave a finalised tally as it was, each of them, exactly when
none of them analyses a tree with something to count. -/
theorem unchanged_iff_of_finalized {t : Tally} (hfinal : t.finalized = true) {calls : List Step}
    (hcalls : ∀ s ∈ calls, s.isEngineCall = true) :
    (∀ before, before <+: calls → t.run before = t) ↔
      ∀ label root, .analyzeTree label root ∈ calls →
        root.walk.functionCount = 0 ∧ root.walk.assertionCount = 0 := by
  constructor
  · intro h label root hmem
    obtain ⟨before, after, rfl⟩ := List.append_of_mem hmem
    have hbefore : t.run before = t := h before (List.prefix_append before _)
    have hcall : t.run (before ++ [.analyzeTree label root]) = t := by
      apply h
      exact ⟨after, by simp⟩
    obtain ⟨reply, happly, -⟩ := apply_of_finalized hfinal (.analyzeTree label root)
    rw [run_append, hbefore, run_cons, run_nil, happly, add_eq_self_iff] at hcall
    simpa [Step.counted] using hcall
  · intro h before hprefix
    have hzero : ∀ s ∈ before, s.counted = (0, 0) := by
      intro s hs
      have hmem : s ∈ calls := hprefix.subset hs
      cases s with
      | add f a => simpa [Step.isEngineCall] using hcalls _ hmem
      | countTree root => simpa [Step.isEngineCall] using hcalls _ hmem
      | analyzeTree label root =>
          obtain ⟨hf, ha⟩ := h label root hmem
          simp [Step.counted, hf, ha]
      | capture => rfl
      | recordFile label since => rfl
      | recordTotal => rfl
    exact run_of_counted_zero hfinal hzero

/-- Once the total row is recorded, every further call is refused and the rows
stay.  The counters leave those of the total row by what the trees analysed
afterwards hold, so each call leaves the tally as it was exactly when these hold
neither functions nor assertions. -/
theorem late_calls {t₀ t : Tally} {total : Row} (htotal : t₀.recordTotal = .ok (total, t))
    (calls : List Step) (hcalls : ∀ s ∈ calls, s.isEngineCall = true) :
    (∀ event ∈ t.history calls, ∃ e, event.2 = .refused e) ∧
    (t.run calls).rows = t.rows ∧ (t.run calls).finalized = true ∧
    (t.run calls).totalRow = some total ∧
    (t.run calls).functions = total.functions + (calls.map (·.counted.1)).sum ∧
    (t.run calls).assertions = total.assertions + (calls.map (·.counted.2)).sum ∧
    ((∀ before, before <+: calls → t.run before = t) ↔
      ∀ label root, .analyzeTree label root ∈ calls →
        root.walk.functionCount = 0 ∧ root.walk.assertionCount = 0) := by
  obtain ⟨-, rfl, hrow⟩ := recordTotal_eq_ok htotal
  obtain ⟨-, hfunctions, hassertions, -⟩ := Row.ofCounts_eq_ok_iff.mp hrow
  have hrun := (run_of_finalized (t₀.close_finalized total) calls).1
  refine ⟨refused_of_mem_history rfl hcalls, ?_, ?_, ?_, ?_, ?_,
    unchanged_iff_of_finalized rfl hcalls⟩
  · rw [hrun, add_rows]
  · rw [hrun, add_finalized, close_finalized]
  · simp [hrun, totalRow]
  · rw [hrun, hfunctions]
    rfl
  · rw [hrun, hassertions]
    rfl

/-- A declaration that is analysed after the total row of an empty run is counted,
although the call is refused. -/
theorem late_calls_declaration :
    let total : Row := ⟨totalLabel, .zero, 0, 0, .needsHelp⟩
    let t : Tally := { rows := [total], finalized := true }
    let late : Step := .analyzeTree "late.js" (.function "f" [] false false 1)
    recordTotal {} = .ok (total, t) ∧ late.isEngineCall = true ∧
      (t.run [late]).totalRow = some total ∧ (t.run [late]).functions = total.functions + 1 ∧
      t.run [late] ≠ t := by
  intro total t late
  have hzero : classify (.finite false .zero) = .needsHelp := by
    simp [classify, Number.Double.exceeds, Number.Magnitude.zero]
  have htotal : recordTotal {} = .ok (total, t) := by
    simp [recordTotal, Row.ofCounts, ratio, hzero, push, total, t, bind, Except.bind, pure,
      Except.pure]
  have hcount : late.counted = (1, 0) := by
    simp [late, Step.counted, Node.Walk.functionCount, Node.Walk.assertionCount, Node.walk,
      Node.walkFrom, Node.foreign?, Node.children, Node.isFunction, Node.isAssertion]
  have h := late_calls htotal [late] (by decide)
  refine ⟨htotal, rfl, h.2.2.2.1, ?_, ?_⟩
  · simpa [hcount] using h.2.2.2.2.1
  · intro heq
    have hf := h.2.2.2.2.1
    simp [heq, hcount, t, total] at hf

end Tally
end Coverage
end ContractAudit
