import ContractAudit.Coverage.Tally
import ContractAudit.Proofs.Tree.Traversal

/-!
# What the operations of a tally do

Each operation of a tally is described once, by what it does to the counters,
the rows and the flag.  Counting a tree adds the functions and the assertions
among the visited nodes and touches nothing else; recording appends one row or
fails; analysing a tree is the two together, so that the row it records holds
the counts of that tree alone, whatever was counted before.

Main results:

- Theorem {lit}`Tally.countTree_eq`: counting adds what the walk visits.
- Theorem {lit}`Row.ofCounts_eq_ok_iff`: the row of two counts is determined by
  them.
- Theorem {lit}`Tally.analyzeTree_of_open`: the row of an analysed tree does not
  depend on the counters before it.
-/

namespace ContractAudit
namespace Coverage

open ContractAudit.Tree (Node)

/-! ## Rows -/

/-- A row whose numbers fit together: the counts are not negative, the coverage
is theirs, and the verdict is that of the coverage. -/
structure Row.Consistent (r : Row) : Prop where
  functions_nonneg : 0 ≤ r.functions
  assertions_nonneg : 0 ≤ r.assertions
  coverage_eq : ratio r.assertions r.functions = .ok r.coverage
  verdict_eq : r.verdict = classify (.finite false r.coverage)

/-- Only counts that are not negative have a coverage. -/
theorem nonneg_of_ratio_eq_ok {assertions functions : Int} {c : Number.Magnitude}
    (h : ratio assertions functions = .ok c) : 0 ≤ assertions ∧ 0 ≤ functions := by
  unfold ratio at h
  split at h
  · contradiction
  · omega

/-- The row of a label and two counts has that label and these counts, and its
numbers fit together. -/
theorem Row.ofCounts_eq_ok_iff {label : String} {functions assertions : Int} {r : Row} :
    Row.ofCounts label functions assertions = .ok r ↔
      r.label = label ∧ r.functions = functions ∧ r.assertions = assertions ∧ r.Consistent := by
  constructor
  · intro h
    cases hratio : ratio assertions functions with
    | error e => simp [Row.ofCounts, hratio, bind, Except.bind] at h
    | ok c =>
        have hr : (⟨label, c, functions, assertions, classify (.finite false c)⟩ : Row) = r := by
          simpa [Row.ofCounts, hratio, bind, Except.bind, pure, Except.pure] using h
        subst r
        have hnonneg := nonneg_of_ratio_eq_ok hratio
        refine ⟨rfl, rfl, rfl, hnonneg.2, hnonneg.1, hratio, ?_⟩
        dsimp only
  · rintro ⟨rfl, rfl, rfl, hr⟩
    simp [Row.ofCounts, hr.coverage_eq, ← hr.verdict_eq, bind, Except.bind, pure, Except.pure]

/-- Counts without a row have no coverage. -/
theorem Row.ofCounts_eq_error_iff {label : String} {functions assertions : Int}
    {e : RatioError} :
    Row.ofCounts label functions assertions = .error e ↔
      ratio assertions functions = .error e := by
  cases hratio : ratio assertions functions <;>
    simp [Row.ofCounts, hratio, bind, Except.bind, pure, Except.pure]

namespace Tally

/-! ## Counters and rows -/

@[simp]
theorem add_functions (t : Tally) (f a : Int) : (t.add f a).functions = t.functions + f := rfl

@[simp]
theorem add_assertions (t : Tally) (f a : Int) : (t.add f a).assertions = t.assertions + a := rfl

@[simp]
theorem add_rows (t : Tally) (f a : Int) : (t.add f a).rows = t.rows := rfl

@[simp]
theorem add_finalized (t : Tally) (f a : Int) : (t.add f a).finalized = t.finalized := rfl

@[simp]
theorem push_functions (t : Tally) (r : Row) : (t.push r).functions = t.functions := rfl

@[simp]
theorem push_assertions (t : Tally) (r : Row) : (t.push r).assertions = t.assertions := rfl

@[simp]
theorem push_rows (t : Tally) (r : Row) : (t.push r).rows = t.rows ++ [r] := rfl

@[simp]
theorem push_finalized (t : Tally) (r : Row) : (t.push r).finalized = t.finalized := rfl

/-- Appends the total row and closes the tally. -/
def close (t : Tally) (r : Row) : Tally :=
  { t.push r with finalized := true }

@[simp]
theorem close_functions (t : Tally) (r : Row) : (t.close r).functions = t.functions := rfl

@[simp]
theorem close_assertions (t : Tally) (r : Row) : (t.close r).assertions = t.assertions := rfl

@[simp]
theorem close_rows (t : Tally) (r : Row) : (t.close r).rows = t.rows ++ [r] := rfl

@[simp]
theorem close_finalized (t : Tally) (r : Row) : (t.close r).finalized = true := rfl

@[simp]
theorem add_zero (t : Tally) : t.add 0 0 = t := by
  simp [add]

@[simp]
theorem add_add (t : Tally) (f a f' a' : Int) :
    (t.add f a).add f' a' = t.add (f + f') (a + a') := by
  simp [add, Int.add_assoc]

/-- Adding changes a tally exactly when it adds something. -/
theorem add_eq_self_iff (t : Tally) (f a : Int) : t.add f a = t ↔ f = 0 ∧ a = 0 := by
  constructor
  · intro h
    have hf : t.functions + f = t.functions := congrArg Tally.functions h
    have ha : t.assertions + a = t.assertions := congrArg Tally.assertions h
    omega
  · rintro ⟨rfl, rfl⟩
    exact t.add_zero

/-- What was added since a snapshot is the difference to it. -/
@[simp]
theorem delta_add_snapshot (t : Tally) (f a : Int) :
    (t.add f a).delta t.snapshot = (f, a) := by
  simp only [delta, snapshot, add_functions, add_assertions, Prod.mk.injEq]
  omega

/-! ## Counting a tree -/

/-- A declaration of a function is no contract assertion. -/
theorem isAssertion_eq_false_of_isFunction {n : Node} (h : n.isFunction = true) :
    n.isAssertion = false := by
  cases n <;> simp_all [Node.isAssertion, Node.isFunction]

/-- Counting nodes one after the other adds up their kinds. -/
theorem foldl_countNode (t : Tally) (ns : List Node) :
    ns.foldl countNode t = t.add (ns.countP Node.isFunction) (ns.countP Node.isAssertion) := by
  induction ns generalizing t with
  | nil => simp
  | cons n ns ih =>
      rw [List.foldl_cons, ih]
      by_cases hf : n.isFunction = true
      · have ha : n.isAssertion = false := isAssertion_eq_false_of_isFunction hf
        simp [countNode, hf, ha, Int.add_comm]
      · by_cases ha : n.isAssertion = true <;> simp [countNode, hf, ha, Int.add_comm]

/-- Counting a tree adds the functions and assertions that the walk visits. -/
theorem countTree_eq (t : Tally) (root : Node) :
    t.countTree root =
      (t.add root.walk.functionCount root.walk.assertionCount,
        root.walk.stopped.map TallyError.notANode) := by
  rw [countTree, foldl_countNode]
  rfl

/-- Counting a tree without foreign values adds its functions and assertions. -/
theorem countTree_of_whole (t : Tally) {root : Node} (h : root.Whole) :
    t.countTree root = (t.add root.functionCount root.assertionCount, none) := by
  rw [countTree_eq, Node.walk_of_whole h]
  rfl

/-! ## Recording rows -/

/-- A finalised tally refuses a row. -/
theorem recordFile_of_finalized {t : Tally} (h : t.finalized = true) (label : String)
    (s : Snapshot) : t.recordFile label s = .error (.finalized label) := by
  simp [recordFile, h]

/-- A finalised tally refuses a second total row. -/
theorem recordTotal_of_finalized {t : Tally} (h : t.finalized = true) :
    t.recordTotal = .error .totalRecorded := by
  simp [recordTotal, h]

/-- An open tally records the total of its counters, if they have a coverage. -/
theorem recordTotal_of_open {t : Tally} (hopen : t.finalized = false) :
    t.recordTotal =
      match Row.ofCounts totalLabel t.functions t.assertions with
      | .ok r => .ok (r, t.close r)
      | .error e => .error (.ratio e) := by
  cases hrow : Row.ofCounts totalLabel t.functions t.assertions with
  | ok r => simp [recordTotal, hopen, hrow, close]
  | error e => simp [recordTotal, hopen, hrow]

/-- A recorded row is appended to a tally that is still open. -/
theorem recordFile_eq_ok {t t' : Tally} {label : String} {s : Snapshot} {r : Row}
    (h : t.recordFile label s = .ok (r, t')) :
    t.finalized = false ∧ t' = t.push r ∧
      Row.ofCounts label (t.delta s).1 (t.delta s).2 = .ok r := by
  cases hfinal : t.finalized with
  | true => simp [recordFile, hfinal] at h
  | false =>
      cases hrow : Row.ofCounts label (t.delta s).1 (t.delta s).2 with
      | error e => simp [recordFile, hfinal, hrow] at h
      | ok r' =>
          simp only [recordFile, hfinal, hrow, Bool.false_eq_true, if_false, Except.ok.injEq,
            Prod.mk.injEq] at h
          rcases h with ⟨rfl, rfl⟩
          exact ⟨rfl, rfl, rfl⟩

/-- A recorded total row is appended to a tally that was open and closes it. -/
theorem recordTotal_eq_ok {t t' : Tally} {r : Row} (h : t.recordTotal = .ok (r, t')) :
    t.finalized = false ∧ t' = t.close r ∧
      Row.ofCounts totalLabel t.functions t.assertions = .ok r := by
  cases hfinal : t.finalized with
  | true => simp [recordTotal_of_finalized hfinal] at h
  | false =>
      rw [recordTotal_of_open hfinal] at h
      cases hrow : Row.ofCounts totalLabel t.functions t.assertions with
      | error e => simp [hrow] at h
      | ok r' =>
          simp only [hrow, Except.ok.injEq, Prod.mk.injEq] at h
          rcases h with ⟨rfl, rfl⟩
          exact ⟨rfl, rfl, rfl⟩

/-! ## Analysing a tree -/

/-- Where the walk stops at a foreign value, what was visited stays counted and
no row is recorded. -/
theorem analyzeTree_of_stopped (t : Tally) (label : String) {root : Node} {type : String}
    (h : root.walk.stopped = some type) :
    t.analyzeTree label root =
      (t.add root.walk.functionCount root.walk.assertionCount, .error (.notANode type)) := by
  simp [analyzeTree, countTree_eq, h]

/-- A finalised tally still counts the tree before it refuses the row. -/
theorem analyzeTree_of_finalized {t : Tally} (hfinal : t.finalized = true) (label : String)
    {root : Node} (h : root.walk.stopped = none) :
    t.analyzeTree label root =
      (t.add root.walk.functionCount root.walk.assertionCount, .error (.finalized label)) := by
  have hrefuse := recordFile_of_finalized
    (t := t.add root.walk.functionCount root.walk.assertionCount) hfinal label t.snapshot
  simp [analyzeTree, countTree_eq, h, hrefuse]

/-- An open tally records the counts of the tree alone: the counters before it
cancel out. -/
theorem analyzeTree_of_open {t : Tally} (hopen : t.finalized = false) (label : String)
    {root : Node} (h : root.walk.stopped = none) :
    t.analyzeTree label root =
      match Row.ofCounts label root.walk.functionCount root.walk.assertionCount with
      | .ok r => ((t.add root.walk.functionCount root.walk.assertionCount).push r, .ok r)
      | .error e =>
        (t.add root.walk.functionCount root.walk.assertionCount, .error (.ratio e)) := by
  cases hrow : Row.ofCounts label root.walk.functionCount root.walk.assertionCount with
  | ok r => simp [analyzeTree, countTree_eq, h, recordFile, hopen, hrow]
  | error e => simp [analyzeTree, countTree_eq, h, recordFile, hopen, hrow]

end Tally

end Coverage
end ContractAudit
