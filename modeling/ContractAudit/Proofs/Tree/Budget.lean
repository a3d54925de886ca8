import Mathlib.Order.Bounds.Defs
import ContractAudit.Proofs.Tree.Nesting
import ContractAudit.Tree.Extraction

/-!
# Lowering is all or nothing

The budget of lowering stands for a limit on nested steps, which a tree of any
shape can exceed.  Whatever the budget is, a tree is lowered as if there were
none, or it is refused as nested too deeply.  What decides is the longest chain:
the steps that lead from the root of the file down to one node, together with
the steps that lowering this node takes itself.

Main results:

- Theorem {lit}`Concrete.isGreatest_nestingBelow`: the nesting of a file is the
  number of steps of its longest chain.
- Theorem {lit}`programWithin_of_budget`: the program or the refusal of a file for
  every budget.
- Theorem {lit}`extraction_all_or_nothing`: extraction for every budget.
-/

namespace ContractAudit
namespace Tree
namespace Concrete

/-! ## Chains of lowered nodes -/

/-- A chain of nodes, each of which lowering goes on to from the one before, with the
steps of its ways. -/
inductive Chain (language : Language) : Concrete → Nat → Concrete → Prop
  | refl (c : Concrete) : Chain language c 0 c
  | step {c d e : Concrete} {cost steps : Nat} (hway : (cost, d) ∈ c.ways language)
      (h : Chain language d steps e) : Chain language c (cost + steps) e

/-- The steps along the chains of a file.  A chain starts at a kept child of the root, three
steps down, and ends with the steps of its last node; without any node there are the two
steps of going through the children of the root. -/
def chainSteps (language : Language) (root : Concrete) : Set Nat :=
  {total | total = 2 ∨ ∃ d ∈ root.children.filter (fun d => d.label.kept), ∃ steps e,
    Chain language d steps e ∧ total = 3 + steps + e.ownSteps language}

/-- A largest number is one of those it is the largest of. -/
theorem foldr_max_eq_or_mem (ns : List Nat) (n : Nat) :
    ns.foldr max n = n ∨ ns.foldr max n ∈ ns := by
  induction ns with
  | nil => simp
  | cons m ns ih =>
      rw [List.foldr_cons]
      rcases Nat.le_total m (ns.foldr max n) with hle | hle
      · rw [Nat.max_eq_right hle]
        rcases ih with hn | hmem
        · exact .inl hn
        · exact .inr (List.mem_cons_of_mem m hmem)
      · rw [Nat.max_eq_left hle]
        exact .inr List.mem_cons_self

/-- A chain takes no more steps than the nesting of its first node. -/
theorem Chain.le_nesting {language : Language} {c e : Concrete} {steps : Nat}
    (h : Chain language c steps e) : steps + e.ownSteps language ≤ c.nesting language := by
  induction h with
  | refl c =>
      have hown := (nesting_le_iff.mp (Nat.le_refl (c.nesting language))).1
      omega
  | @step c d e cost steps hway _ ih =>
      have hways := (nesting_le_iff.mp (Nat.le_refl (c.nesting language))).2
      have hcost : cost + d.nesting language ≤ c.nesting language := hways (cost, d) hway
      omega

/-- Some chain takes all the steps of the nesting of a node. -/
theorem exists_chain_nesting (language : Language) (c : Concrete) :
    ∃ steps e, Chain language c steps e ∧ steps + e.ownSteps language = c.nesting language := by
  induction hsize : c.size using Nat.strongRecOn generalizing c with
  | ind n ih =>
      subst hsize
      rw [nesting]
      rcases foldr_max_eq_or_mem ((c.ways language).attach.map
        fun way => way.val.1 + nesting language way.val.2) (c.ownSteps language) with hown | hmem
      · rw [hown]
        exact ⟨0, c, .refl c, Nat.zero_add _⟩
      · obtain ⟨⟨⟨cost, d⟩, hway⟩, -, hcost⟩ := List.mem_map.mp hmem
        obtain ⟨steps, e, hchain, hsteps⟩ := ih d.size (size_lt_of_mem_ways hway) d rfl
        refine ⟨cost + steps, e, .step hway hchain, ?_⟩
        rw [← hcost, ← hsteps]
        exact Nat.add_assoc _ _ _

/-- The nesting of a file is the number of steps of its longest chain. -/
theorem isGreatest_nestingBelow (language : Language) (root : Concrete) :
    IsGreatest (root.chainSteps language) (root.nestingBelow language) := by
  constructor
  · rw [nestingBelow]
    rcases foldr_max_eq_or_mem ((root.children.filter fun d => d.label.kept).map
      fun d => 3 + d.nesting language) 2 with hnone | hmem
    · exact .inl hnone
    · obtain ⟨d, hd, hnesting⟩ := List.mem_map.mp hmem
      obtain ⟨steps, e, hchain, hsteps⟩ := exists_chain_nesting language d
      refine .inr ⟨d, hd, steps, e, hchain, ?_⟩
      rw [← hnesting, ← hsteps]
      exact (Nat.add_assoc _ _ _).symm
  · obtain ⟨hnone, hchildren⟩ := nestingBelow_le_iff.mp (Nat.le_refl (root.nestingBelow language))
    rintro total (rfl | ⟨d, hd, steps, e, hchain, rfl⟩)
    · exact hnone
    · have hd := hchildren d hd
      have hle := hchain.le_nesting
      omega

/-- A file is lowered to the images of its kept children, or not at all. -/
theorem lowerChildren_eq (language : Language) (root : Concrete) (budget : Nat) :
    root.lowerChildren language budget =
      if root.nestingBelow language ≤ budget then some (root.inner language) else none := by
  split_ifs with hbudget
  · obtain ⟨ns, hns⟩ :=
      Option.isSome_iff_exists.mp (((lowersWithin language root).inner budget).mpr hbudget)
    rw [hns, (lowersToImage language root).inner budget ns hns]
  · exact lowerChildren_eq_none_iff.mpr (Nat.lt_of_not_le hbudget)

end Concrete

/-! ## Programs for every budget -/

/-- A tree without errors becomes its whole program if the budget allows its nesting, and
is refused otherwise. -/
theorem programWithin_of_budget {path : Files.Pathname} {language : Language} {tree : Concrete}
    (h : tree.hasError = false) (budget : Nat) :
    programWithin budget path language tree =
      if tree.nestingBelow language ≤ budget then .ok (.program (tree.inner language) 1)
      else .error (nestingFault path language) := by
  rw [programWithin_of_sound h, Concrete.lowerChildren_eq]
  split_ifs <;> rfl

/-- What a budget decides about the program of a tree: everything or nothing. -/
structure AllOrNothing (path : Files.Pathname) (language : Language) (tree : Concrete)
    (run : Nat → Except Fault Node) : Prop where
  /-- The outcome is the program of lowering without a budget, or the fault of a tree that
  is nested too deeply. -/
  outcome : ∀ budget, run budget = .ok (.program (tree.inner language) 1) ∨
    run budget = .error (.parsing path language.name "syntax tree nested too deeply" none none)
  /-- The fault names neither a line nor a column. -/
  unplaced : ∀ budget f, run budget = .error f → f.kind = .parsing ∧
    f.detail? "line" = none ∧ f.detail? "column" = none
  /-- There is a program exactly if the budget allows the steps of every chain. -/
  succeeds : ∀ budget, (∃ program, run budget = .ok program) ↔
    ∀ steps ∈ tree.chainSteps language, steps ≤ budget
  /-- One of the chains has the most steps, and these are the nesting of the tree. -/
  longest : IsGreatest (tree.chainSteps language) (tree.nestingBelow language)
  /-- A larger budget gives the same program. -/
  monotone : ∀ budget budget' program, run budget = .ok program → budget ≤ budget' →
    run budget' = .ok program

/-- A run that gives the program within the nesting of the tree and the fault below it is
all or nothing. -/
theorem allOrNothing_of_eq {path : Files.Pathname} {language : Language} {tree : Concrete}
    {run : Nat → Except Fault Node}
    (h : ∀ budget, run budget = if tree.nestingBelow language ≤ budget
      then .ok (.program (tree.inner language) 1) else .error (nestingFault path language)) :
    AllOrNothing path language tree run := by
  have hlongest := Concrete.isGreatest_nestingBelow language tree
  constructor
  · intro budget
    rw [h]
    split_ifs
    · exact .inl rfl
    · exact .inr rfl
  · intro budget f hf
    rw [h] at hf
    split_ifs at hf
    obtain rfl := Except.error.inj hf
    exact ⟨rfl, rfl, rfl⟩
  · intro budget
    have hprogram : (∃ program, run budget = .ok program) ↔
        tree.nestingBelow language ≤ budget := by
      rw [h]
      split_ifs with hbudget
      · simp [hbudget]
      · simp [hbudget]
    rw [hprogram]
    constructor
    · intro hbudget steps hsteps
      exact Nat.le_trans (hlongest.2 hsteps) hbudget
    · intro hall
      exact hall _ hlongest.1
  · exact hlongest
  · intro budget budget' program hrun hle
    rw [h] at hrun ⊢
    split_ifs at hrun with hbudget
    rw [if_pos (Nat.le_trans hbudget hle)]
    exact hrun

/-- Extraction from a tree without errors is all or nothing, for every budget. -/
theorem extraction_all_or_nothing {parsed : Grammar → Concrete} {path : Files.Pathname}
    {given : String} {g : Grammar} (hgrammar : grammarOf path given = .ok g)
    (hsound : (parsed g).hasError = false) :
    AllOrNothing path g.language (parsed g)
      (fun budget => extractWithin budget parsed path given) := by
  apply allOrNothing_of_eq
  intro budget
  rw [extractWithin, hgrammar]
  exact programWithin_of_budget hsound budget

/-- The statement `f(x);` takes ten steps: three to the statement, three to the call in it
and four to the argument. -/
theorem extraction_all_or_nothing_at_argument :
    let call : Concrete := .mk { kind := "call_expression" }
      [.mk { kind := "identifier", field := some "function", text := "f" } [],
        .mk { kind := "arguments", field := some "arguments" }
          [.mk { kind := "identifier", text := "x" } []]]
    let tree : Concrete :=
      .mk { kind := "program" } [.mk { kind := "expression_statement" } [call]]
    let path := Files.Pathname.parse "a.js"
    let program : Node :=
      .program [.statement (.call (.identifier "f" 1) [.identifier "x" 1] false 1) 1] 1
    IsGreatest (tree.chainSteps .javascript) 10 ∧
      (∀ budget, 10 ≤ budget →
        extractWithin budget (fun _ => tree) path "javascript" = .ok program) ∧
      ∀ budget, budget < 10 → extractWithin budget (fun _ => tree) path "javascript" =
        .error (.parsing path "javascript" "syntax tree nested too deeply" none none) := by
  intro call tree path program
  have hgrammar : grammarOf path "javascript" = .ok .javascript := rfl
  have hsound : tree.hasError = false := rfl
  have hall : AllOrNothing path .javascript tree
      (fun budget => extractWithin budget (fun _ => tree) path "javascript") :=
    @extraction_all_or_nothing (fun _ => tree) path "javascript" .javascript hgrammar hsound
  have hten : extractWithin 10 (fun _ => tree) path "javascript" = .ok program := rfl
  have hnine : extractWithin 9 (fun _ => tree) path "javascript" =
      .error (nestingFault path .javascript) := rfl
  have hfails : ∀ budget, budget < 10 → ∀ p,
      extractWithin budget (fun _ => tree) path "javascript" ≠ .ok p := by
    intro budget hbudget p hp
    have hcopy := hall.monotone budget 9 p hp (by omega)
    rw [hnine] at hcopy
    cases hcopy
  have hnesting : tree.nestingBelow .javascript = 10 := by
    have hle := (hall.succeeds 10).mp ⟨program, hten⟩ _ hall.longest.1
    have hlt : ¬ tree.nestingBelow .javascript ≤ 9 := by
      intro hbudget
      obtain ⟨p, hp⟩ := (hall.succeeds 9).mpr
        fun steps hsteps => Nat.le_trans (hall.longest.2 hsteps) hbudget
      exact hfails 9 (by omega) p hp
    omega
  refine ⟨hnesting ▸ hall.longest, ?_, ?_⟩
  · intro budget hbudget
    exact hall.monotone 10 budget program hten hbudget
  · intro budget hbudget
    rcases hall.outcome budget with hok | hfault
    · exact absurd hok (hfails budget hbudget _)
    · exact hfault

end Tree
end ContractAudit
