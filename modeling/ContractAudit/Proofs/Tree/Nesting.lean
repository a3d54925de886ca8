import ContractAudit.Proofs.Tree.Visits

/-!
# Nesting and the budget of lowering

Lowering a node takes some nested steps of its own, and every way down from the
node takes steps on top of those that led to it.  The nesting of a tree is the
largest sum of these steps from the top to the bottom.  Lowering within a budget
succeeds exactly if the nesting of the tree does not exceed the budget: no other
part of the tree matters, and no budget gives a part of the result.

Main results:

- Theorem {lit}`Concrete.nesting_le_iff`: the nesting of a node from that of the
  trees that lowering goes on to.
- Theorem {lit}`Concrete.lowersWithin`: lowering succeeds within the budgets that
  are at least the nesting.
- Theorem {lit}`Concrete.lowerChildren_eq_none_iff`: which budgets are too small
  for a file.
-/

namespace ContractAudit
namespace Tree
namespace Concrete

/-! ## The steps of a node -/

/-- The steps from a call to an argument: past the argument list, if there is one. -/
def argumentCost (c : Concrete) : Nat :=
  if (c.field? "arguments").any fun a => a.label.kind == "arguments" then 4 else 2

/-- The step that it takes to find that a declaration has no name or a call no callee,
so that it is lowered as an ordinary construct. -/
def detour (language : Language) (c : Concrete) : Nat :=
  if (language.functionKinds.contains c.label.kind && (c.field? "name").isNone) ||
    (c.label.kind == "call_expression" && (c.field? "function").isNone) then 1 else 0

/-- The trees that lowering goes on to from a node, each with the steps of the way: the
last of them is that of lowering the tree itself. -/
def ways (language : Language) (c : Concrete) : List (Nat × Concrete) :=
  if c.declaresFunction language then (c.descents language).map (3, ·)
  else if c.isCall then
    (c.field? "function").toList.map (2, ·) ++ c.argumentTrees.map (c.argumentCost, ·)
  else if c.isMember then (c.descents language).map (1, ·)
  else (c.descents language).map (3 + c.detour language, ·)

/-- The steps that lowering a node takes in any case, also where it goes on to nothing:
children are gathered and gone through even if there are none. -/
def ownSteps (language : Language) (c : Concrete) : Nat :=
  if c.declaresFunction language then 2
  else if c.isCall then c.argumentCost - 1
  else if c.isMember || c.label.kind == "identifier" then 0
  else 2 + c.detour language

/-- The ways lead to the trees that lowering goes on to. -/
theorem map_snd_ways (language : Language) (c : Concrete) :
    (c.ways language).map Prod.snd = c.descents language := by
  have hpaired (cost : Nat) (ds : List Concrete) : (ds.map (cost, ·)).map Prod.snd = ds := by
    rw [List.map_map]
    exact List.map_id ds
  unfold ways
  split_ifs with hfunction hcall hmember
  · exact hpaired _ _
  · rw [List.map_append, hpaired, hpaired, descents, if_neg hfunction, if_pos hcall]
  · exact hpaired _ _
  · exact hpaired _ _

/-- A way leads to a smaller tree. -/
theorem size_lt_of_mem_ways {language : Language} {c : Concrete} {way : Nat × Concrete}
    (h : way ∈ c.ways language) : way.2.size < c.size := by
  have hdescent : way.2 ∈ c.descents language := by
    rw [← map_snd_ways]
    exact List.mem_map_of_mem h
  exact size_lt_of_mem_descents hdescent

/-! ## Nesting -/

/-- The nested steps that lowering a node takes. -/
def nesting (language : Language) (c : Concrete) : Nat :=
  ((c.ways language).attach.map fun way => way.val.1 + nesting language way.val.2).foldr max
    (c.ownSteps language)
termination_by c.size
decreasing_by exact size_lt_of_mem_ways way.property

/-- The nested steps that lowering a file takes. -/
def nestingBelow (language : Language) (root : Concrete) : Nat :=
  ((root.children.filter fun d => d.label.kept).map fun d => 3 + d.nesting language).foldr max 2

/-- A largest number is within a bound if all are. -/
theorem foldr_max_le_iff {ns : List Nat} {n bound : Nat} :
    ns.foldr max n ≤ bound ↔ n ≤ bound ∧ ∀ m ∈ ns, m ≤ bound := by
  induction ns with
  | nil => simp
  | cons m ns ih =>
      rw [List.foldr_cons, Nat.max_le, ih, List.forall_mem_cons]
      constructor
      · rintro ⟨hm, hn, hns⟩
        exact ⟨hn, hm, hns⟩
      · rintro ⟨hn, hm, hns⟩
        exact ⟨hm, hn, hns⟩

/-- A node is nested within a bound exactly if the bound allows the steps of the node
itself and every way with the nesting of the tree that it leads to. -/
theorem nesting_le_iff {language : Language} {c : Concrete} {bound : Nat} :
    c.nesting language ≤ bound ↔ c.ownSteps language ≤ bound ∧
      ∀ way ∈ c.ways language, way.1 + way.2.nesting language ≤ bound := by
  rw [nesting, foldr_max_le_iff]
  simp only [List.forall_mem_map, List.mem_attach, forall_const, Subtype.forall]

/-- A file is nested within a bound exactly if the bound allows to go through its
children and every kept child is. -/
theorem nestingBelow_le_iff {language : Language} {root : Concrete} {bound : Nat} :
    root.nestingBelow language ≤ bound ↔ 2 ≤ bound ∧
      ∀ d ∈ root.children.filter (fun d => d.label.kept), 3 + d.nesting language ≤ bound := by
  rw [nestingBelow, foldr_max_le_iff, List.forall_mem_map]

/-- A node from which lowering goes on to the kept children is nested like these, behind
its detour. -/
theorem nesting_le_iff_of_ordinary {language : Language} {c : Concrete} {bound : Nat}
    (hfunction : c.declaresFunction language = false) (hcall : c.isCall = false)
    (hmember : c.isMember = false) (hidentifier : c.label.kind ≠ "identifier") :
    c.nesting language ≤ bound ↔ c.nestingBelow language ≤ bound - c.detour language := by
  have hown : c.ownSteps language = 2 + c.detour language := by
    simp [ownSteps, hfunction, hcall, hmember, hidentifier]
  have hways : c.ways language =
      (c.children.filter fun d => d.label.kept).map (3 + c.detour language, ·) := by
    simp [ways, descents, hfunction, hcall, hmember, hidentifier]
  rw [nesting_le_iff, hown, hways, nestingBelow_le_iff, List.forall_mem_map]
  have hsteps : 2 + c.detour language ≤ bound ↔ 2 ≤ bound - c.detour language := by omega
  rw [hsteps]
  refine and_congr_right fun hbound => forall₂_congr fun d _ => ?_
  dsimp only
  omega

/-- A construct with no rule of its own is nested like its children. -/
theorem nesting_le_iff_of_plain {language : Language} {c : Concrete} {bound : Nat}
    (hfunction : c.label.kind ∉ language.functionKinds) (hcall : c.label.kind ≠ "call_expression")
    (hmember : c.isMember = false) (hidentifier : c.label.kind ≠ "identifier") :
    c.nesting language ≤ bound ↔ c.nestingBelow language ≤ bound := by
  have hdetour : c.detour language = 0 := by simp [detour, hfunction, hcall]
  rw [nesting_le_iff_of_ordinary (by simp [declaresFunction, hfunction]) (by simp [isCall, hcall])
    hmember hidentifier, hdetour, Nat.sub_zero]

/-! ## Lowering within a budget -/

/-- A step succeeds if the budget allows it and what lies behind it succeeds. -/
theorem isSome_descend {α : Type} {budget : Nat} {run : Nat → Option α} :
    (descend run budget).isSome = true ↔ 1 ≤ budget ∧ (run (budget - 1)).isSome = true := by
  cases budget with
  | zero => simp [descend]
  | succ rest => simp [descend]

/-- All steps of a list succeed exactly if each does. -/
theorem isSome_mapM {α β : Type} {f : α → Option β} {as : List α} :
    (as.mapM f).isSome = true ↔ ∀ a ∈ as, (f a).isSome = true := by
  induction as with
  | nil => simp
  | cons a as ih =>
      rw [List.mapM_cons, List.forall_mem_cons, ← ih]
      cases f a with
      | none => simp
      | some b =>
          cases as.mapM f with
          | none => simp
          | some bs => simp

/-- A tree and its children are lowered exactly within the budgets that are at least
their nesting. -/
structure LowersWithin (language : Language) (c : Concrete) : Prop where
  node : ∀ budget, (c.lower language budget).isSome = true ↔ c.nesting language ≤ budget
  inner : ∀ budget,
    (c.lowerChildren language budget).isSome = true ↔ c.nestingBelow language ≤ budget

section Lowering

variable {language : Language} {c : Concrete} {budget : Nat}

/-- The loop over some children of a node succeeds exactly if the budget allows it and
each of them. -/
theorem isSome_each {cs : List Concrete} (hcs : ∀ d ∈ cs, LowersWithin language d) :
    (Pending.each (cs.map fun d => ⟨d.label, d.lower language, d.lowerChildren language⟩)
      budget).isSome = true ↔ 1 ≤ budget ∧
      ∀ d ∈ cs.filter (fun d => d.label.kept), 2 + d.nesting language ≤ budget := by
  rw [Pending.each, isSome_descend, isSome_mapM, List.filter_map, List.forall_mem_map]
  refine and_congr_right fun hbudget => forall₂_congr fun d hd => ?_
  have hlower := (hcs d (List.mem_filter.mp hd).1).node (budget - 1 - 1)
  simp only [isSome_descend, hlower]
  omega

variable (hcs : ∀ d ∈ c.children, LowersWithin language d)
include hcs

/-- The children of a node are gathered exactly if the budget allows them. -/
theorem isSome_gather_children :
    (Pending.gather (pending language c.children) budget).isSome = true ↔
      c.nestingBelow language ≤ budget := by
  rw [pending_eq_map, Pending.gather, isSome_descend, isSome_each hcs, nestingBelow_le_iff]
  constructor
  · rintro ⟨hbudget, hloop, hchildren⟩
    refine ⟨by omega, fun d hd => ?_⟩
    have hd := hchildren d hd
    omega
  · rintro ⟨hbudget, hchildren⟩
    refine ⟨by omega, by omega, fun d hd => ?_⟩
    have hd := hchildren d hd
    omega

/-- An ordinary construct is lowered exactly if the budget allows its children. -/
theorem isSome_lowerOther :
    (lowerOther c.label (pending language c.children) budget).isSome = true ↔
      c.nestingBelow language ≤ budget := by
  rw [lowerOther, Option.isSome_map, isSome_gather_children hcs]

/-- An expression statement is lowered exactly if the budget allows its nesting. -/
theorem isSome_lowerStatement (hkind : c.label.kind = "expression_statement") :
    (lowerStatement c.label (pending language c.children) budget).isSome = true ↔
      c.nesting language ≤ budget := by
  rw [lowerStatement, Option.isSome_map, isSome_gather_children hcs]
  refine (nesting_le_iff_of_plain ?_ ?_ ?_ ?_).symm
  · simp [hkind, Language.functionKinds]
  · simp [hkind]
  · simp [isMember, hkind]
  · simp [hkind]

/-- A rule that is left for that of ordinary constructs costs a step. -/
theorem isSome_descend_lowerOther (hdetour : c.detour language = 1)
    (hfunction : c.declaresFunction language = false) (hcall : c.isCall = false)
    (hmember : c.isMember = false) (hidentifier : c.label.kind ≠ "identifier") :
    (descend (lowerOther c.label (pending language c.children)) budget).isSome = true ↔
      c.nesting language ≤ budget := by
  rw [isSome_descend, isSome_lowerOther hcs,
    nesting_le_iff_of_ordinary hfunction hcall hmember hidentifier, hdetour]
  refine and_iff_right_of_imp fun hnesting => ?_
  have hsteps := (nestingBelow_le_iff.mp hnesting).1
  omega

/-- A declaration of a function is lowered exactly if the budget allows its
nesting. -/
theorem isSome_lowerFunction (hkind : c.label.kind ∈ language.functionKinds) :
    (lowerFunction c.label (pending language c.children) budget).isSome = true ↔
      c.nesting language ≤ budget := by
  obtain ⟨-, hcall, hmember, hidentifier, -⟩ := ne_of_mem_functionKinds hkind
  rw [lowerFunction, field?_pending]
  cases hname : c.field? "name" with
  | none =>
      refine isSome_descend_lowerOther hcs ?_ ?_ ?_ ?_ hidentifier
      · simp [detour, hkind, hname]
      · simp [declaresFunction, hname]
      · simp [isCall, hcall]
      · simp [isMember, hmember]
  | some name =>
      have hdeclares : c.declaresFunction language = true := by
        simp [declaresFunction, hkind, hname]
      have hways : c.ways language =
          ((c.children.eraseP fun d => d.label.field == some "name").filter
            fun d => d.label.kept).map (3, ·) := by
        simp [ways, descents, hdeclares]
      have hrest : ∀ d ∈ c.children.eraseP (fun d => d.label.field == some "name"),
          LowersWithin language d := fun d hd => hcs d (List.mem_of_mem_eraseP hd)
      have hloop := @isSome_each language (budget - 1) _ hrest
      simp only [Option.map_some, isSome_descend, Option.isSome_map, pending_eq_map,
        List.eraseP_map]
      rw [nesting_le_iff, hways, ownSteps, if_pos hdeclares, List.forall_mem_map]
      -- the rule takes one step and its loop another one
      constructor
      · rintro ⟨hbudget, heach⟩
        obtain ⟨hloop, hchildren⟩ := hloop.mp heach
        refine ⟨by omega, fun d hd => ?_⟩
        have hd := hchildren d hd
        dsimp only
        omega
      · rintro ⟨hbudget, hchildren⟩
        refine ⟨by omega, hloop.mpr ⟨by omega, fun d hd => ?_⟩⟩
        have hd : 3 + d.nesting language ≤ budget := hchildren d hd
        omega

/-- A member access is lowered exactly if the budget allows its nesting. -/
theorem isSome_lowerMember (hkind : c.label.kind = "member_expression") :
    (lowerMember c.label (pending language c.children) budget).isSome = true ↔
      c.nesting language ≤ budget := by
  have hfunction : c.declaresFunction language = false := by
    simp [declaresFunction, hkind, Language.functionKinds]
  by_cases hmember : c.isMember = true
  · have hparts := hmember
    simp only [isMember, Bool.and_eq_true, Option.isNone_iff_eq_none] at hparts
    obtain ⟨⟨⟨-, hobject⟩, hproperty⟩, hchain⟩ := hparts
    obtain ⟨object, hobject⟩ := Option.isSome_iff_exists.mp hobject
    obtain ⟨property, hproperty⟩ := Option.isSome_iff_exists.mp hproperty
    have hways : c.ways language = [(1, object)] := by
      simp [ways, descents, hfunction, isCall, hmember, hkind, hobject]
    have hown : c.ownSteps language = 0 := by
      simp [ownSteps, hfunction, isCall, hmember, hkind]
    have hnesting : c.nesting language ≤ budget ↔ 1 + object.nesting language ≤ budget := by
      rw [nesting_le_iff, hown, hways, List.forall_mem_singleton]
      simp
    have hlower := (hcs object (List.mem_of_find?_eq_some hobject)).node (budget - 1)
    simp only [lowerMember, field?_pending, hobject, hproperty, hchain, Option.map_some,
      Option.map_none, Option.isSome_map, isSome_descend, hlower, hnesting]
    omega
  · have hordinary : lowerMember c.label (pending language c.children) budget =
        lowerOther c.label (pending language c.children) budget := by
      simp only [lowerMember, field?_pending]
      cases hobject : c.field? "object" with
      | none => rfl
      | some object =>
          cases hproperty : c.field? "property" with
          | none => rfl
          | some property =>
              cases hchain : c.field? "optional_chain" with
              | none => simp [isMember, hkind, hobject, hproperty, hchain] at hmember
              | some chain => rfl
    rw [hordinary, isSome_lowerOther hcs]
    refine (nesting_le_iff_of_plain ?_ ?_ ?_ ?_).symm
    · simp [hkind, Language.functionKinds]
    · simp [hkind]
    · simpa using hmember
    · simp [hkind]

/-- The arguments of a call are lowered within what its rule leaves of a budget exactly
if the budget allows the way to the arguments and each of them. -/
theorem isSome_lowerArguments (hbudget : 1 ≤ budget) :
    (lowerArguments (pending language c.children) (budget - 1)).isSome = true ↔
      c.argumentCost - 1 ≤ budget ∧
        ∀ d ∈ c.argumentTrees, c.argumentCost + d.nesting language ≤ budget := by
  rw [lowerArguments, field?_pending, argumentTrees, argumentCost]
  cases harguments : c.field? "arguments" with
  | none => simpa using hbudget
  | some a =>
      have ha := hcs a (List.mem_of_find?_eq_some harguments)
      simp only [Option.map_some, Option.any_some]
      split_ifs with hlist
      · rw [ha.inner, nestingBelow_le_iff]
        refine and_congr (by omega) (forall₂_congr fun d _ => ?_)
        omega
      · rw [Option.isSome_map, isSome_descend, ha.node, List.forall_mem_singleton]
        omega

/-- A call is lowered exactly if the budget allows its nesting. -/
theorem isSome_lowerCall (hkind : c.label.kind = "call_expression") :
    (lowerCall c.label (pending language c.children) budget).isSome = true ↔
      c.nesting language ≤ budget := by
  have hfunction : c.declaresFunction language = false := by
    simp [declaresFunction, hkind, Language.functionKinds]
  simp only [lowerCall, field?_pending]
  cases hcallee : c.field? "function" with
  | none =>
      refine isSome_descend_lowerOther hcs ?_ hfunction ?_ ?_ ?_
      · simp [detour, hkind, hcallee]
      · simp [isCall, hcallee]
      · simp [isMember, hkind]
      · simp [hkind]
  | some callee =>
      have hcall : c.isCall = true := by simp [isCall, hkind, hcallee]
      have hways : c.ways language =
          (2, callee) :: c.argumentTrees.map (c.argumentCost, ·) := by
        simp [ways, hfunction, hcall, hcallee]
      have hown : c.ownSteps language = c.argumentCost - 1 := by
        simp [ownSteps, hfunction, hcall]
      have hlower := (hcs callee (List.mem_of_find?_eq_some hcallee)).node (budget - 1 - 1)
      have hboth (x : Option (List Node)) (y : Option Node) (f : List Node → Node → Node) :
          (do let a ← x; let b ← y; return f a b : Option Node).isSome = true ↔
            x.isSome = true ∧ y.isSome = true := by
        cases x <;> cases y <;> simp
      have hnesting : c.nesting language ≤ budget ↔ c.argumentCost - 1 ≤ budget ∧
          2 + callee.nesting language ≤ budget ∧
          ∀ d ∈ c.argumentTrees, c.argumentCost + d.nesting language ≤ budget := by
        rw [nesting_le_iff, hown, hways, List.forall_mem_cons, List.forall_mem_map]
      rw [Option.map_some, isSome_descend, hboth, isSome_descend, hlower, hnesting]
      constructor
      · rintro ⟨hbudget, harguments, hstep, hle⟩
        obtain ⟨hlist, harguments⟩ := (isSome_lowerArguments hcs hbudget).mp harguments
        exact ⟨hlist, by omega, harguments⟩
      · rintro ⟨hlist, hle, harguments⟩
        have hbudget : 1 ≤ budget := by omega
        exact ⟨hbudget, (isSome_lowerArguments hcs hbudget).mpr ⟨hlist, harguments⟩, by omega,
          by omega⟩

end Lowering

/-- A tree is lowered exactly within the budgets that are at least its nesting, and
so are its children. -/
theorem lowersWithin (language : Language) (c : Concrete) : LowersWithin language c := by
  induction c using Concrete.induction with
  | step l cs hcs =>
      refine ⟨fun budget => ?_, fun budget => ?_⟩
      · rw [lower, assemble]
        simp only [List.contains_iff_mem, beq_iff_eq]
        split_ifs with hfunction hstatement hcall hmember hidentifier
        · exact isSome_lowerFunction (c := mk l cs) hcs hfunction
        · exact isSome_lowerStatement (c := mk l cs) hcs hstatement
        · exact isSome_lowerCall (c := mk l cs) hcs hcall
        · exact isSome_lowerMember (c := mk l cs) hcs hmember
        · have hnesting : (mk l cs).nesting language ≤ budget := by
            rw [nesting_le_iff]
            simp [ownSteps, ways, descents, declaresFunction, isCall, isMember, hidentifier,
              Language.functionKinds]
          simp [hnesting]
        · have hplain : (mk l cs).isMember = false := by simp [isMember, hmember]
          exact (isSome_lowerOther (c := mk l cs) hcs).trans
            (nesting_le_iff_of_plain (c := mk l cs) hfunction hcall hplain hidentifier).symm
      · rw [lowerChildren]
        exact isSome_gather_children (c := mk l cs) hcs

/-- A file is not lowered within a budget exactly if it is nested more deeply. -/
theorem lowerChildren_eq_none_iff {language : Language} {root : Concrete} {budget : Nat} :
    root.lowerChildren language budget = none ↔ budget < root.nestingBelow language := by
  rw [← Option.not_isSome_iff_eq_none, (lowersWithin language root).inner, Nat.not_le]

end Concrete
end Tree
end ContractAudit
