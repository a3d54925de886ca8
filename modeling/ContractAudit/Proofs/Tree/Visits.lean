import Mathlib.Data.List.Basic
import ContractAudit.Proofs.Tree.Counts

/-!
# What lowering visits

Lowering goes down from a node to some of its children, and past an argument
list to the arguments in it.  The nodes that it comes to, each before those below
it, become the nodes of the lowered tree one by one and in the same order.
Whatever is counted in a lowered program is therefore counted at a visited node,
also where lowering leaves out something that could count.

Main results:

- Theorem {lit}`Concrete.children_image`: the children of an image are the images
  of the trees that lowering goes on to.
- Theorem {lit}`Concrete.preorder_image`: the nodes of an image are the images of
  the visited nodes, in order.
- Theorem {lit}`countTree_of_visits`: what counting an extracted program adds to
  a tally.
-/

namespace ContractAudit
namespace Tree
namespace Concrete

/-! ## The way down -/

/-- The trees that become the arguments of a call. -/
def argumentTrees (c : Concrete) : List Concrete :=
  match c.field? "arguments" with
  | none => []
  | some a => if a.label.kind == "arguments" then a.children.filter fun d => d.label.kept else [a]

/-- The trees that lowering goes on to from a node, in order. -/
def descents (language : Language) (c : Concrete) : List Concrete :=
  if c.declaresFunction language then
    (c.children.eraseP fun d => d.label.field == some "name").filter fun d => d.label.kept
  else if c.isCall then (c.field? "function").toList ++ c.argumentTrees
  else if c.isMember then (c.field? "object").toList
  else if c.label.kind == "identifier" then []
  else c.children.filter fun d => d.label.kept

/-- The images of the arguments of a call. -/
theorem arguments_eq_map (language : Language) (c : Concrete) :
    c.arguments language = c.argumentTrees.map (image language) := by
  rw [arguments, argumentTrees]
  cases c.field? "arguments" with
  | none => rfl
  | some a =>
      dsimp only
      split_ifs
      · rw [inner_eq_map]
      · rfl

/-- The children of an image are the images of the trees that lowering goes on to. -/
theorem children_image (language : Language) (c : Concrete) :
    (c.image language).children = (c.descents language).map (image language) := by
  have hform := form_image language c
  generalize c.image language = m at hform
  cases hform with
  | function hkind hname => simp [Node.children, descents, declaresFunction, hkind, hname]
  | statement hkind hinner =>
      have hdescents : c.descents language = c.children.filter fun d => d.label.kept := by
        simp [descents, declaresFunction, isCall, isMember, hkind, Language.functionKinds]
      rw [hdescents, ← inner_eq_map, hinner]
      rfl
  | call hkind hcallee =>
      have hdescents : c.descents language = (c.field? "function").toList ++ c.argumentTrees := by
        simp [descents, declaresFunction, isCall, hkind, hcallee, Language.functionKinds]
      rw [hdescents, List.map_append, ← arguments_eq_map, hcallee]
      rfl
  | member hkind hobject hproperty hchain =>
      simp [Node.children, descents, declaresFunction, isCall, isMember, hkind, hobject, hproperty,
        hchain, Language.functionKinds]
  | identifier hkind =>
      simp [Node.children, descents, declaresFunction, isCall, isMember, hkind,
        Language.functionKinds]
  | other hfunction hstatement hcall hmember hidentifier =>
      rw [Node.children, inner_eq_map]
      simp [descents, declaresFunction_eq_false hfunction, isCall_eq_false hcall,
        isMember_eq_false hmember, hidentifier]

/-- Lowering goes on to children, or to the children of an argument list. -/
theorem mem_children_of_mem_descents {language : Language} {c d : Concrete}
    (h : d ∈ c.descents language) : d ∈ c.children ∨ ∃ a ∈ c.children, d ∈ a.children := by
  unfold descents at h
  split_ifs at h
  · exact .inl (List.mem_of_mem_eraseP (List.mem_filter.mp h).1)
  · rcases List.mem_append.mp h with hcallee | hargument
    · exact .inl (List.mem_of_find?_eq_some (Option.mem_toList.mp hcallee))
    · unfold argumentTrees at hargument
      split at hargument
      next => simp at hargument
      next a ha =>
        have hmem : a ∈ c.children := List.mem_of_find?_eq_some ha
        split_ifs at hargument
        · exact .inr ⟨a, hmem, (List.mem_filter.mp hargument).1⟩
        · obtain rfl := List.mem_singleton.mp hargument
          exact .inl hmem
  · exact .inl (List.mem_of_find?_eq_some (Option.mem_toList.mp h))
  · simp at h
  · exact .inl (List.mem_filter.mp h).1

/-- A child is smaller than its parent. -/
theorem size_lt_of_mem_children {c d : Concrete} (h : d ∈ c.children) : d.size < c.size := by
  have hle : ∀ cs : List Concrete, d ∈ cs → d.size ≤ sizeAll cs := by
    intro cs hcs
    induction cs with
    | nil => simp at hcs
    | cons e cs ih =>
        rw [sizeAll]
        rcases List.mem_cons.mp hcs with rfl | hcs
        · exact Nat.le_add_right _ _
        · exact Nat.le_add_left_of_le (ih hcs)
  rw [size_eq c]
  exact Nat.lt_succ_of_le (hle c.children h)

/-- Lowering goes down to smaller trees. -/
theorem size_lt_of_mem_descents {language : Language} {c d : Concrete}
    (h : d ∈ c.descents language) : d.size < c.size := by
  rcases mem_children_of_mem_descents h with hchild | ⟨a, ha, hchild⟩
  · exact size_lt_of_mem_children hchild
  · exact Nat.lt_trans (size_lt_of_mem_children hchild) (size_lt_of_mem_children ha)

/-! ## Visited nodes -/

/-- The nodes that lowering a tree comes to, each before those below it. -/
def visited (language : Language) (c : Concrete) : List Concrete :=
  c :: (c.descents language).attach.flatMap fun d => visited language d.val
termination_by c.size
decreasing_by exact size_lt_of_mem_descents d.property

/-- The nodes that lowering a file comes to. -/
def visitedBelow (language : Language) (root : Concrete) : List Concrete :=
  (root.children.filter fun c => c.label.kept).flatMap (visited language)

/-- A node is visited before the trees that lowering goes on to. -/
theorem visited_eq_cons (language : Language) (c : Concrete) :
    c.visited language = c :: (c.descents language).flatMap (visited language) := by
  rw [visited, ← List.flatMap_map Subtype.val, List.attach_map_subtype_val]

/-- The nodes of an image are the images of the visited nodes, in order. -/
theorem preorder_image (language : Language) (c : Concrete) :
    (c.image language).preorder = (c.visited language).map (image language) := by
  induction hsize : c.size using Nat.strongRecOn generalizing c with
  | ind n ih =>
      subst hsize
      have hbelow : ∀ d ∈ c.descents language,
          (d.image language).preorder = (d.visited language).map (image language) :=
        fun d hd => ih d.size (size_lt_of_mem_descents hd) d rfl
      rw [Node.preorder_eq_cons, Node.preorderAll_eq_flatMap, children_image, visited_eq_cons,
        List.map_cons, List.flatMap_map, List.map_flatMap]
      exact congrArg _ (List.flatMap_congr hbelow)

/-- The nodes of a lowered file are the images of the nodes visited below its root. -/
theorem flatMap_preorder_inner (language : Language) (root : Concrete) :
    (root.inner language).flatMap Node.preorder =
      (root.visitedBelow language).map (image language) := by
  rw [inner_eq_map, visitedBelow, List.flatMap_map, List.map_flatMap]
  exact List.flatMap_congr fun c _ => preorder_image language c

end Concrete

open Coverage (Tally)

/-- Counting an extracted program adds the functions declared and the assertions
stated at the visited nodes. -/
theorem countTree_of_visits {budget : Nat} {path : Files.Pathname} {language : Language}
    {tree : Concrete} {program : Node} (h : programWithin budget path language tree = .ok program)
    (t : Tally) :
    t.countTree program =
      (t.add ((tree.visitedBelow language).countP (Concrete.declaresFunction language))
        ((tree.visitedBelow language).countP Concrete.statesAssertion), none) := by
  have hwhole := whole_of_programWithin h
  obtain ⟨-, rfl⟩ := programWithin_eq_ok h
  have hcount (p : Node → Bool) (hroot : p (.program (tree.inner language) 1) = false) :
      (Node.program (tree.inner language) 1).preorder.countP p =
        (tree.visitedBelow language).countP (p ∘ Concrete.image language) := by
    rw [Node.preorder_eq_cons, Node.preorderAll_eq_flatMap, List.countP_cons, hroot,
      Node.children, Concrete.flatMap_preorder_inner, List.countP_map]
    rfl
  rw [Tally.countTree_of_whole t hwhole, Node.functionCount, Node.assertionCount,
    hcount _ rfl, hcount _ rfl]
  have hfunctions : Node.isFunction ∘ Concrete.image language =
      Concrete.declaresFunction language := funext (Concrete.isFunction_image language)
  have hassertions : Node.isAssertion ∘ Concrete.image language = Concrete.statesAssertion :=
    funext (Concrete.isAssertion_image language)
  rw [hfunctions, hassertions]

end Tree
end ContractAudit
