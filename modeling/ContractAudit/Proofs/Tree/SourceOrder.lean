import Mathlib.Data.List.Flatten
import ContractAudit.Proofs.Tree.Visits

/-!
# Lowered nodes stand in source order

Every node of a lowered program stands for a node of the concrete tree: it has
the kind of that node and its line.  Where callees stand before their arguments,
a walk through the program comes to these nodes in the order of the source and
to each at most once.  Lines that do not fall in the concrete tree therefore do
not fall along the walk.

Main results:

- Theorem {lit}`Concrete.stamp?_image`: an image has the kind and the line of its
  node.
- Theorem {lit}`Concrete.visited_sublist`: the nodes that lowering comes to are
  part of the listing of the tree.
- Theorem {lit}`walk_keeps_source_order`: the walk through an extracted program
  against the listing of the concrete tree.
-/

namespace ContractAudit
namespace Tree

/-! ## Kinds and lines -/

namespace Node

/-- The kind of concrete node that a node stands for, with its line.  The root of
a program and a foreign value stand for none. -/
def stamp? : Node → Option (String × Int)
  | program _ _ => none
  | function _ _ _ isGenerator line =>
    some (if isGenerator then "generator_function_declaration" else "function_declaration", line)
  | statement _ line => some ("expression_statement", line)
  | call _ _ _ line => some ("call_expression", line)
  | identifier _ line => some ("identifier", line)
  | member _ _ line => some ("member_expression", line)
  | other kind _ line => some (kind, line)
  | foreign _ => none

/-- The line of a node; a foreign value has none, and zero stands for it. -/
def line : Node → Int
  | program _ line => line
  | function _ _ _ _ line => line
  | statement _ line => line
  | call _ _ _ line => line
  | identifier _ line => line
  | member _ _ line => line
  | other _ _ line => line
  | foreign _ => 0

/-- The line of a stamp is the line of its node. -/
theorem line_of_stamp? {n : Node} {kind : String} {line : Int}
    (h : n.stamp? = some (kind, line)) : n.line = line := by
  cases n <;> simp_all [stamp?, Node.line]

end Node

namespace Concrete

/-- The kind and the line of a node. -/
def stamp (c : Concrete) : String × Int :=
  (c.label.kind, c.label.line)

/-- A declaration of a function has one of two kinds, told apart by the first
word. -/
theorem kind_of_mem_functionKinds {language : Language} {kind : String}
    (h : kind ∈ language.functionKinds) :
    (if "generator_".isPrefixOf kind = true then "generator_function_declaration"
      else "function_declaration") = kind := by
  simp only [Language.functionKinds, List.mem_cons, List.not_mem_nil, or_false] at h
  rcases h with rfl | rfl
  · decide +kernel
  · decide +kernel

/-- An image has the kind and the line of its node. -/
theorem stamp?_image (language : Language) (c : Concrete) :
    (c.image language).stamp? = some c.stamp := by
  have hform := form_image language c
  generalize c.image language = m at hform
  cases hform with
  | function hkind hname => simp [Node.stamp?, stamp, kind_of_mem_functionKinds hkind]
  | statement hkind => simp [Node.stamp?, stamp, hkind]
  | call hkind => simp [Node.stamp?, stamp, hkind]
  | member hkind => simp [Node.stamp?, stamp, hkind]
  | identifier hkind => simp [Node.stamp?, stamp, hkind]
  | other => rfl

/-! ## The order of the visited nodes -/

/-- A tree in which every call that has both a callee and arguments has the callee
first. -/
def CalleesFirst (tree : Concrete) : Prop :=
  ∀ c ∈ tree.preorder, c.label.kind = "call_expression" →
    (c.field? "function").isSome = true → (c.field? "arguments").isSome = true →
    c.children.findIdx (fun d => d.label.field == some "function") <
      c.children.findIdx fun d => d.label.field == some "arguments"

instance (tree : Concrete) : Decidable tree.CalleesFirst :=
  inferInstanceAs (Decidable (∀ c ∈ tree.preorder, c.label.kind = "call_expression" →
    (c.field? "function").isSome = true → (c.field? "arguments").isSome = true →
    c.children.findIdx (fun d => d.label.field == some "function") <
      c.children.findIdx fun d => d.label.field == some "arguments"))

/-- The listing of a child is part of the listing of its parent. -/
theorem mem_preorder_of_mem_children {c d e : Concrete} (hd : d ∈ c.children)
    (he : e ∈ d.preorder) : e ∈ c.preorder := by
  rw [preorder_eq_cons c]
  exact List.mem_cons_of_mem c (List.mem_flatMap.mpr ⟨d, hd, he⟩)

/-- A tree is the first of its listing. -/
theorem mem_preorder_self (c : Concrete) : c ∈ c.preorder := by
  rw [preorder_eq_cons c]
  exact List.mem_cons_self

/-- Callees stand first in the children too. -/
theorem CalleesFirst.of_mem {c d : Concrete} (h : c.CalleesFirst) (hd : d ∈ c.children) :
    d.CalleesFirst := by
  intro e he
  exact h e (mem_preorder_of_mem_children hd he)

/-- The first elements of two sorts, of which the first is met earlier, stand in
this order. -/
theorem pair_sublist_of_findIdx_lt {α : Type} {p q : α → Bool} {as : List α} {a b : α}
    (ha : as.find? p = some a) (hb : as.find? q = some b)
    (hlt : as.findIdx p < as.findIdx q) : [a, b].Sublist as := by
  induction as with
  | nil => simp at ha
  | cons x as ih =>
      by_cases hq : q x = true
      · simp [List.findIdx_cons, hq] at hlt
      · rw [List.find?_cons_of_neg hq] at hb
        by_cases hp : p x = true
        · rw [List.find?_cons_of_pos hp] at ha
          obtain rfl : x = a := Option.some.inj ha
          exact (List.singleton_sublist.mpr (List.mem_of_find?_eq_some hb)).cons_cons x
        · rw [List.find?_cons_of_neg hp] at ha
          have hrest : as.findIdx p < as.findIdx q := by
            simpa [List.findIdx_cons, hp, hq] using hlt
          exact (ih ha hb hrest).cons x

/-- The callee and the arguments of a call stand among its children in this
order. -/
theorem CalleesFirst.sublist {c callee a : Concrete} (h : c.CalleesFirst)
    (hkind : c.label.kind = "call_expression") (hcallee : c.field? "function" = some callee)
    (ha : c.field? "arguments" = some a) : [callee, a].Sublist c.children := by
  apply pair_sublist_of_findIdx_lt hcallee ha
  exact h c c.mem_preorder_self hkind (by rw [hcallee]; rfl) (by rw [ha]; rfl)

/-- Listings of some of the trees in a list, each cut down, are part of the listing
of the whole list. -/
theorem flatMap_sublist {f : Concrete → List Concrete} {as bs : List Concrete}
    (hsub : as.Sublist bs) (h : ∀ a ∈ as, (f a).Sublist a.preorder) :
    (as.flatMap f).Sublist (bs.flatMap preorder) :=
  (List.Sublist.flatMap_right as h).trans (hsub.flatMap preorder)

/-- The arguments of a call are listed in the listing of the child that holds
them. -/
theorem arguments_sublist {language : Language} {c a : Concrete}
    (ha : c.field? "arguments" = some a)
    (h : ∀ d ∈ c.argumentTrees, (d.visited language).Sublist d.preorder) :
    (c.argumentTrees.flatMap (visited language)).Sublist a.preorder := by
  rw [argumentTrees, ha] at h ⊢
  dsimp only at h ⊢
  split_ifs at h ⊢ with hlist
  · rw [preorder_eq_cons a]
    exact (flatMap_sublist List.filter_sublist h).cons a
  · rw [List.flatMap_singleton]
    exact h a List.mem_cons_self

/-- What lowering comes to below a node is part of the listing below it. -/
theorem flatMap_descents_sublist {language : Language} {c : Concrete} (hcalls : c.CalleesFirst)
    (h : ∀ d ∈ c.descents language, (d.visited language).Sublist d.preorder) :
    ((c.descents language).flatMap (visited language)).Sublist (c.children.flatMap preorder) := by
  unfold descents at h ⊢
  split_ifs at h ⊢ with hfunction hcall hmember hidentifier
  · exact flatMap_sublist (List.filter_sublist.trans List.eraseP_sublist) h
  · simp only [isCall, Bool.and_eq_true, beq_iff_eq] at hcall
    obtain ⟨callee, hcallee⟩ := Option.isSome_iff_exists.mp hcall.2
    rw [hcallee, Option.toList_some, List.singleton_append] at h ⊢
    cases ha : c.field? "arguments" with
    | none =>
        have hnone : c.argumentTrees = [] := by rw [argumentTrees, ha]
        rw [hnone] at h ⊢
        exact flatMap_sublist (List.singleton_sublist.mpr (List.mem_of_find?_eq_some hcallee)) h
    | some a =>
        -- the callee is listed in one child and the arguments in a later one
        have hfirst : (callee.visited language).Sublist callee.preorder :=
          h callee List.mem_cons_self
        have hsecond : (c.argumentTrees.flatMap (visited language)).Sublist a.preorder :=
          arguments_sublist ha fun d hd => h d (List.mem_cons_of_mem callee hd)
        have hpair := (hcalls.sublist hcall.1 hcallee ha).flatMap preorder
        rw [List.flatMap_cons, List.flatMap_singleton] at hpair
        exact (hfirst.append hsecond).trans hpair
  · refine flatMap_sublist ?_ h
    cases hobject : c.field? "object" with
    | none => exact List.nil_sublist _
    | some object => exact List.singleton_sublist.mpr (List.mem_of_find?_eq_some hobject)
  · exact List.nil_sublist _
  · exact flatMap_sublist List.filter_sublist h

/-- Whatever property goes down from a node to its children goes down to the trees
that lowering goes on to. -/
theorem of_mem_descents {P : Concrete → Prop}
    (hdown : ∀ c d : Concrete, P c → d ∈ c.children → P d) {language : Language} {c d : Concrete}
    (hc : P c) (hd : d ∈ c.descents language) : P d := by
  rcases mem_children_of_mem_descents hd with hchild | ⟨a, ha, hchild⟩
  · exact hdown c d hc hchild
  · exact hdown a d (hdown c a hc ha) hchild

/-- The nodes that lowering comes to are part of the listing of the tree, in its
order. -/
theorem visited_sublist {language : Language} {c : Concrete} (hcalls : c.CalleesFirst) :
    (c.visited language).Sublist c.preorder := by
  induction hsize : c.size using Nat.strongRecOn generalizing c with
  | ind n ih =>
      subst hsize
      rw [visited_eq_cons, preorder_eq_cons]
      refine (flatMap_descents_sublist hcalls ?_).cons_cons c
      intro d hd
      have hd' : d.CalleesFirst := of_mem_descents (fun _ _ hc hd => hc.of_mem hd) hcalls hd
      exact ih d.size (size_lt_of_mem_descents hd) hd' rfl

/-- What lowering a file comes to is part of the listing below its root. -/
theorem visitedBelow_sublist {language : Language} {root : Concrete} (hcalls : root.CalleesFirst) :
    (root.visitedBelow language).Sublist (preorderAll root.children) := by
  rw [visitedBelow, preorderAll_eq_flatMap]
  apply flatMap_sublist List.filter_sublist
  intro c hc
  exact visited_sublist (hcalls.of_mem (List.mem_filter.mp hc).1)

end Concrete

/-! ## The walk through a program -/

/-- The walk through an extracted program: its root, then the images of the nodes
that lowering comes to. -/
theorem walk_of_programWithin {budget : Nat} {path : Files.Pathname} {language : Language}
    {tree : Concrete} {program : Node} (h : programWithin budget path language tree = .ok program) :
    program.walk =
      ⟨program :: (tree.visitedBelow language).map (Concrete.image language), none⟩ := by
  rw [Node.walk_of_whole (whole_of_programWithin h)]
  obtain ⟨-, rfl⟩ := programWithin_eq_ok h
  rw [Node.preorder_eq_cons, Node.preorderAll_eq_flatMap, Node.children,
    Concrete.flatMap_preorder_inner]

/-- The lines of images are the lines of their nodes. -/
theorem map_line_image (language : Language) (cs : List Concrete) :
    (cs.map (Concrete.image language)).map Node.line = cs.map fun c => c.label.line := by
  rw [List.map_map]
  apply List.map_congr_left
  intro c _
  exact Node.line_of_stamp? (c.stamp?_image language)

/-- Where callees stand before their arguments, the walk through an extracted
program ends, and the nodes after its root have the kinds and the lines of nodes
of the concrete tree, in its order and each at most once.  Where rows do not fall
in the listing of the concrete tree, lines do not fall along the walk; nor do the
lines of functions and those of assertions. -/
theorem walk_keeps_source_order {budget : Nat} {path : Files.Pathname} {language : Language}
    {tree : Concrete} {program : Node} (h : programWithin budget path language tree = .ok program)
    (hcalls : tree.CalleesFirst) :
    (∃ below, program.walk = ⟨program :: below, none⟩ ∧
      (below.map Node.stamp?).Sublist
        ((Concrete.preorderAll tree.children).map fun c =>
          some (c.label.kind, (c.label.row : Int) + 1))) ∧
    ((tree.preorder.map fun c => c.label.row).Pairwise (· ≤ ·) →
      (program.walk.visited.map Node.line).Pairwise (· ≤ ·) ∧
      ((program.walk.visited.filter Node.isFunction).map Node.line).Pairwise (· ≤ ·) ∧
      ((program.walk.visited.filter Node.isAssertion).map Node.line).Pairwise (· ≤ ·)) := by
  have hvisited : (tree.visitedBelow language).Sublist (Concrete.preorderAll tree.children) :=
    Concrete.visitedBelow_sublist hcalls
  refine ⟨⟨_, walk_of_programWithin h, ?_⟩, fun hrows => ?_⟩
  · rw [List.map_map]
    have hstamp : Node.stamp? ∘ Concrete.image language = fun c : Concrete => some c.stamp :=
      funext (Concrete.stamp?_image language)
    rw [hstamp]
    exact hvisited.map _
  · have hlines : (program.walk.visited.map Node.line).Pairwise (· ≤ ·) := by
      obtain ⟨-, hprogram⟩ := programWithin_eq_ok h
      rw [walk_of_programWithin h, List.map_cons, map_line_image, hprogram, List.pairwise_cons]
      constructor
      · -- the root is on the first line, before which there is none
        intro line hline
        obtain ⟨c, -, rfl⟩ := List.mem_map.mp hline
        simp only [Node.line, Label.line]
        omega
      · rw [tree.preorder_eq_cons, ← Concrete.preorderAll_eq_flatMap, List.map_cons,
          List.pairwise_cons, List.pairwise_map] at hrows
        rw [List.pairwise_map]
        refine (hrows.2.sublist hvisited).imp ?_
        intro c d hle
        simp only [Label.line]
        omega
    exact ⟨hlines, hlines.sublist (List.filter_sublist.map _),
      hlines.sublist (List.filter_sublist.map _)⟩

/-- A commented generator with a nested call: the walk comes to its parts from the
top to the bottom. -/
theorem walk_keeps_source_order_in_generator :
    let name (row : Nat) (field text : String) : Concrete :=
      .mk { kind := "identifier", field := some field, row, text } []
    let call (row : Nat) (callee : String) (arguments : List Concrete) : Concrete :=
      .mk { kind := "call_expression", row } [
        name row "function" callee,
        .mk { kind := "arguments", field := some "arguments", row } arguments]
    let tree : Concrete := .mk { kind := "program" } [
      .mk { kind := "comment" } [],
      .mk { kind := "generator_function_declaration", row := 1 } [
        name 1 "name" "f",
        .mk { kind := "statement_block", row := 1 } [
          .mk { kind := "expression_statement", row := 2 } [
            call 2 "precondition" [call 3 "check" [.mk { kind := "true", row := 3 } []]]]]]]
    ∃ program, programOf ⟨.relative, ["a.js"]⟩ .javascript tree = .ok program ∧
      tree.CalleesFirst ∧
      (tree.preorder.map fun c => c.label.row).Pairwise (· ≤ ·) ∧
      program.walk.visited.tail.map Node.stamp? =
        [some ("generator_function_declaration", 2), some ("statement_block", 2),
          some ("expression_statement", 3), some ("call_expression", 3), some ("identifier", 3),
          some ("call_expression", 4), some ("identifier", 4), some ("true", 4)] ∧
      (program.walk.visited.map Node.line).Pairwise (· ≤ ·) := by
  intro name call tree
  have hprogram : programOf ⟨.relative, ["a.js"]⟩ .javascript tree = .ok _ := rfl
  have hcalls : tree.CalleesFirst := by decide
  have hrows : (tree.preorder.map fun c => c.label.row).Pairwise (· ≤ ·) := by decide
  obtain ⟨-, hlines⟩ := walk_keeps_source_order hprogram hcalls
  refine ⟨_, hprogram, hcalls, hrows, ?_, (hlines hrows).1⟩
  rw [Node.walk_of_whole (whole_of_programWithin hprogram)]
  decide +kernel

end Tree
end ContractAudit
