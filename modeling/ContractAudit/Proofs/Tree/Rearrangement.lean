import Mathlib.Algebra.Ring.Nat
import ContractAudit.Proofs.Tree.Preorder

/-!
# Counts do not depend on order

Two trees are rearranged if they differ only in the order of what stands in
lists: the body of a program, the children of a declaration or of another
construct, the arguments of a call, at any nodes and any depths.  What stands in
a place of its own, a callee, an object or the expression of a statement, keeps
its place.

Whether a node counts does not depend on the order below it, although an
assertion is recognised by looking two levels down.  So the sums over the trees
are the same, while the walks may meet the nodes in quite different orders.

Main results:

- Theorem {lit}`Node.RearrangedAll.of_perm`: permuted lists are rearranged.
- Theorem {lit}`Node.Rearranged.total_eq`: rearranged trees have equally many
  nodes of a kind that does not depend on order.
- Theorem {lit}`counts_ignore_order`: counting rearranged trees, or trees in
  another order, adds the same.
-/

namespace ContractAudit
namespace Tree
namespace Node

/-! ## Rearranged trees -/

mutual

/-- Two trees differ only in the order of what stands in lists, at any depth. -/
inductive Rearranged : Node → Node → Prop
  | program {body body' : List Node} (line : Int) (hbody : RearrangedAll body body') :
      Rearranged (.program body line) (.program body' line)
  | function {children children' : List Node} (name : String) (isAsync isGenerator : Bool)
      (line : Int) (hchildren : RearrangedAll children children') :
      Rearranged (.function name children isAsync isGenerator line)
        (.function name children' isAsync isGenerator line)
  | statement {expression expression' : Node} (line : Int)
      (hexpression : Rearranged expression expression') :
      Rearranged (.statement expression line) (.statement expression' line)
  | call {callee callee' : Node} {arguments arguments' : List Node} (optional : Bool) (line : Int)
      (hcallee : Rearranged callee callee') (harguments : RearrangedAll arguments arguments') :
      Rearranged (.call callee arguments optional line) (.call callee' arguments' optional line)
  | identifier (name : String) (line : Int) :
      Rearranged (.identifier name line) (.identifier name line)
  | member {object object' : Node} (property : String) (line : Int)
      (hobject : Rearranged object object') :
      Rearranged (.member object property line) (.member object' property line)
  | other {children children' : List Node} (kind : String) (line : Int)
      (hchildren : RearrangedAll children children') :
      Rearranged (.other kind children line) (.other kind children' line)
  | foreign (type : String) : Rearranged (.foreign type) (.foreign type)

/-- The trees of two lists are rearranged one by one, and the lists are permuted. -/
inductive RearrangedAll : List Node → List Node → Prop
  | nil : RearrangedAll [] []
  | cons {n n' : Node} {ns ns' : List Node} (hhead : Rearranged n n')
      (htail : RearrangedAll ns ns') : RearrangedAll (n :: ns) (n' :: ns')
  | swap (m n : Node) (ns : List Node) : RearrangedAll (m :: n :: ns) (n :: m :: ns)
  | trans {ns mid ns' : List Node} (h : RearrangedAll ns mid) (h' : RearrangedAll mid ns') :
      RearrangedAll ns ns'

end

/-- Trees that are rearranged one by one make rearranged lists. -/
theorem RearrangedAll.of_forall {ns : List Node} (h : ∀ n ∈ ns, Rearranged n n) :
    RearrangedAll ns ns := by
  induction ns with
  | nil => exact .nil
  | cons n ns ih =>
      exact .cons (h n List.mem_cons_self) (ih fun m hm => h m (List.mem_cons_of_mem n hm))

/-- Every tree is a rearrangement of itself. -/
theorem Rearranged.refl (n : Node) : Rearranged n n := by
  induction n using Node.induction with
  | step n ih =>
      have hall : RearrangedAll n.children n.children := .of_forall ih
      cases n with
      | program body line => exact .program line hall
      | function name children isAsync isGenerator line =>
          exact .function name isAsync isGenerator line hall
      | statement expression line => exact .statement line (ih expression (by simp [children]))
      | call callee arguments optional line =>
          exact .call optional line (ih callee (by simp [children]))
            (.of_forall fun n hn => ih n (by simp [children, hn]))
      | identifier name line => exact .identifier name line
      | member object property line => exact .member property line (ih object (by simp [children]))
      | other kind children line => exact .other kind line hall
      | foreign type => exact .foreign type

/-- Permuted lists of trees are rearranged. -/
theorem RearrangedAll.of_perm {ns ns' : List Node} (h : ns.Perm ns') : RearrangedAll ns ns' := by
  induction h with
  | nil => exact .nil
  | cons n _ ih => exact .cons (.refl n) ih
  | swap m n ns => exact .swap n m ns
  | trans _ _ ih ih' => exact ih.trans ih'

/-! ## Kinds that do not depend on order -/

/-- A property of nodes that rearranging the tree below them does not change. -/
def OrderFree (p : Node → Bool) : Prop :=
  ∀ {a b : Node}, Rearranged a b → p a = p b

theorem orderFree_isFunction : OrderFree isFunction := by
  intro a b h
  cases h <;> rfl

theorem orderFree_isForeign : OrderFree fun n => n.foreign?.isSome := by
  intro a b h
  cases h <;> rfl

theorem orderFree_namesAssertion : OrderFree namesAssertion := by
  intro a b h
  cases h <;> rfl

/-- A statement that calls a contract assertion does so however its arguments are ordered. -/
theorem orderFree_isAssertion : OrderFree isAssertion := by
  intro a b h
  cases h with
  | statement line hexpression =>
      cases hexpression with
      | call optional line hcallee harguments =>
          rw [isAssertion, isAssertion, orderFree_namesAssertion hcallee]
      | _ => rfl
  | _ => rfl

section Totals

variable {p : Node → Bool}

mutual

/-- Rearranged trees have equally many nodes of a kind that does not depend on order. -/
theorem Rearranged.total_eq (hp : OrderFree p) {a b : Node} :
    Rearranged a b → a.total p = b.total p
  | .program line hbody => by
      rw [total, total, hp (.program line hbody), hbody.totalAll_eq hp]
  | .function name isAsync isGenerator line hchildren => by
      rw [total, total, hp (.function name isAsync isGenerator line hchildren),
        hchildren.totalAll_eq hp]
  | .statement line hexpression => by
      rw [total, total, hp (.statement line hexpression), hexpression.total_eq hp]
  | .call optional line hcallee harguments => by
      rw [total, total, hp (.call optional line hcallee harguments), hcallee.total_eq hp,
        harguments.totalAll_eq hp]
  | .identifier _ _ => rfl
  | .member property line hobject => by
      rw [total, total, hp (.member property line hobject), hobject.total_eq hp]
  | .other kind line hchildren => by
      rw [total, total, hp (.other kind line hchildren), hchildren.totalAll_eq hp]
  | .foreign _ => rfl

/-- Lists of rearranged trees have equally many nodes of a kind that does not depend on
order. -/
theorem RearrangedAll.totalAll_eq (hp : OrderFree p) {ns ns' : List Node} :
    RearrangedAll ns ns' → totalAll p ns = totalAll p ns'
  | .nil => rfl
  | .cons hhead htail => by rw [totalAll, totalAll, hhead.total_eq hp, htail.totalAll_eq hp]
  | .swap m n ns => by simp only [totalAll, Nat.add_left_comm]
  | .trans h h' => (h.totalAll_eq hp).trans (h'.totalAll_eq hp)

end

end Totals

/-! ## Foreign values -/

/-- Trees of a list are counted one after the other. -/
theorem totalAll_eq_sum (p : Node → Bool) (ns : List Node) :
    totalAll p ns = (ns.map (total p)).sum := by
  induction ns with
  | nil => rfl
  | cons n ns ih => rw [totalAll, ih, List.map_cons, List.sum_cons]

/-- A tree is whole if it has no node that is foreign. -/
theorem whole_iff_total_eq_zero (n : Node) :
    n.Whole ↔ n.total (fun m => m.foreign?.isSome) = 0 := by
  rw [total_eq_countP, List.countP_eq_zero, Whole]
  simp

/-- Trees are whole if none of them has a node that is foreign. -/
theorem forall_whole_iff_totalAll_eq_zero (ns : List Node) :
    (∀ n ∈ ns, n.Whole) ↔ totalAll (fun m => m.foreign?.isSome) ns = 0 := by
  simp [totalAll_eq_sum, List.sum_eq_zero_iff_forall_eq_nat, whole_iff_total_eq_zero]

/-- Rearranging keeps a tree whole. -/
theorem Rearranged.whole {a b : Node} (h : Rearranged a b) (ha : a.Whole) : b.Whole := by
  rw [whole_iff_total_eq_zero] at ha ⊢
  rw [← h.total_eq orderFree_isForeign, ha]

/-- Rearranging keeps the trees of a list whole. -/
theorem RearrangedAll.whole {ns ns' : List Node} (h : RearrangedAll ns ns')
    (hns : ∀ n ∈ ns, n.Whole) : ∀ n ∈ ns', n.Whole := by
  rw [forall_whole_iff_totalAll_eq_zero] at hns ⊢
  rw [← h.totalAll_eq orderFree_isForeign, hns]

end Node

/-! ## Counting -/

open Coverage (Tally)
open Node (Rearranged RearrangedAll)

/-- Counts trees one after the other into one tally.  A tree that cannot be counted to its end
leaves what was counted of it and does not keep the others from being counted. -/
def countTrees (t : Tally) (trees : List Node) : Tally :=
  trees.foldl (fun t root => (t.countTree root).1) t

/-- Counting trees adds up what counting each of them adds. -/
theorem countTrees_eq_add {functions assertions : Node → Nat} {trees : List Node}
    (h : ∀ n ∈ trees, ∀ t : Tally, (t.countTree n).1 = t.add (functions n) (assertions n))
    (t : Tally) :
    countTrees t trees =
      t.add ((trees.map functions).sum : Nat) ((trees.map assertions).sum : Nat) := by
  induction trees generalizing t with
  | nil => exact t.add_zero.symm
  | cons n trees ih =>
      have hstep : countTrees t (n :: trees) = countTrees (t.countTree n).1 trees := rfl
      rw [hstep, h n List.mem_cons_self, ih fun m hm => h m (List.mem_cons_of_mem n hm),
        Tally.add_add, List.map_cons, List.map_cons, List.sum_cons, List.sum_cons,
        Int.natCast_add, Int.natCast_add]

/-- Counting a tree without foreign values adds the counts by recursion. -/
theorem countTree_eq_total {n : Node} (h : n.Whole) (t : Tally) :
    t.countTree n = (t.add (n.total Node.isFunction) (n.total Node.isAssertion), none) := by
  rw [t.countTree_of_whole h, Node.total_eq_countP, Node.total_eq_countP]
  rfl

/-- Counting trees without foreign values adds the counts by recursion. -/
theorem countTrees_eq_totalAll {trees : List Node} (h : ∀ n ∈ trees, n.Whole) (t : Tally) :
    countTrees t trees =
      t.add (Node.totalAll Node.isFunction trees) (Node.totalAll Node.isAssertion trees) := by
  rw [Node.totalAll_eq_sum, Node.totalAll_eq_sum]
  exact countTrees_eq_add (fun n hn t => by rw [countTree_eq_total (h n hn)]) t

/-- Counts do not depend on order.  Rearranged trees of syntax nodes add the same to any tally,
and so do lists of such trees, rearranged and counted in any order.  For trees that are only
counted in another order it does not matter whether foreign values stand in them. -/
theorem counts_ignore_order :
    (∀ a b : Node, Rearranged a b → a.Whole → ∃ functions assertions : Nat, ∀ t : Tally,
      t.countTree a = (t.add functions assertions, none) ∧
      t.countTree b = (t.add functions assertions, none)) ∧
    (∀ trees trees' : List Node, RearrangedAll trees trees' → (∀ n ∈ trees, n.Whole) →
      ∀ t : Tally, countTrees t trees' = countTrees t trees) ∧
    (∀ trees trees' : List Node, trees.Perm trees' →
      ∀ t : Tally, countTrees t trees' = countTrees t trees) := by
  refine ⟨?_, ?_, ?_⟩
  · intro a b h hwhole
    refine ⟨a.total Node.isFunction, a.total Node.isAssertion, fun t => ?_⟩
    refine ⟨countTree_eq_total hwhole t, ?_⟩
    rw [countTree_eq_total (h.whole hwhole), h.total_eq Node.orderFree_isFunction,
      h.total_eq Node.orderFree_isAssertion]
  · intro trees trees' h hwhole t
    rw [countTrees_eq_totalAll hwhole, countTrees_eq_totalAll (h.whole hwhole),
      h.totalAll_eq Node.orderFree_isFunction, h.totalAll_eq Node.orderFree_isAssertion]
  · intro trees trees' h t
    have hadds (n : Node) (t : Tally) :
        (t.countTree n).1 = t.add n.walk.functionCount n.walk.assertionCount := by
      rw [t.countTree_eq]
    rw [countTrees_eq_add fun n _ => hadds n, countTrees_eq_add fun n _ => hadds n,
      (h.map _).sum_nat, (h.map _).sum_nat]

/-- A body, the children of a declaration and the arguments of an assertion are turned around
at once: one function and one assertion are counted all the same. -/
theorem counts_ignore_order_at_three_depths :
    let x : Node := .identifier "x" 2
    let y : Node := .identifier "y" 2
    let assertion (arguments : List Node) : Node :=
      .statement (.call (.identifier "precondition" 2) arguments false 2) 2
    let before : Node := .program [.function "f" [x, assertion [x, y]] false false 1, y] 1
    let after : Node := .program [y, .function "f" [assertion [y, x], x] false false 1] 1
    Rearranged before after ∧ before.Whole ∧
      Tally.countTree {} after = (Tally.add {} 1 1, none) ∧
      countTrees {} [after, x] = countTrees {} [x, before] := by
  intro x y assertion before after
  have hassertion : Rearranged (assertion [x, y]) (assertion [y, x]) :=
    .statement 2 (.call false 2 (.refl _) (.swap x y []))
  have hfunction : Rearranged (.function "f" [x, assertion [x, y]] false false 1)
      (.function "f" [assertion [y, x], x] false false 1) :=
    .function "f" false false 1 (.trans (.cons (.refl x) (.cons hassertion .nil)) (.swap _ _ _))
  have hbody : RearrangedAll [.function "f" [x, assertion [x, y]] false false 1, y]
      [y, .function "f" [assertion [y, x], x] false false 1] :=
    .trans (.cons hfunction (.of_perm (.refl _))) (.swap _ _ _)
  have h : Rearranged before after := .program 1 hbody
  have hwhole : before.Whole := by decide
  obtain ⟨hone, hmany, -⟩ := counts_ignore_order
  obtain ⟨functions, assertions, hadds⟩ := hone before after h hwhole
  refine ⟨h, hwhole, ?_, ?_⟩
  · rw [(hadds {}).2, ← (hadds {}).1, countTree_eq_total hwhole]
    rfl
  · refine hmany [x, before] [after, x] (.trans (.swap _ _ _) (.cons h (.of_perm (.refl _)))) ?_ {}
    simp only [List.mem_cons, List.not_mem_nil, or_false, forall_eq_or_imp, forall_eq]
    exact ⟨by decide, hwhole⟩

end Tree
end ContractAudit
