import ContractAudit.Tree.Node

/-!
# The walk against the recursive listing

A walk takes nodes from a work list.  What remains to be visited is always the
listing of the work list by recursion, cut after the first value that is no
syntax node; this is the invariant of the loop, and it holds for work lists of
any length.

Main results:

- Theorem {lit}`walkFrom_eq_cut`: a walk from any work list is the cut listing.
- Theorem {lit}`walk_of_whole`: without foreign values a walk is the whole
  listing and does not stop.
-/

namespace ContractAudit
namespace Tree
namespace Node

/-! ## Listings -/

/-- A node is listed before its children. -/
theorem preorder_eq_cons (n : Node) : n.preorder = n :: preorderAll n.children := by
  cases n <;> simp [preorder, preorderAll, children]

/-- Trees are listed one after the other. -/
theorem preorderAll_eq_flatMap (ns : List Node) : preorderAll ns = ns.flatMap preorder := by
  induction ns with
  | nil => simp [preorderAll]
  | cons n ns ih => simp [preorderAll, ih]

/-! ## The walk is the cut listing -/

/-- A listing cut after its first foreign value. -/
def cut : List Node → Walk
  | [] => ⟨[], none⟩
  | n :: rest =>
    match n.foreign? with
    | some type => ⟨[n], some type⟩
    | none => ⟨n :: (cut rest).visited, (cut rest).stopped⟩

/-- Whatever the work list, a walk visits the listing of it up to the first
foreign value. -/
theorem walkFrom_eq_cut (work : List Node) : walkFrom work = cut (preorderAll work) := by
  fun_induction walkFrom work with
  | case1 => simp [preorderAll, cut]
  | case2 n rest type hforeign =>
      rw [preorderAll_eq_flatMap, List.flatMap_cons, preorder_eq_cons]
      simp [cut, hforeign]
  | case3 n rest hforeign later ih =>
      have hlist : preorderAll (n :: rest) = n :: preorderAll (n.children ++ rest) := by
        simp only [preorderAll_eq_flatMap, List.flatMap_cons, List.flatMap_append,
          preorder_eq_cons n, List.cons_append]
      rw [hlist]
      simp only [cut, hforeign, ← ih]
      rfl

/-! ## Trees without foreign values -/

/-- A tree in which no foreign value occurs. -/
def Whole (n : Node) : Prop :=
  ∀ m ∈ n.preorder, m.foreign? = none

instance (n : Node) : Decidable n.Whole :=
  inferInstanceAs (Decidable (∀ m ∈ n.preorder, m.foreign? = none))

/-- A listing without foreign values is not cut. -/
theorem cut_of_forall {ns : List Node} (h : ∀ n ∈ ns, n.foreign? = none) :
    cut ns = ⟨ns, none⟩ := by
  induction ns with
  | nil => rfl
  | cons n ns ih =>
      have hrest : cut ns = ⟨ns, none⟩ := ih fun m hm => h m (List.mem_cons_of_mem n hm)
      simp [cut, h n List.mem_cons_self, hrest]

/-- A walk through a whole tree visits its listing and does not stop. -/
theorem walk_of_whole {n : Node} (h : n.Whole) : n.walk = ⟨n.preorder, none⟩ := by
  have hlist : preorderAll [n] = n.preorder := by
    rw [preorderAll_eq_flatMap, List.flatMap_singleton]
  rw [walk, walkFrom_eq_cut, hlist]
  exact cut_of_forall h

/-- Wholeness goes down to the children and needs a proper node at the root. -/
theorem whole_iff (n : Node) :
    n.Whole ↔ n.foreign? = none ∧ ∀ c ∈ n.children, c.Whole := by
  simp only [Whole, preorder_eq_cons n, preorderAll_eq_flatMap, List.mem_cons, List.mem_flatMap,
    forall_eq_or_imp, forall_exists_index, and_imp]
  constructor
  · rintro ⟨hroot, hbelow⟩
    exact ⟨hroot, fun c hc m hm => hbelow m c hc hm⟩
  · rintro ⟨hroot, hbelow⟩
    exact ⟨hroot, fun m c hc hm => hbelow c hc m hm⟩

/-! ## Counts -/

/-- Functions declared in a tree. -/
def functionCount (n : Node) : Nat :=
  n.preorder.countP isFunction

/-- Contract assertions in a tree. -/
def assertionCount (n : Node) : Nat :=
  n.preorder.countP isAssertion

namespace Walk

/-- Functions among the visited nodes. -/
def functionCount (w : Walk) : Nat :=
  w.visited.countP isFunction

/-- Contract assertions among the visited nodes. -/
def assertionCount (w : Walk) : Nat :=
  w.visited.countP isAssertion

end Walk

end Node
end Tree
end ContractAudit
