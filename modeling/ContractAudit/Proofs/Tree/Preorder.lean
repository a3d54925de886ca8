import ContractAudit.Proofs.Coverage.Recording

/-!
# A walk is the pre-order of its tree

A walk works off a stack: it takes the node on top and puts its children there
in reverse, so that the leftmost one is taken next.  At any moment what remains
to be visited is the concatenation of the listings of the stacked trees, from
the top down, cut after the first value that is no syntax node.

The listing itself is pinned down twice.  It satisfies the recursive equation of
a pre-order; and its nodes stand at the positions of the tree, paths of child
indices from the root, each position once and in lexicographic order.

Main results:

- Theorem {lit}`Node.walkStack_eq_cut`: the invariant of the stack.
- Theorem {lit}`Node.map_at?_positions`: the listing goes through all positions
  in order.
- Theorem {lit}`Node.total_eq_countP`: counts by recursion on the tree are counts
  in the listing.
- Theorem {lit}`Node.walk_is_preorder`: the walk and the counts, with and without
  foreign values.
-/

namespace ContractAudit
namespace Tree
namespace Node

/-! ## Induction over the children -/

/-- A tree is no larger than the list that it stands in. -/
theorem size_le_sizeAll {n : Node} {ns : List Node} (h : n ∈ ns) : n.size ≤ sizeAll ns := by
  induction ns with
  | nil => cases h
  | cons m ns ih =>
      rw [sizeAll]
      rcases List.mem_cons.1 h with rfl | hrest
      · omega
      · have := ih hrest
        omega

/-- A property of all trees follows from the step to a node from its children. -/
theorem induction {motive : Node → Prop}
    (step : ∀ n, (∀ c ∈ n.children, motive c) → motive n) (n : Node) : motive n := by
  refine step n fun c hc => ?_
  have hsize : c.size < n.size := by
    have hle := size_le_sizeAll hc
    rw [size_eq n]
    omega
  exact induction step c
termination_by n.size

/-! ## The stack of a walk -/

/-- The walk from a stack of trees whose top is at the end. -/
def walkStack (stack : List Node) : Walk :=
  walkFrom stack.reverse

/-- Nothing is visited from the empty stack. -/
theorem walkStack_nil : walkStack [] = ⟨[], none⟩ := by
  rw [walkStack, List.reverse_nil, walkFrom]

/-- The node on top is visited, and the walk goes on with its children put there in reverse;
it stops if the node is foreign. -/
theorem walkStack_push (stack : List Node) (n : Node) :
    walkStack (stack ++ [n]) =
      match n.foreign? with
      | some type => ⟨[n], some type⟩
      | none =>
        ⟨n :: (walkStack (stack ++ n.children.reverse)).visited,
          (walkStack (stack ++ n.children.reverse)).stopped⟩ := by
  have hpush : (stack ++ n.children.reverse).reverse = n.children ++ stack.reverse := by
    rw [List.reverse_append, List.reverse_reverse]
  rw [walkStack, walkStack, hpush, List.reverse_concat]
  exact walkFrom.eq_def (n :: stack.reverse)

/-- What remains to be visited is the concatenation of the listings of the stacked trees from
the top down, cut after the first foreign value. -/
theorem walkStack_eq_cut (stack : List Node) :
    walkStack stack = cut (stack.reverse.flatMap preorder) := by
  rw [walkStack, walkFrom_eq_cut, preorderAll_eq_flatMap]

/-- The walk through a tree is its cut listing. -/
theorem walk_eq_cut (n : Node) : n.walk = cut n.preorder := by
  have h := walkStack_eq_cut [n]
  rwa [List.reverse_singleton, List.flatMap_singleton] at h

/-! ## Positions -/

/-- The tree at a path of child indices from the root. -/
def at? (n : Node) : List Nat → Option Node
  | [] => some n
  | i :: path => n.children[i]?.bind fun c => c.at? path

mutual
/-- The positions of a tree, each before those below it. -/
def positions : Node → List (List Nat)
  | program body _ => [] :: positionsFrom 0 body
  | function _ children _ _ _ => [] :: positionsFrom 0 children
  | statement expression _ => [] :: (positions expression).map (0 :: ·)
  | call callee arguments _ _ =>
    [] :: ((positions callee).map (0 :: ·) ++ positionsFrom 1 arguments)
  | identifier _ _ => [[]]
  | member object _ _ => [] :: (positions object).map (0 :: ·)
  | other _ children _ => [] :: positionsFrom 0 children
  | foreign _ => [[]]

/-- The positions of trees that are children from an index on. -/
def positionsFrom (i : Nat) : List Node → List (List Nat)
  | [] => []
  | n :: ns => (positions n).map (i :: ·) ++ positionsFrom (i + 1) ns
end

theorem positions_eq_cons (n : Node) : n.positions = [] :: positionsFrom 0 n.children := by
  cases n <;> simp [positions, positionsFrom, children]

/-- A position among trees is the index of a tree and a position in it. -/
theorem mem_positionsFrom_iff {i : Nat} {ns : List Node} {path : List Nat} :
    path ∈ positionsFrom i ns ↔
      ∃ j c below, ns[j]? = some c ∧ below ∈ c.positions ∧ path = (i + j) :: below := by
  induction ns generalizing i with
  | nil => simp [positionsFrom]
  | cons n ns ih =>
      rw [positionsFrom, List.mem_append, List.mem_map, ih]
      constructor
      · rintro (⟨below, hbelow, rfl⟩ | ⟨j, c, below, hc, hbelow, rfl⟩)
        · exact ⟨0, n, below, rfl, hbelow, rfl⟩
        · refine ⟨j + 1, c, below, hc, hbelow, ?_⟩
          rw [Nat.add_right_comm, Nat.add_assoc]
      · rintro ⟨_ | j, c, below, hc, hbelow, rfl⟩
        · obtain rfl : n = c := Option.some.inj hc
          exact .inl ⟨below, hbelow, rfl⟩
        · refine .inr ⟨j, c, below, hc, hbelow, ?_⟩
          rw [Nat.add_right_comm, Nat.add_assoc]

/-- The positions are the paths that lead to a tree. -/
theorem mem_positions_iff (n : Node) (path : List Nat) :
    path ∈ n.positions ↔ (n.at? path).isSome = true := by
  induction path generalizing n with
  | nil => simp [positions_eq_cons, at?]
  | cons i path ih =>
      rw [positions_eq_cons, List.mem_cons, mem_positionsFrom_iff, at?]
      constructor
      · rintro (hnil | ⟨j, c, below, hc, hbelow, hpath⟩)
        · cases hnil
        · rw [Nat.zero_add] at hpath
          obtain ⟨rfl, rfl⟩ := List.cons.inj hpath
          rw [hc, Option.bind_some, ← ih]
          exact hbelow
      · intro h
        obtain ⟨c, hc⟩ := Option.isSome_iff_exists.1 (Option.isSome_of_isSome_bind h)
        rw [hc, Option.bind_some, ← ih] at h
        exact .inr ⟨i, c, path, hc, h, by rw [Nat.zero_add]⟩

/-- Positions of trees that have increasing positions are increasing. -/
theorem pairwise_positionsFrom {ns : List Node} (i : Nat)
    (h : ∀ n ∈ ns, n.positions.Pairwise (· < ·)) : (positionsFrom i ns).Pairwise (· < ·) := by
  induction ns generalizing i with
  | nil => simp [positionsFrom]
  | cons n ns ih =>
      rw [positionsFrom, List.pairwise_append, List.pairwise_map]
      refine ⟨?_, ih (i + 1) fun m hm => h m (List.mem_cons_of_mem n hm), ?_⟩
      · refine (h n List.mem_cons_self).imp fun hlt => ?_
        exact List.cons_lt_cons_iff.2 (.inr ⟨rfl, hlt⟩)
      · intro path hpath path' hpath'
        obtain ⟨below, -, rfl⟩ := List.mem_map.1 hpath
        obtain ⟨j, c, below', -, -, rfl⟩ := mem_positionsFrom_iff.1 hpath'
        exact List.cons_lt_cons_iff.2 (.inl (by omega))

/-- The positions are listed in lexicographic order, each once. -/
theorem pairwise_positions (n : Node) : n.positions.Pairwise (· < ·) := by
  induction n using Node.induction with
  | step n hchildren =>
      rw [positions_eq_cons, List.pairwise_cons]
      refine ⟨?_, pairwise_positionsFrom 0 hchildren⟩
      intro path hpath
      obtain ⟨j, c, below, -, -, rfl⟩ := mem_positionsFrom_iff.1 hpath
      exact List.nil_lt_cons _ _

/-- The positions of the last children lead to their listings. -/
theorem map_at?_positionsFrom {n : Node} {before ns : List Node}
    (hchildren : n.children = before ++ ns)
    (h : ∀ c ∈ ns, c.positions.map c.at? = c.preorder.map some) :
    (positionsFrom before.length ns).map n.at? = (ns.flatMap preorder).map some := by
  induction ns generalizing before with
  | nil => simp [positionsFrom]
  | cons c ns ih =>
      have hfirst : ∀ path, n.at? (before.length :: path) = c.at? path := by
        intro path
        simp [at?, hchildren]
      have hrest := @ih (before ++ [c]) (by simp [hchildren])
        fun d hd => h d (List.mem_cons_of_mem c hd)
      rw [List.length_append, List.length_singleton] at hrest
      rw [positionsFrom, List.map_append, List.map_map, hrest, List.flatMap_cons, List.map_append,
        ← h c List.mem_cons_self]
      congr 1
      exact List.map_congr_left fun path _ => hfirst path

/-- The listing of a tree goes through its positions in order. -/
theorem map_at?_positions (n : Node) : n.positions.map n.at? = n.preorder.map some := by
  induction n using Node.induction with
  | step n hchildren =>
      have hbelow := @map_at?_positionsFrom n [] n.children rfl hchildren
      rw [List.length_nil] at hbelow
      rw [positions_eq_cons, preorder_eq_cons, preorderAll_eq_flatMap, List.map_cons, List.map_cons,
        hbelow, at?]

/-! ## Counts by recursion -/

mutual
/-- Number of nodes of a tree that have a property, by recursion on the tree. -/
def total (p : Node → Bool) : Node → Nat
  | n@(program body _) => (p n).toNat + totalAll p body
  | n@(function _ children _ _ _) => (p n).toNat + totalAll p children
  | n@(statement expression _) => (p n).toNat + total p expression
  | n@(call callee arguments _ _) => (p n).toNat + (total p callee + totalAll p arguments)
  | n@(identifier _ _) => (p n).toNat
  | n@(member object _ _) => (p n).toNat + total p object
  | n@(other _ children _) => (p n).toNat + totalAll p children
  | n@(foreign _) => (p n).toNat

/-- Number of nodes of a list of trees that have a property. -/
def totalAll (p : Node → Bool) : List Node → Nat
  | [] => 0
  | n :: ns => total p n + totalAll p ns
end

theorem total_eq_add (p : Node → Bool) (n : Node) :
    n.total p = (p n).toNat + totalAll p n.children := by
  cases n <;> simp [total, totalAll, children]

/-- Counts of trees in a list add up as their listings do. -/
theorem totalAll_eq_countP {p : Node → Bool} {ns : List Node}
    (h : ∀ n ∈ ns, n.total p = n.preorder.countP p) :
    totalAll p ns = (preorderAll ns).countP p := by
  induction ns with
  | nil => simp [totalAll, preorderAll]
  | cons n ns ih =>
      rw [totalAll, preorderAll, List.countP_append, h n List.mem_cons_self,
        ih fun m hm => h m (List.mem_cons_of_mem n hm)]

/-- Counting by recursion is counting in the listing. -/
theorem total_eq_countP (p : Node → Bool) (n : Node) : n.total p = n.preorder.countP p := by
  induction n using Node.induction with
  | step n hchildren =>
      rw [total_eq_add, totalAll_eq_countP hchildren, preorder_eq_cons, List.countP_cons,
        Nat.add_comm]
      cases p n <;> rfl

/-! ## The first foreign value -/

/-- A listing is cut after its first foreign value. -/
theorem cut_of_first {before : List Node} (hbefore : ∀ m ∈ before, m.foreign? = none)
    (type : String) (after : List Node) :
    cut (before ++ foreign type :: after) = ⟨before ++ [foreign type], some type⟩ := by
  induction before with
  | nil => simp [cut, foreign?]
  | cons n before ih =>
      have hrest := ih fun m hm => hbefore m (List.mem_cons_of_mem n hm)
      simp [cut, hbefore n List.mem_cons_self, hrest]

/-- A listing with a foreign value has a first one. -/
theorem exists_first_foreign {ns : List Node} (h : ∃ n ∈ ns, n.foreign? ≠ none) :
    ∃ before type after, ns = before ++ foreign type :: after ∧
      ∀ m ∈ before, m.foreign? = none := by
  induction ns with
  | nil => simp at h
  | cons n ns ih =>
      cases hn : n.foreign? with
      | some type =>
          obtain rfl : n = foreign type := by
            cases n <;> simp_all [foreign?]
          exact ⟨[], type, ns, rfl, by simp⟩
      | none =>
          obtain ⟨m, hm, hforeign⟩ := h
          have hrest : ∃ m ∈ ns, m.foreign? ≠ none := by
            rcases List.mem_cons.1 hm with rfl | hm
            · exact absurd hn hforeign
            · exact ⟨m, hm, hforeign⟩
          obtain ⟨before, type, after, rfl, hbefore⟩ := ih hrest
          exact ⟨n :: before, type, after, rfl, List.forall_mem_cons.2 ⟨hn, hbefore⟩⟩

/-- A tree is whole, or its listing has a first foreign value. -/
theorem whole_or_first_foreign (n : Node) :
    n.Whole ∨ ∃ before type after, n.preorder = before ++ foreign type :: after ∧
      ∀ m ∈ before, m.foreign? = none := by
  by_cases hwhole : n.Whole
  · exact .inl hwhole
  · refine .inr (exists_first_foreign ?_)
    unfold Whole at hwhole
    simpa using hwhole

/-- A walk that does not stop has gone through a whole tree. -/
theorem whole_of_stopped_eq_none {n : Node} (h : n.walk.stopped = none) : n.Whole := by
  rcases whole_or_first_foreign n with hwhole | ⟨before, type, after, hlist, hbefore⟩
  · exact hwhole
  · rw [walk_eq_cut, hlist, cut_of_first hbefore] at h
    cases h

/-! ## The walk and the counts -/

/-- What a walk through a tree visits and what counting the tree adds. -/
structure Preordered (root : Node) : Prop where
  /-- The walk starts with the tree on its stack, takes the node on top and puts its children
  there in reverse, until the stack is empty or the node is foreign. -/
  loop : root.walk = walkStack [root] ∧ walkStack [] = ⟨[], none⟩ ∧
    ∀ stack n, walkStack (stack ++ [n]) =
      match n.foreign? with
      | some type => ⟨[n], some type⟩
      | none =>
        ⟨n :: (walkStack (stack ++ n.children.reverse)).visited,
          (walkStack (stack ++ n.children.reverse)).stopped⟩
  /-- A node is listed before its children, which follow from left to right. -/
  recursive : ∀ n : Node, n.preorder = n :: n.children.flatMap preorder
  /-- The listing goes through all positions of the tree in lexicographic order, each once. -/
  once : ∃ paths : List (List Nat), paths.Pairwise (· < ·) ∧
    (∀ path, path ∈ paths ↔ (root.at? path).isSome = true) ∧
    root.preorder.map some = paths.map root.at?
  /-- Without foreign values the walk is the listing, and counting adds the counts by
  recursion. -/
  whole : root.Whole → root.walk = ⟨root.preorder, none⟩ ∧
    ∀ t : Coverage.Tally, t.countTree root =
      (t.add (root.total isFunction) (root.total isAssertion), none)
  /-- The first foreign value, if there is one, is the last that is visited; counting adds what
  is visited up to it and fails because of its type. -/
  stops : ∀ before type after, root.preorder = before ++ foreign type :: after →
    (∀ m ∈ before, m.foreign? = none) →
    root.walk = ⟨before ++ [foreign type], some type⟩ ∧
      ∃ e : Coverage.TallyError,
        e.toFailure = .unexpected .badType ("Not a syntax node: " ++ type) ∧
        ∀ t : Coverage.Tally, t.countTree root =
          (t.add ((before ++ [foreign type]).countP isFunction)
            ((before ++ [foreign type]).countP isAssertion), some e)
  /-- A tree has no foreign value, or its listing has a first one. -/
  exhaustive : root.Whole ∨ ∃ before type after,
    root.preorder = before ++ foreign type :: after ∧ ∀ m ∈ before, m.foreign? = none

/-- A walk through any tree is its pre-order, as far as the first foreign value, and counting
adds the counts of what is visited. -/
theorem walk_is_preorder (root : Node) : Preordered root := by
  refine ⟨⟨rfl, walkStack_nil, walkStack_push⟩, ?_, ?_, ?_, ?_, whole_or_first_foreign root⟩
  · intro n
    rw [preorder_eq_cons, preorderAll_eq_flatMap]
  · exact ⟨root.positions, root.pairwise_positions, root.mem_positions_iff,
      root.map_at?_positions.symm⟩
  · intro hwhole
    refine ⟨walk_of_whole hwhole, fun t => ?_⟩
    rw [t.countTree_of_whole hwhole, total_eq_countP, total_eq_countP]
    rfl
  · intro before type after hlist hbefore
    have hwalk : root.walk = ⟨before ++ [foreign type], some type⟩ := by
      rw [walk_eq_cut, hlist, cut_of_first hbefore]
    refine ⟨hwalk, .notANode type, rfl, fun t => ?_⟩
    rw [t.countTree_eq, hwalk]
    rfl

/-- A foreign value between two declarations ends the walk: the second one is not counted. -/
theorem walk_is_preorder_between_declarations :
    let declaration (name : String) : Node := .function name [] false false 1
    let root : Node := .program [declaration "f", .foreign "int", declaration "g"] 1
    root.walk = ⟨[root, declaration "f", .foreign "int"], some "int"⟩ ∧
      (Coverage.Tally.countTree {} root).1.functions = 1 := by
  intro declaration root
  have hlist : root.preorder =
      [root, declaration "f"] ++ .foreign "int" :: [declaration "g"] := by
    simp [root, declaration, preorder, preorderAll]
  obtain ⟨hwalk, e, -, hcount⟩ := (walk_is_preorder root).stops _ _ _ hlist (by
    simp [root, declaration, foreign?])
  refine ⟨hwalk, ?_⟩
  rw [hcount]
  simp [root, declaration, isFunction, List.countP_cons]

end Node
end Tree
end ContractAudit
