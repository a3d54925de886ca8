import ContractAudit.Proofs.Tree.Image
import ContractAudit.Proofs.Coverage.Recording

/-!
# Lowering keeps the counts

Lowering visits some children through their fields, others because they are
named, and leaves the rest out.  Where nothing that counts lies in what it
leaves out, the lowered program has exactly the functions and the assertions of
the concrete tree: none is lost, none is counted twice and none is made up.

Main results:

- Theorem {lit}`Concrete.isFunction_image`, {lit}`Concrete.isAssertion_image`: an
  image counts exactly if its concrete node does.
- Theorem {lit}`Concrete.countP_image`: the nodes of one sort in an image are as
  many as in the concrete tree.
- Theorem {lit}`countTree_of_programWithin`: what counting an extracted program adds
  to a tally.
-/

namespace ContractAudit
namespace Tree
namespace Concrete

/-! ## What counts in a concrete tree -/

/-- Whether a node declares a function and names it. -/
def declaresFunction (language : Language) (c : Concrete) : Bool :=
  language.functionKinds.contains c.label.kind && (c.field? "name").isSome

/-- Whether a node calls a contract assertion by its plain name and not optionally. -/
def callsAssertion (c : Concrete) : Bool :=
  c.label.kind == "call_expression" && (c.field? "optional_chain").isNone &&
    (c.field? "function").any fun callee =>
      callee.label.kind == "identifier" && Node.assertionNames.contains callee.label.text

/-- Whether a node is a statement that consists of a call of a contract assertion,
comments aside. -/
def statesAssertion (c : Concrete) : Bool :=
  c.label.kind == "expression_statement" &&
    match c.children.filter fun d => d.label.kept with
    | [e] => e.callsAssertion
    | _ => false

/-- Whether a node is a call with a callee. -/
def isCall (c : Concrete) : Bool :=
  c.label.kind == "call_expression" && (c.field? "function").isSome

/-- Whether a node is a complete member access without an optional chain. -/
def isMember (c : Concrete) : Bool :=
  c.label.kind == "member_expression" && (c.field? "object").isSome &&
    (c.field? "property").isSome && (c.field? "optional_chain").isNone

/-- Whether the kind of a node is one of those that can count. -/
def countable (language : Language) (c : Concrete) : Bool :=
  c.label.kind == "expression_statement" || language.functionKinds.contains c.label.kind

/-- A node without the name of a function declares none. -/
theorem declaresFunction_eq_false {language : Language} {c : Concrete}
    (h : c.label.kind ∈ language.functionKinds → c.field? "name" = none) :
    c.declaresFunction language = false := by
  by_cases hkind : c.label.kind ∈ language.functionKinds
  · simp [declaresFunction, h hkind]
  · simp [declaresFunction, hkind]

/-- A node without a callee is no call. -/
theorem isCall_eq_false {c : Concrete}
    (h : c.label.kind = "call_expression" → c.field? "function" = none) :
    c.isCall = false := by
  by_cases hkind : c.label.kind = "call_expression"
  · simp [isCall, h hkind]
  · simp [isCall, hkind]

/-- An incomplete or optional member access is no plain one. -/
theorem isMember_eq_false {c : Concrete}
    (h : c.label.kind = "member_expression" → c.field? "object" = none ∨
      c.field? "property" = none ∨ (c.field? "optional_chain").isSome = true) :
    c.isMember = false := by
  by_cases hkind : c.label.kind = "member_expression"
  · rcases h hkind with hnone | hnone | hchain
    · simp [isMember, hnone]
    · simp [isMember, hnone]
    · simp [isMember, hchain]
  · simp [isMember, hkind]

/-! ## What lowering visits and what it leaves out -/

/-- The children of a node that lowering visits. -/
def reached (language : Language) (c : Concrete) : List Concrete :=
  if c.declaresFunction language then
    (c.children.eraseP fun d => d.label.field == some "name").filter fun d => d.label.kept
  else if c.isCall then (c.field? "function").toList ++ (c.field? "arguments").toList
  else if c.isMember then (c.field? "object").toList
  else if c.label.kind == "identifier" then []
  else c.children.filter fun d => d.label.kept

/-- The children of a node that lowering does not visit. -/
def discarded (language : Language) (c : Concrete) : List Concrete :=
  if c.declaresFunction language then
    -- the name, and of the other children those that are anonymous or comments
    (c.field? "name").toList ++
      (c.children.eraseP fun d => d.label.field == some "name").filter fun d => !d.label.kept
  else if c.isCall then
    -- all but the callee and the arguments
    (c.children.eraseP fun d => d.label.field == some "function").eraseP
      fun d => d.label.field == some "arguments"
  else if c.isMember then
    -- all but the object
    c.children.eraseP fun d => d.label.field == some "object"
  else if c.label.kind == "identifier" then c.children
  else c.children.filter fun d => !d.label.kept

/-- A tree in which nothing can count. -/
def Uncounted (language : Language) (c : Concrete) : Prop :=
  ∀ d ∈ c.preorder, d.countable language = false

instance (language : Language) (c : Concrete) : Decidable (c.Uncounted language) :=
  inferInstanceAs (Decidable (∀ d ∈ c.preorder, d.countable language = false))

/-- A tree that loses nothing that can count when it is lowered. -/
def Clean (language : Language) (c : Concrete) : Prop :=
  ∀ d ∈ c.preorder, ∀ e ∈ d.discarded language, e.Uncounted language

/-! ## Listings of concrete trees -/

/-- Trees are listed one after the other. -/
theorem preorderAll_eq_flatMap (cs : List Concrete) : preorderAll cs = cs.flatMap preorder := by
  induction cs with
  | nil => simp [preorderAll]
  | cons c cs ih => simp [preorderAll, ih]

/-- A node is listed before its children. -/
theorem preorder_eq_cons (c : Concrete) : c.preorder = c :: c.children.flatMap preorder := by
  cases c with
  | mk l cs => rw [preorder, preorderAll_eq_flatMap, children_mk]

/-- The children of a clean tree are clean. -/
theorem Clean.of_mem {language : Language} {c d : Concrete} (h : c.Clean language)
    (hd : d ∈ c.children) : d.Clean language := by
  intro e he
  apply h
  rw [preorder_eq_cons]
  exact List.mem_cons_of_mem c (List.mem_flatMap.mpr ⟨d, hd, he⟩)

/-- What a clean node discards cannot count. -/
theorem Clean.uncounted {language : Language} {c e : Concrete} (h : c.Clean language)
    (he : e ∈ c.discarded language) : e.Uncounted language := by
  apply h c _ e he
  rw [preorder_eq_cons]
  exact List.mem_cons_self

/-! ## An image counts if its node does -/

/-- An image declares a function exactly if its node does. -/
theorem isFunction_image (language : Language) (c : Concrete) :
    (c.image language).isFunction = c.declaresFunction language := by
  have hform := form_image language c
  generalize c.image language = m at hform
  cases hform with
  | function hkind hname => simp [Node.isFunction, declaresFunction, hkind, hname]
  | statement hkind => simp [Node.isFunction, declaresFunction, hkind, Language.functionKinds]
  | call hkind => simp [Node.isFunction, declaresFunction, hkind, Language.functionKinds]
  | member hkind => simp [Node.isFunction, declaresFunction, hkind, Language.functionKinds]
  | identifier hkind => simp [Node.isFunction, declaresFunction, hkind, Language.functionKinds]
  | other hfunction => simp [Node.isFunction, declaresFunction_eq_false hfunction]

/-- An image names a contract assertion exactly if its node is such a name. -/
theorem namesAssertion_image (language : Language) (c : Concrete) :
    (c.image language).namesAssertion =
      (c.label.kind == "identifier" && Node.assertionNames.contains c.label.text) := by
  have hform := form_image language c
  generalize c.image language = m at hform
  cases hform with
  | function hkind hname =>
      have hne := (ne_of_mem_functionKinds hkind).2.2.2.1
      simp [Node.namesAssertion, hne]
  | statement hkind => simp [Node.namesAssertion, hkind]
  | call hkind => simp [Node.namesAssertion, hkind]
  | member hkind => simp [Node.namesAssertion, hkind]
  | identifier hkind => simp [Node.namesAssertion, hkind]
  | other _ _ _ _ hidentifier => simp [Node.namesAssertion, hidentifier]

/-- A statement of an image is a contract assertion exactly if the image is that of
a call of one. -/
theorem isAssertion_statement_image (language : Language) (c : Concrete) (line : Int) :
    (Node.statement (c.image language) line).isAssertion = c.callsAssertion := by
  have hform := form_image language c
  generalize c.image language = m at hform
  cases hform with
  | function hkind hname =>
      have hne := (ne_of_mem_functionKinds hkind).2.1
      simp [Node.isAssertion, callsAssertion, hne]
  | statement hkind => simp [Node.isAssertion, callsAssertion, hkind]
  | call hkind hcallee =>
      simp [Node.isAssertion, callsAssertion, hkind, hcallee, namesAssertion_image]
  | member hkind => simp [Node.isAssertion, callsAssertion, hkind]
  | identifier hkind => simp [Node.isAssertion, callsAssertion, hkind]
  | other _ _ hcall =>
      by_cases hkind : c.label.kind = "call_expression"
      · simp [Node.isAssertion, callsAssertion, hcall hkind]
      · simp [Node.isAssertion, callsAssertion, hkind]

/-- An image is a contract assertion exactly if its node is. -/
theorem isAssertion_image (language : Language) (c : Concrete) :
    (c.image language).isAssertion = c.statesAssertion := by
  have hform := form_image language c
  generalize c.image language = m at hform
  cases hform with
  | function hkind hname =>
      have hne := (ne_of_mem_functionKinds hkind).1
      simp [Node.isAssertion, statesAssertion, hne]
  | statement hkind hinner =>
      rw [inner_eq_map] at hinner
      obtain ⟨d, hd, rfl⟩ := List.map_eq_singleton_iff.mp hinner
      rw [isAssertion_statement_image]
      simp [statesAssertion, hkind, hd]
  | call hkind => simp [Node.isAssertion, statesAssertion, hkind]
  | member hkind => simp [Node.isAssertion, statesAssertion, hkind]
  | identifier hkind => simp [Node.isAssertion, statesAssertion, hkind]
  | other _ hstatement =>
      by_cases hkind : c.label.kind = "expression_statement"
      · have hnot : ∀ d, c.children.filter (fun d => d.label.kept) ≠ [d] := by
          intro d hd
          apply hstatement hkind (d.image language)
          rw [inner_eq_map, hd, List.map_singleton]
        simp [Node.isAssertion, statesAssertion]
      · simp [Node.isAssertion, statesAssertion, hkind]

/-! ## Every child is visited once or left out -/

/-- The first element of a sort and the elements without it are all elements. -/
theorem perm_cons_eraseP {α : Type} {p : α → Bool} {as : List α} {a : α}
    (h : as.find? p = some a) : (a :: as.eraseP p).Perm as := by
  obtain ⟨hp, before, after, rfl, hbefore⟩ := List.find?_eq_some_iff_append.mp h
  have hrest : (before ++ a :: after).eraseP p = before ++ after := by
    rw [List.eraseP_append_right _ (by simpa using hbefore), List.eraseP_cons_of_pos hp]
  rw [hrest]
  exact List.perm_middle.symm

/-- A callee is not among the arguments. -/
theorem find?_arguments_eraseP (c : Concrete) :
    (c.children.eraseP fun d => d.label.field == some "function").find?
      (fun d => d.label.field == some "arguments") = c.field? "arguments" := by
  rw [field?]
  induction c.children with
  | nil => rfl
  | cons d ds ih =>
      by_cases hd : d.label.field = some "function"
      · simp [hd]
      · simp [List.find?_cons, hd, ih]

/-- A function's children: the kept ones, the name and the rest. -/
theorem perm_function {c name : Concrete} (hname : c.field? "name" = some name) :
    (((c.children.eraseP fun d => d.label.field == some "name").filter fun d => d.label.kept) ++
      name :: (c.children.eraseP fun d => d.label.field == some "name").filter
        fun d => !d.label.kept).Perm c.children := by
  refine List.perm_middle.trans (List.Perm.trans ?_ (perm_cons_eraseP hname))
  exact (List.filter_append_perm _ _).cons name

/-- A call's children: the callee, the arguments and the rest. -/
theorem perm_call {c callee : Concrete} (hcallee : c.field? "function" = some callee) :
    (callee :: ((c.field? "arguments").toList ++
      (c.children.eraseP fun d => d.label.field == some "function").eraseP
        fun d => d.label.field == some "arguments")).Perm c.children := by
  refine List.Perm.trans (List.Perm.cons callee ?_) (perm_cons_eraseP hcallee)
  rw [← find?_arguments_eraseP]
  cases harguments : (c.children.eraseP fun d => d.label.field == some "function").find?
      fun d => d.label.field == some "arguments" with
  | none =>
      rw [List.eraseP_of_forall_not (by simpa using harguments)]
      exact List.Perm.refl _
  | some a => exact perm_cons_eraseP harguments

/-- The children of a node are those that lowering visits and those that it
leaves out, each once. -/
theorem reached_append_discarded_perm (language : Language) (c : Concrete) :
    (c.reached language ++ c.discarded language).Perm c.children := by
  unfold reached discarded
  split_ifs with hfunction hcall hmember hidentifier
  · have hsome : (c.field? "name").isSome = true := (Bool.and_eq_true_iff.mp hfunction).2
    obtain ⟨name, hname⟩ := Option.isSome_iff_exists.mp hsome
    rw [hname]
    exact perm_function hname
  · have hsome : (c.field? "function").isSome = true := (Bool.and_eq_true_iff.mp hcall).2
    obtain ⟨callee, hcallee⟩ := Option.isSome_iff_exists.mp hsome
    rw [hcallee, List.append_assoc]
    exact perm_call hcallee
  · have hsome : (c.field? "object").isSome = true := by
      simp only [isMember, Bool.and_eq_true] at hmember
      exact hmember.1.1.2
    obtain ⟨object, hobject⟩ := Option.isSome_iff_exists.mp hsome
    rw [hobject]
    exact perm_cons_eraseP hobject
  · exact List.Perm.refl _
  · exact List.filter_append_perm _ _

/-! ## The counts agree -/

section Agreement

variable {language : Language} {p : Node → Bool} {q : Concrete → Bool}

/-- Nothing of a sort that can count occurs where nothing can count. -/
theorem Uncounted.countP_eq_zero {c : Concrete} (h : c.Uncounted language)
    (hq : ∀ d, q d = true → d.countable language = true) : c.preorder.countP q = 0 := by
  rw [List.countP_eq_zero]
  intro d hd hqd
  have hcountable := hq d hqd
  simp [h d hd] at hcountable

/-- In a clean node all that counts below it lies in the children that lowering
visits. -/
theorem Clean.countP_reached {c : Concrete} (h : c.Clean language)
    (hq : ∀ d, q d = true → d.countable language = true) :
    ((c.reached language).flatMap preorder).countP q =
      (c.children.flatMap preorder).countP q := by
  have hperm := (reached_append_discarded_perm language c).flatMap_right preorder
  have hzero : ((c.discarded language).flatMap preorder).countP q = 0 := by
    rw [List.countP_eq_zero]
    intro d hd
    obtain ⟨e, he, hd⟩ := List.mem_flatMap.mp hd
    exact List.countP_eq_zero.mp ((h.uncounted he).countP_eq_zero hq) d hd
  rw [← hperm.countP_eq q, List.flatMap_append, List.countP_append, hzero]
  rfl

/-- Images count like their nodes in a row as each does by itself. -/
theorem countP_map_image {ds : List Concrete}
    (h : ∀ d ∈ ds, (d.image language).preorder.countP p = d.preorder.countP q) :
    ((ds.map (image language)).flatMap Node.preorder).countP p =
      (ds.flatMap preorder).countP q := by
  induction ds with
  | nil => rfl
  | cons d ds ih =>
      have htail := ih fun e he => h e (List.mem_cons_of_mem d he)
      simp only [List.map_cons, List.flatMap_cons, List.countP_append, htail]
      rw [h d List.mem_cons_self]

/-- The nodes of a sort in an image, and in the images of the kept children, are as
many as in the concrete trees. -/
structure CountsAgree (language : Language) (p : Node → Bool) (q : Concrete → Bool)
    (c : Concrete) : Prop where
  image_eq : (c.image language).preorder.countP p = c.preorder.countP q
  inner_eq : ((c.inner language).flatMap Node.preorder).countP p =
    ((c.children.filter fun d => d.label.kept).flatMap preorder).countP q

/-- An argument list counts like the arguments in it, since its own kind never
counts. -/
theorem countP_arguments {c : Concrete} (hq : ∀ d, q d = true → d.countable language = true)
    (hclean : ∀ d ∈ c.children, d.Clean language)
    (hkids : ∀ d ∈ c.children, CountsAgree language p q d) :
    ((c.arguments language).flatMap Node.preorder).countP p =
      ((c.field? "arguments").toList.flatMap preorder).countP q := by
  rw [arguments]
  cases harguments : c.field? "arguments" with
  | none => rfl
  | some a =>
      have hmem : a ∈ c.children := List.mem_of_find?_eq_some harguments
      simp only [Option.toList_some, List.flatMap_singleton]
      split_ifs with hkind
      · have hkind : a.label.kind = "arguments" := by simpa using hkind
        have hreached : a.reached language = a.children.filter fun d => d.label.kept := by
          simp [reached, declaresFunction, isCall, isMember, hkind, Language.functionKinds]
        have hself : q a = false := by
          apply Bool.eq_false_iff.mpr
          intro hqa
          have hcountable := hq a hqa
          simp [countable, hkind, Language.functionKinds] at hcountable
        rw [(hkids a hmem).inner_eq, ← hreached, (hclean a hmem).countP_reached hq,
          preorder_eq_cons a, List.countP_cons, hself]
        rfl
      · rw [List.flatMap_singleton]
        exact (hkids a hmem).image_eq

/-- The children of an image count like the children that lowering visits. -/
theorem countP_children_image {c : Concrete}
    (hq : ∀ d, q d = true → d.countable language = true)
    (hclean : ∀ d ∈ c.children, d.Clean language)
    (hkids : ∀ d ∈ c.children, CountsAgree language p q d) :
    ((c.image language).children.flatMap Node.preorder).countP p =
      ((c.reached language).flatMap preorder).countP q := by
  have hplain : c.reached language = c.children.filter (fun d => d.label.kept) →
      ((c.inner language).flatMap Node.preorder).countP p =
        ((c.reached language).flatMap preorder).countP q := by
    intro hreached
    rw [hreached, inner_eq_map]
    exact countP_map_image fun d hd => (hkids d (List.mem_filter.mp hd).1).image_eq
  have hform := form_image language c
  generalize c.image language = m at hform
  cases hform with
  | function hkind hname =>
      have hreached : c.reached language =
          (c.children.eraseP fun d => d.label.field == some "name").filter
            fun d => d.label.kept := by
        simp [reached, declaresFunction, hkind, hname]
      rw [hreached]
      exact countP_map_image fun d hd =>
        (hkids d (List.mem_of_mem_eraseP (List.mem_filter.mp hd).1)).image_eq
  | statement hkind hinner =>
      rw [← hplain (by simp [reached, declaresFunction, isCall, isMember, hkind,
        Language.functionKinds]), hinner]
      rfl
  | @call callee hkind hcallee =>
      have hmem : callee ∈ c.children := List.mem_of_find?_eq_some hcallee
      have hreached : c.reached language = callee :: (c.field? "arguments").toList := by
        simp [reached, declaresFunction, isCall, hkind, hcallee, Language.functionKinds]
      rw [hreached, Node.children, List.flatMap_cons, List.flatMap_cons, List.countP_append,
        List.countP_append, (hkids callee hmem).image_eq, countP_arguments hq hclean hkids]
  | @member object property hkind hobject hproperty hchain =>
      have hmem : object ∈ c.children := List.mem_of_find?_eq_some hobject
      have hreached : c.reached language = [object] := by
        simp [reached, declaresFunction, isCall, isMember, hkind, hobject, hproperty, hchain,
          Language.functionKinds]
      rw [hreached, Node.children, List.flatMap_singleton, List.flatMap_singleton]
      exact (hkids object hmem).image_eq
  | identifier hkind =>
      simp [reached, declaresFunction, isCall, isMember, hkind, Node.children,
        Language.functionKinds]
  | other hfunction hstatement hcall hmember hidentifier =>
      apply hplain
      simp [reached, declaresFunction_eq_false hfunction, isCall_eq_false hcall,
        isMember_eq_false hmember, hidentifier]

/-- A sort of node that only countable kinds have occurs in the image of a clean
tree as often as in the tree. -/
theorem countP_image (hpq : ∀ c, p (c.image language) = q c)
    (hq : ∀ d, q d = true → d.countable language = true) (c : Concrete)
    (hclean : c.Clean language) : CountsAgree language p q c := by
  induction c using Concrete.induction with
  | step l cs hcs =>
      have hkids : ∀ d ∈ cs, CountsAgree language p q d := fun d hd =>
        hcs d hd (hclean.of_mem hd)
      refine ⟨?_, ?_⟩
      · rw [Node.preorder_eq_cons, Node.preorderAll_eq_flatMap, preorder_eq_cons (mk l cs),
          List.countP_cons, List.countP_cons, hpq,
          countP_children_image hq (fun d hd => hclean.of_mem hd) hkids,
          hclean.countP_reached hq]
      · rw [inner_eq_map]
        exact countP_map_image fun d hd => (hkids d (List.mem_filter.mp hd).1).image_eq

end Agreement

/-- Only countable kinds declare functions. -/
theorem countable_of_declaresFunction {language : Language} {c : Concrete}
    (h : c.declaresFunction language = true) : c.countable language = true := by
  simp only [declaresFunction, Bool.and_eq_true] at h
  simp only [countable, h.1, Bool.or_true]

/-- Only countable kinds state assertions. -/
theorem countable_of_statesAssertion {language : Language} {c : Concrete}
    (h : c.statesAssertion = true) : c.countable language = true := by
  simp only [statesAssertion, Bool.and_eq_true] at h
  simp only [countable, h.1, Bool.true_or]

/-- Functions that are declared and named below the root of a tree. -/
def declarationCount (language : Language) (c : Concrete) : Nat :=
  (preorderAll c.children).countP (declaresFunction language)

/-- Contract assertions that are stated below the root of a tree. -/
def statementCount (c : Concrete) : Nat :=
  (preorderAll c.children).countP statesAssertion

/-- Nothing that can count lies in what lowering a file leaves out: neither among
the children of the root that are anonymous or comments, nor in what is
discarded at any node below. -/
def LosesNothing (language : Language) (root : Concrete) : Prop :=
  (∀ d ∈ root.children, d.label.kept = false → d.Uncounted language) ∧
    ∀ c ∈ preorderAll root.children, ∀ d ∈ c.discarded language, d.Uncounted language

instance (language : Language) (root : Concrete) : Decidable (root.LosesNothing language) :=
  inferInstanceAs (Decidable
    ((∀ d ∈ root.children, d.label.kept = false → d.Uncounted language) ∧
      ∀ c ∈ preorderAll root.children, ∀ d ∈ c.discarded language, d.Uncounted language))

/-- The images of the kept children of a root hold what counts below it. -/
theorem countP_inner_of_losesNothing {language : Language} {p : Node → Bool}
    {q : Concrete → Bool} (hpq : ∀ c, p (c.image language) = q c)
    (hq : ∀ d, q d = true → d.countable language = true) {root : Concrete}
    (h : root.LosesNothing language) :
    ((root.inner language).flatMap Node.preorder).countP p =
      (preorderAll root.children).countP q := by
  have hclean : ∀ d ∈ root.children, d.Clean language := by
    intro d hd c hc
    apply h.2
    rw [preorderAll_eq_flatMap]
    exact List.mem_flatMap.mpr ⟨d, hd, hc⟩
  have hkept : ((root.inner language).flatMap Node.preorder).countP p =
      ((root.children.filter fun d => d.label.kept).flatMap preorder).countP q := by
    rw [inner_eq_map]
    apply countP_map_image
    intro d hd
    exact (countP_image hpq hq d (hclean d (List.mem_filter.mp hd).1)).image_eq
  have hzero : ((root.children.filter fun d => !d.label.kept).flatMap preorder).countP q = 0 := by
    rw [List.countP_eq_zero]
    intro c hc
    obtain ⟨d, hd, hc⟩ := List.mem_flatMap.mp hc
    obtain ⟨hd, hdrop⟩ := List.mem_filter.mp hd
    have huncounted := h.1 d hd (by simpa using hdrop)
    exact List.countP_eq_zero.mp (huncounted.countP_eq_zero hq) c hc
  have hperm := (List.filter_append_perm (fun d : Concrete => d.label.kept)
    root.children).flatMap_right preorder
  rw [hkept, preorderAll_eq_flatMap, ← hperm.countP_eq q, List.flatMap_append,
    List.countP_append, hzero]
  rfl

end Concrete

open Coverage (Tally)

/-- Counting the program extracted from a tree that loses nothing, within any budget, adds
exactly the functions declared and the assertions stated below the root of the tree. -/
theorem countTree_of_programWithin {budget : Nat} {path : Files.Pathname} {language : Language}
    {tree : Concrete} {program : Node}
    (hprogram : programWithin budget path language tree = .ok program)
    (hloses : tree.LosesNothing language) (t : Tally) :
    t.countTree program =
      (t.add (tree.declarationCount language) tree.statementCount, none) := by
  have hwhole := whole_of_programWithin hprogram
  obtain ⟨-, rfl⟩ := programWithin_eq_ok hprogram
  have hfunctions := Concrete.countP_inner_of_losesNothing
    (Concrete.isFunction_image language) (fun _ => Concrete.countable_of_declaresFunction) hloses
  have hassertions := Concrete.countP_inner_of_losesNothing
    (Concrete.isAssertion_image language) (fun _ => Concrete.countable_of_statesAssertion) hloses
  rw [Tally.countTree_of_whole t hwhole, Node.functionCount, Node.assertionCount,
    Node.preorder_eq_cons, Node.preorderAll_eq_flatMap, List.countP_cons, List.countP_cons,
    Node.children, hfunctions, hassertions]
  rfl

/-- A commented function with one precondition adds one to each counter. -/
theorem countTree_of_guarded_function :
    let tree : Concrete := .mk { kind := "program" } [
      .mk { kind := "comment" } [],
      .mk { kind := "function_declaration" } [
        .mk { kind := "function", named := false } [],
        .mk { kind := "identifier", field := some "name", text := "f" } [],
        .mk { kind := "statement_block", field := some "body" } [
          .mk { kind := "expression_statement" } [
            .mk { kind := "call_expression" } [
              .mk { kind := "identifier", field := some "function", text := "precondition" } [],
              .mk { kind := "arguments", field := some "arguments" } [
                .mk { kind := "true" } []]],
            .mk { kind := ";", named := false } []]]]]
    ∃ program, programOf ⟨.relative, ["a.js"]⟩ .javascript tree = .ok program ∧
      tree.LosesNothing .javascript ∧
      Tally.countTree {} program = ({ functions := 1, assertions := 1 }, none) := by
  intro tree
  have hprogram : programOf ⟨.relative, ["a.js"]⟩ .javascript tree = .ok _ := rfl
  have hloses : tree.LosesNothing .javascript := by decide
  have hfunctions : tree.declarationCount .javascript = 1 := by decide
  have hassertions : tree.statementCount = 1 := by decide
  refine ⟨_, hprogram, hloses, ?_⟩
  rw [countTree_of_programWithin hprogram hloses, hfunctions, hassertions]
  rfl

end Tree
end ContractAudit
