import Mathlib.Data.List.Find
import ContractAudit.Proofs.Tree.SourceOrder

/-!
# Comments are invisible

Comments can stand between any two tokens, so a concrete tree has them anywhere.
Each rule of lowering chooses children in its own way: by being named, by a
field, or by a kind.  None of these choices ever comes to a comment that has no
field name, so that taking all comments out of a tree changes nothing in what it
is lowered to, nor in whether the budget suffices.

Main results:

- Theorem {lit}`assemble_uncommented`: lowering a node from its children passes
  over the comments among them.
- Theorem {lit}`Concrete.lowersLikeStripped`: a tree is lowered like the tree
  without its comments, within every budget.
- Theorem {lit}`comments_are_invisible`: an extracted program does not depend on
  comments, and holds none.
-/

namespace ContractAudit
namespace Tree

/-- Whether a node is a comment. -/
def Label.isComment (l : Label) : Bool :=
  skippedKinds.contains l.kind

/-- A child that is kept is no comment. -/
theorem Label.isComment_eq_false_of_kept {l : Label} (h : l.kept = true) : l.isComment = false := by
  rw [kept, Bool.and_eq_true, Bool.not_eq_true'] at h
  exact h.2

/-! ## Children without comments -/

namespace Pending

/-- The children that are no comments. -/
def uncommented (kids : List Pending) : List Pending :=
  kids.filter fun k => !k.label.isComment

/-- No comment among the children has a field name. -/
def CommentsUnnamed (kids : List Pending) : Prop :=
  ∀ k ∈ kids, k.label.isComment = true → k.label.field = none

variable {kids : List Pending}

/-- The loop over the children passes over comments. -/
theorem each_uncommented (kids : List Pending) : each (uncommented kids) = each kids := by
  have hfilter : (uncommented kids).filter (fun k => k.label.kept) =
      kids.filter fun k => k.label.kept := by
    rw [uncommented, List.filter_filter]
    apply List.filter_congr
    intro k _
    by_cases hkept : k.label.kept = true
    · simp [hkept, Label.isComment_eq_false_of_kept hkept]
    · simp [hkept]
  rw [each, hfilter, each]

/-- Gathering passes over comments. -/
theorem gather_uncommented (kids : List Pending) : gather (uncommented kids) = gather kids := by
  rw [gather, each_uncommented, gather]

/-- A child with a field name is no comment. -/
theorem CommentsUnnamed.isComment_eq_false (h : CommentsUnnamed kids) {k : Pending} {name : String}
    (hk : k ∈ kids) (hfield : (k.label.field == some name) = true) : k.label.isComment = false := by
  by_cases hcomment : k.label.isComment = true
  · rw [h k hk hcomment] at hfield
    simp at hfield
  · simpa using hcomment

/-- A field leads to the same child with and without comments. -/
theorem CommentsUnnamed.field?_uncommented (h : CommentsUnnamed kids) (name : String) :
    field? (uncommented kids) name = field? kids name := by
  rw [field?, uncommented, List.find?_filter, field?]
  apply List.find?_congr
  intro k hk
  by_cases hfield : (k.label.field == some name) = true
  · simp [hfield, h.isComment_eq_false hk hfield]
  · simp [hfield]

/-- Taking the child of a field out and taking the comments out can be done in
either order. -/
theorem CommentsUnnamed.eraseP_uncommented (h : CommentsUnnamed kids) (name : String) :
    (uncommented kids).eraseP (fun k => k.label.field == some name) =
      uncommented (kids.eraseP fun k => k.label.field == some name) := by
  induction kids with
  | nil => rfl
  | cons k kids ih =>
      have hrest := ih fun m hm => h m (List.mem_cons_of_mem k hm)
      simp only [uncommented] at hrest ⊢
      by_cases hfield : (k.label.field == some name) = true
      · have hcomment := h.isComment_eq_false List.mem_cons_self hfield
        simp [hfield, hcomment]
      · by_cases hcomment : k.label.isComment = true
        · simp [hfield, hcomment, hrest]
        · simp [hfield, hcomment, hrest]

/-- Comments are not of a kind that is no comment. -/
theorem any_uncommented (kids : List Pending) {kind : String} (hkind : kind ∉ skippedKinds) :
    ((uncommented kids).any fun k => k.label.kind == kind) =
      kids.any fun k => k.label.kind == kind := by
  rw [uncommented, List.any_filter]
  congr 1
  funext k
  by_cases hk : k.label.kind = kind
  · simp [Label.isComment, hk, hkind]
  · simp [hk]

end Pending

/-! ## Each rule of lowering passes over comments -/

section Rules

variable {kids : List Pending} (l : Label)

/-- An ordinary construct is lowered without looking at comments. -/
theorem lowerOther_uncommented (kids : List Pending) :
    lowerOther l (Pending.uncommented kids) = lowerOther l kids := by
  funext budget
  rw [lowerOther, Pending.gather_uncommented, lowerOther]

/-- An expression statement is lowered without looking at comments; they do not
count as expressions of it. -/
theorem lowerStatement_uncommented (kids : List Pending) :
    lowerStatement l (Pending.uncommented kids) = lowerStatement l kids := by
  funext budget
  rw [lowerStatement, Pending.gather_uncommented, lowerStatement]

variable (h : Pending.CommentsUnnamed kids)
include h

/-- A declaration of a function is lowered without looking at comments. -/
theorem lowerFunction_uncommented :
    lowerFunction l (Pending.uncommented kids) = lowerFunction l kids := by
  have hasync := Pending.any_uncommented kids (show "async" ∉ skippedKinds by decide)
  simp only [lowerFunction, h.field?_uncommented, lowerOther_uncommented, h.eraseP_uncommented,
    Pending.each_uncommented, hasync]

/-- A member access is lowered without looking at comments. -/
theorem lowerMember_uncommented :
    lowerMember l (Pending.uncommented kids) = lowerMember l kids := by
  funext budget
  rw [lowerMember, lowerMember, h.field?_uncommented, h.field?_uncommented, h.field?_uncommented,
    lowerOther_uncommented]

/-- A call is lowered without looking at comments. -/
theorem lowerCall_uncommented :
    lowerCall l (Pending.uncommented kids) = lowerCall l kids := by
  have harguments : lowerArguments (Pending.uncommented kids) = lowerArguments kids := by
    funext budget
    rw [lowerArguments, h.field?_uncommented, lowerArguments]
  rw [lowerCall, lowerCall, h.field?_uncommented, h.field?_uncommented, harguments,
    lowerOther_uncommented]

/-- Lowering a node from its children passes over the comments among them. -/
theorem assemble_uncommented (language : Language) :
    assemble language l (Pending.uncommented kids) = assemble language l kids := by
  funext budget
  rw [assemble, assemble, lowerFunction_uncommented l h, lowerStatement_uncommented,
    lowerCall_uncommented l h, lowerMember_uncommented l h, lowerOther_uncommented]

end Rules

namespace Concrete

/-! ## Trees without comments -/

mutual
/-- The tree without the comments below its root and what lies in them. -/
def strip : Concrete → Concrete
  | mk l cs => mk l (stripAll cs)

/-- The trees that are no comments, without the comments in them. -/
def stripAll : List Concrete → List Concrete
  | [] => []
  | c :: cs => if c.label.isComment then stripAll cs else strip c :: stripAll cs
end

@[simp]
theorem label_strip (c : Concrete) : c.strip.label = c.label := by
  cases c with
  | mk l cs => rw [strip, label_mk, label_mk]

/-- The comments among trees are left out, the others lose theirs. -/
theorem stripAll_eq_map (cs : List Concrete) :
    stripAll cs = (cs.filter fun c => !c.label.isComment).map strip := by
  induction cs with
  | nil => rw [stripAll, List.filter_nil, List.map_nil]
  | cons c cs ih =>
      rw [stripAll, ih]
      by_cases hcomment : c.label.isComment = true
      · simp [hcomment]
      · simp [hcomment]

/-- No comment is left below the root. -/
theorem isComment_of_mem_strip {c d : Concrete} (h : d ∈ preorderAll c.strip.children) :
    d.label.isComment = false := by
  induction c using Concrete.induction with
  | step l cs hcs =>
      rw [strip, children_mk, stripAll_eq_map, preorderAll_eq_flatMap, List.mem_flatMap] at h
      obtain ⟨e, he, hd⟩ := h
      obtain ⟨c, hc, rfl⟩ := List.mem_map.mp he
      obtain ⟨hc, hcomment⟩ := List.mem_filter.mp hc
      rw [preorder_eq_cons, ← preorderAll_eq_flatMap] at hd
      rcases List.mem_cons.mp hd with rfl | hd
      · rw [label_strip]
        simpa using hcomment
      · exact hcs c hc hd

/-- No comment in the tree has a field name. -/
def CommentsUnnamed (tree : Concrete) : Prop :=
  ∀ c ∈ tree.preorder, c.label.isComment = true → c.label.field = none

instance (tree : Concrete) : Decidable tree.CommentsUnnamed :=
  inferInstanceAs (Decidable
    (∀ c ∈ tree.preorder, c.label.isComment = true → c.label.field = none))

/-- The children of a tree have no comments with field names either. -/
theorem CommentsUnnamed.of_mem {c d : Concrete} (h : c.CommentsUnnamed) (hd : d ∈ c.children) :
    d.CommentsUnnamed :=
  fun e he => h e (mem_preorder_of_mem_children hd he)

/-- The pending children of a tree have no comments with field names. -/
theorem CommentsUnnamed.pending {c : Concrete} (h : c.CommentsUnnamed) (language : Language) :
    Pending.CommentsUnnamed (pending language c.children) := by
  intro k hk
  rw [pending_eq_map] at hk
  obtain ⟨d, hd, rfl⟩ := List.mem_map.mp hk
  exact h d (mem_preorder_of_mem_children hd d.mem_preorder_self)

/-! ## Lowering a stripped tree -/

/-- The tree and its children are lowered alike with and without comments, within
every budget. -/
structure LowersLikeStripped (language : Language) (c : Concrete) : Prop where
  node : c.strip.lower language = c.lower language
  inner : c.strip.lowerChildren language = c.lowerChildren language

/-- The pending children of a stripped tree are those that are no comments. -/
theorem pending_stripAll {language : Language} {cs : List Concrete}
    (h : ∀ c ∈ cs, LowersLikeStripped language c) :
    Concrete.pending language (stripAll cs) =
      Pending.uncommented (Concrete.pending language cs) := by
  rw [pending_eq_map, pending_eq_map, stripAll_eq_map, Pending.uncommented, List.filter_map,
    List.map_map]
  apply List.map_congr_left
  intro c hc
  have hc := h c (List.mem_filter.mp hc).1
  simp only [Function.comp_apply, label_strip, hc.node, hc.inner]

/-- A tree whose comments have no field names is lowered like the tree without
comments. -/
theorem lowersLikeStripped {language : Language} {c : Concrete} (h : c.CommentsUnnamed) :
    LowersLikeStripped language c := by
  induction c using Concrete.induction with
  | step l cs hcs =>
      have hkids : ∀ c ∈ cs, LowersLikeStripped language c := fun c hc => hcs c hc (h.of_mem hc)
      have hunnamed : Pending.CommentsUnnamed (Concrete.pending language cs) := h.pending language
      refine ⟨?_, ?_⟩
      · funext budget
        rw [strip, lower, lower, pending_stripAll hkids, assemble_uncommented l hunnamed]
      · funext budget
        rw [strip, lowerChildren, lowerChildren, pending_stripAll hkids,
          Pending.gather_uncommented]

/-- Taking comments out of a tree brings in no error. -/
theorem hasError_of_hasError_strip {c : Concrete} (h : c.strip.hasError = true) :
    c.hasError = true := by
  induction c using Concrete.induction with
  | step l cs hcs =>
      rw [strip, hasError] at h
      rw [hasError]
      cases hflag : l.flagged with
      | some flag =>
          rw [hflag] at h
          exact h
      | none =>
          rw [hflag] at h
          simp only [Bool.or_eq_true] at h ⊢
          refine h.imp_right fun hbelow => ?_
          rw [anyError_iff, stripAll_eq_map] at hbelow
          obtain ⟨d, hd, herror⟩ := hbelow
          obtain ⟨c, hc, rfl⟩ := List.mem_map.mp hd
          have hmem := (List.mem_filter.mp hc).1
          exact (anyError_iff cs).mpr ⟨c, hmem, hcs c hmem herror⟩

/-- The nodes that lowering comes to are nodes of the tree. -/
theorem mem_preorder_of_mem_visited {language : Language} {c d : Concrete}
    (h : d ∈ c.visited language) : d ∈ c.preorder := by
  induction hsize : c.size using Nat.strongRecOn generalizing c with
  | ind n ih =>
      subst hsize
      rw [visited_eq_cons] at h
      rcases List.mem_cons.mp h with rfl | h
      · exact d.mem_preorder_self
      · obtain ⟨e, he, hd⟩ := List.mem_flatMap.mp h
        have hbelow : d ∈ e.preorder := ih e.size (size_lt_of_mem_descents he) hd rfl
        rcases mem_children_of_mem_descents he with hchild | ⟨a, ha, hchild⟩
        · exact mem_preorder_of_mem_children hchild hbelow
        · exact mem_preorder_of_mem_children ha (mem_preorder_of_mem_children hchild hbelow)

end Concrete

/-! ## Extracted programs -/

/-- The program of a tree is the program of the tree without comments. -/
theorem programWithin_strip {tree : Concrete} (herror : tree.hasError = false)
    (hfields : tree.CommentsUnnamed) (budget : Nat) (path : Files.Pathname) (language : Language) :
    programWithin budget path language tree.strip = programWithin budget path language tree := by
  have hstrip : tree.strip.hasError = false := by
    by_cases h : tree.strip.hasError = true
    · rw [Concrete.hasError_of_hasError_strip h] at herror
      cases herror
    · simpa using h
  rw [programWithin_of_sound hstrip, programWithin_of_sound herror,
    (Concrete.lowersLikeStripped hfields).inner]

/-- Below the root of an extracted program every node stands for a node below the
root of the concrete tree. -/
theorem exists_stamp_of_mem_preorder {budget : Nat} {path : Files.Pathname} {language : Language}
    {tree : Concrete} {program n : Node}
    (h : programWithin budget path language tree = .ok program) (hn : n ∈ program.preorder) :
    n = program ∨ ∃ c ∈ Concrete.preorderAll tree.children, n.stamp? = some c.stamp := by
  obtain ⟨-, rfl⟩ := programWithin_eq_ok h
  rw [Node.preorder_eq_cons, Node.preorderAll_eq_flatMap, Node.children,
    Concrete.flatMap_preorder_inner] at hn
  rcases List.mem_cons.mp hn with rfl | hn
  · exact .inl rfl
  · obtain ⟨c, hc, rfl⟩ := List.mem_map.mp hn
    obtain ⟨d, hd, hc⟩ := List.mem_flatMap.mp hc
    refine .inr ⟨c, ?_, c.stamp?_image language⟩
    rw [Concrete.preorderAll_eq_flatMap]
    exact List.mem_flatMap.mpr
      ⟨d, (List.mem_filter.mp hd).1, Concrete.mem_preorder_of_mem_visited hc⟩

/-- Within any budget, a tree without errors whose comments have no field names is lowered
exactly like the tree without comments, and no node of the program stands for a comment.
Two such trees that differ by their comments only therefore have the same program,
wherever the comments stand. -/
theorem comments_are_invisible {tree : Concrete} (herror : tree.hasError = false)
    (hfields : tree.CommentsUnnamed) (budget : Nat) (path : Files.Pathname) (language : Language) :
    programWithin budget path language tree.strip = programWithin budget path language tree ∧
    (∀ program, programWithin budget path language tree = .ok program →
      ∀ kind children line, Node.other kind children line ∈ program.preorder →
        kind ∉ ["comment", "html_comment", "hash_bang_line"]) ∧
    ∀ tree' : Concrete, tree'.hasError = false → tree'.CommentsUnnamed →
      tree'.strip = tree.strip →
      programWithin budget path language tree' = programWithin budget path language tree := by
  refine ⟨programWithin_strip herror hfields budget path language, ?_, ?_⟩
  · intro program hprogram kind children line hmem
    rw [← programWithin_strip herror hfields] at hprogram
    rcases exists_stamp_of_mem_preorder hprogram hmem with hroot | ⟨c, hc, hstamp⟩
    · obtain ⟨-, rfl⟩ := programWithin_eq_ok hprogram
      cases hroot
    · obtain rfl : kind = c.label.kind := (Prod.mk.inj (Option.some.inj hstamp)).1
      have hcomment : skippedKinds.contains c.label.kind = false :=
        Concrete.isComment_of_mem_strip hc
      exact fun hskipped => Bool.false_ne_true (hcomment.symm.trans
        (List.contains_iff_mem.mpr hskipped))
  · intro tree' herror' hfields' hstrip
    rw [← programWithin_strip herror' hfields', hstrip, programWithin_strip herror hfields]

/-- A precondition with comments before, in and behind it is the one assertion of
its program, as it is without them. -/
theorem comments_are_invisible_around_assertion :
    let comment : Concrete := .mk { kind := "comment" } []
    let callee : Label := { kind := "identifier", field := some "function", text := "precondition" }
    let tree : Concrete := .mk { kind := "program" } [
      .mk { kind := "hash_bang_line" } [],
      .mk { kind := "expression_statement" } [
        comment,
        .mk { kind := "call_expression" } [
          .mk callee [],
          comment,
          .mk { kind := "arguments", field := some "arguments" } [
            comment, .mk { kind := "true" } []]],
        comment]]
    tree.hasError = false ∧ tree.CommentsUnnamed ∧ tree.strip.preorder.length = 6 ∧
      ∃ program, programOf ⟨.relative, ["a.js"]⟩ .javascript tree = .ok program ∧
        programOf ⟨.relative, ["a.js"]⟩ .javascript tree.strip = .ok program ∧
        program.assertionCount = 1 := by
  intro comment callee tree
  have herror : tree.hasError = false := by decide
  have hfields : tree.CommentsUnnamed := by decide
  have hprogram : programOf ⟨.relative, ["a.js"]⟩ .javascript tree = .ok _ := rfl
  obtain ⟨hstrip, -, -⟩ :=
    comments_are_invisible herror hfields nestingBudget ⟨.relative, ["a.js"]⟩ .javascript
  exact ⟨herror, hfields, by decide, _, hprogram, hstrip.trans hprogram, by decide⟩

end Tree
end ContractAudit
