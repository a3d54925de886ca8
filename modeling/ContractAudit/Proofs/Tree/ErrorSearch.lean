import ContractAudit.Proofs.Tree.SourceOrder

/-!
# The search for errors

The search for the first malformed node takes trees from a work list and passes
over every tree that is not flagged.  Where the flags are consistent, nothing
malformed lies in what it passes over: what is left of the search is at any
moment the search through all nodes of the trees in the work list, in the order
of the source.  A tree is then refused exactly if something in it is malformed,
and always with the place of the first such node.

Main results:

- Theorem {lit}`Concrete.FlagsConsistent.hasError_iff`: a tree is flagged if and
  only if something in it is malformed.
- Theorem {lit}`Concrete.searchError_eq_find?`: the invariant of the work list.
- Theorem {lit}`first_error_is_reported`: what is found, and what a tree is
  refused for.
-/

namespace ContractAudit
namespace Tree
namespace Concrete

/-! ## Consistent flags -/

/-- Whether a node itself is malformed, by its kind or by its mark. -/
theorem isBad_iff (c : Concrete) :
    c.isBad = true ↔ c.label.kind = "ERROR" ∨ c.label.missing = true := by
  simp [isBad]

/-- Every node of the tree is flagged exactly if it is malformed itself or has a
flagged child. -/
def FlagsConsistent (tree : Concrete) : Prop :=
  ∀ c ∈ tree.preorder, c.hasError = true ↔
    c.label.kind = "ERROR" ∨ c.label.missing = true ∨ ∃ d ∈ c.children, d.hasError = true

/-- The flags in a child are consistent too. -/
theorem FlagsConsistent.of_mem {c d : Concrete} (h : c.FlagsConsistent) (hd : d ∈ c.children) :
    d.FlagsConsistent :=
  fun e he => h e (mem_preorder_of_mem_children hd he)

/-- Flags that follow from the tree are consistent. -/
theorem flagsConsistent_of_unflagged {tree : Concrete}
    (h : ∀ c ∈ tree.preorder, c.label.flagged = none) : tree.FlagsConsistent := by
  intro c hc
  cases c with
  | mk l cs =>
      have hnone : l.flagged = none := h _ hc
      rw [hasError, hnone]
      simp only [Bool.or_eq_true, beq_iff_eq, anyError_iff, label_mk, children_mk, or_assoc]

/-- A tree is flagged exactly if something in it is malformed. -/
theorem FlagsConsistent.hasError_iff {c : Concrete} (h : c.FlagsConsistent) :
    c.hasError = true ↔ ∃ d ∈ c.preorder, d.isBad = true := by
  induction c using Concrete.induction with
  | step l cs hcs =>
      have hkids : ∀ d ∈ cs, (d.hasError = true ↔ ∃ e ∈ d.preorder, e.isBad = true) :=
        fun d hd => hcs d hd (h.of_mem hd)
      rw [h _ (mk l cs).mem_preorder_self, ← or_assoc, ← isBad_iff, preorder_eq_cons, children_mk]
      constructor
      · rintro (hbad | ⟨d, hd, herror⟩)
        · exact ⟨mk l cs, List.mem_cons_self, hbad⟩
        · obtain ⟨e, he, hbad⟩ := (hkids d hd).mp herror
          exact ⟨e, List.mem_cons_of_mem _ (List.mem_flatMap.mpr ⟨d, hd, he⟩), hbad⟩
      · rintro ⟨e, he, hbad⟩
        rcases List.mem_cons.mp he with rfl | he
        · exact .inl hbad
        · obtain ⟨d, hd, he⟩ := List.mem_flatMap.mp he
          exact .inr ⟨d, hd, (hkids d hd).mpr ⟨e, he, hbad⟩⟩

/-! ## The work list -/

/-- What is left of the search is the search through all nodes of the work list in
the order of the source, though trees that are not flagged are passed over. -/
theorem searchError_eq_find? {work : List Concrete} (h : ∀ c ∈ work, c.FlagsConsistent) :
    searchError work = (work.flatMap preorder).find? isBad := by
  fun_induction searchError work with
  | case1 => rfl
  | case2 c rest hbad =>
      rw [List.flatMap_cons, preorder_eq_cons, List.cons_append, List.find?_cons_of_pos hbad]
  | case3 c rest hbad herror ih =>
      have hwork : ∀ d ∈ c.children ++ rest, d.FlagsConsistent := by
        intro d hd
        rcases List.mem_append.mp hd with hd | hd
        · exact (h c List.mem_cons_self).of_mem hd
        · exact h d (List.mem_cons_of_mem c hd)
      rw [ih hwork, List.flatMap_cons, preorder_eq_cons, List.cons_append,
        List.find?_cons_of_neg hbad, List.flatMap_append]
  | case4 c rest hbad hsound ih =>
      -- nothing in the tree that is passed over is malformed
      have hnone : c.preorder.find? isBad = none := by
        rw [List.find?_eq_none]
        intro d hd hbad
        exact hsound ((h c List.mem_cons_self).hasError_iff.mpr ⟨d, hd, hbad⟩)
      rw [ih fun d hd => h d (List.mem_cons_of_mem c hd), List.flatMap_cons, List.find?_append,
        hnone, Option.none_or]

/-- The search from a stack of trees whose top is at the end. -/
def searchStack (stack : List Concrete) : Option Concrete :=
  searchError stack.reverse

/-- Nothing is found from the empty stack. -/
theorem searchStack_nil : searchStack [] = none := by
  rw [searchStack, List.reverse_nil, searchError]

/-- The tree on top is found or taken off; the children of a flagged one are put there in
reverse. -/
theorem searchStack_push (stack : List Concrete) (c : Concrete) :
    searchStack (stack ++ [c]) =
      if c.isBad then some c
      else if c.hasError then searchStack (stack ++ c.children.reverse)
      else searchStack stack := by
  have hpush : (stack ++ c.children.reverse).reverse = c.children ++ stack.reverse := by
    rw [List.reverse_append, List.reverse_reverse]
  rw [searchStack, searchStack, searchStack, hpush, List.reverse_concat, searchError]

/-- The search finds the first malformed node of the listing. -/
theorem findError_eq_find? {tree : Concrete} (h : tree.FlagsConsistent) :
    tree.findError = tree.preorder.find? isBad := by
  have hwork : ∀ c ∈ [tree], c.FlagsConsistent := by
    intro c hc
    rwa [List.mem_singleton.mp hc]
  rw [findError, searchError_eq_find? hwork, List.flatMap_singleton]

/-- The search finds nothing exactly in a tree that is not flagged. -/
theorem findError_eq_none_iff {tree : Concrete} (h : tree.FlagsConsistent) :
    tree.findError = none ↔ tree.hasError = false := by
  rw [findError_eq_find? h, List.find?_eq_none, Bool.eq_false_iff, ne_eq, h.hasError_iff]
  constructor
  · rintro hall ⟨c, hc, hbad⟩
    exact hall c hc hbad
  · intro hnone c hc hbad
    exact hnone ⟨c, hc, hbad⟩

end Concrete

/-! ## What a tree is refused for -/

/-- The line in the details of a fault of parsing. -/
theorem detail?_line_parsing (path : Files.Pathname) (language reason : String)
    (line column : Option Int) :
    (Fault.parsing path language reason line column).detail? "line" = line.map Number.intText := by
  cases line <;> cases column <;> rfl

/-- The reason to refuse a tree, from its first malformed node. -/
def refusalReason (bad : Concrete) : String :=
  if bad.label.missing then "missing " ++ bad.label.kind else "unexpected syntax"

/-- The two reasons are told apart by their first letter. -/
theorem missing_ne_unexpected (kind : String) : "missing " ++ kind ≠ "unexpected syntax" := by
  intro h
  have hchars := congrArg String.toList h
  simp at hchars

/-- What is missing is said exactly of a missing node. -/
theorem refusalReason_iff (bad : Concrete) :
    (refusalReason bad = "missing " ++ bad.label.kind ↔ bad.label.missing = true) ∧
      (refusalReason bad = "unexpected syntax" ↔ bad.label.missing = false) := by
  rw [refusalReason]
  cases bad.label.missing with
  | true => simp [missing_ne_unexpected]
  | false => simp [(missing_ne_unexpected _).symm]

section Checked

variable {path : Files.Pathname} {language : Language} {tree : Concrete}

/-- A tree is refused exactly if it is flagged. -/
theorem checked_eq_error_iff {f : Fault} :
    checked path language tree = .error f ↔
      tree.hasError = true ∧ f = syntaxFault path language tree := by
  rw [checked]
  cases tree.hasError with
  | true => simp [eq_comm]
  | false => simp

/-- A tree is passed on exactly if it is not flagged. -/
theorem checked_eq_ok_iff : checked path language tree = .ok tree ↔ tree.hasError = false := by
  rw [checked]
  cases tree.hasError with
  | true => simp
  | false => simp

/-- A tree with consistent flags that is refused has a first malformed node, and is
refused for it. -/
theorem exists_first_of_checked_eq_error {f : Fault} (h : tree.FlagsConsistent)
    (hf : checked path language tree = .error f) :
    ∃ bad, tree.preorder.find? Concrete.isBad = some bad ∧
      f = .parsing path language.name (refusalReason bad) (some ((bad.label.row : Int) + 1))
        (some ((bad.label.column : Int) + 1)) := by
  obtain ⟨herror, rfl⟩ := checked_eq_error_iff.mp hf
  cases hfind : tree.findError with
  | none =>
      rw [(Concrete.findError_eq_none_iff h).mp hfind] at herror
      cases herror
  | some bad =>
      refine ⟨bad, by rw [← Concrete.findError_eq_find? h, hfind], ?_⟩
      rw [syntaxFault, hfind]
      rfl

end Checked

/-- What the search for errors finds in a tree and what the check of the tree comes
to. -/
structure FirstErrorReported (path : Files.Pathname) (language : Language) (tree : Concrete) :
    Prop where
  /-- The search starts with the tree on its stack and takes the node on top, until it is
  malformed; only below a flagged node are the children put there, in reverse. -/
  loop : tree.findError = Concrete.searchStack [tree] ∧ Concrete.searchStack [] = none ∧
    ∀ stack c, Concrete.searchStack (stack ++ [c]) =
      if c.isBad then some c
      else if c.hasError then Concrete.searchStack (stack ++ c.children.reverse)
      else Concrete.searchStack stack
  /-- The search finds what a search through all nodes finds first. -/
  first : tree.findError = tree.preorder.find? Concrete.isBad
  /-- It finds nothing exactly if the tree is not flagged. -/
  nothing : tree.findError = none ↔ tree.hasError = false
  /-- The tree is refused, as one that cannot be parsed, exactly if something in it
  is malformed. -/
  refused : (∃ f, checked path language tree = .error f ∧ f.kind = .parsing) ↔
    ∃ c ∈ tree.preorder, c.label.kind = "ERROR" ∨ c.label.missing = true
  /-- Else it is passed on as it is. -/
  accepted : checked path language tree = .ok tree ↔
    ∀ c ∈ tree.preorder, ¬(c.label.kind = "ERROR" ∨ c.label.missing = true)
  /-- The fault has the place of the first malformed node, counted from one, and
  says that something is missing exactly if this node is. -/
  located : ∀ f, checked path language tree = .error f →
    ∃ bad reason, tree.preorder.find? Concrete.isBad = some bad ∧
      f = .parsing path language.name reason (some ((bad.label.row : Int) + 1))
        (some ((bad.label.column : Int) + 1)) ∧
      (reason = "missing " ++ bad.label.kind ↔ bad.label.missing = true) ∧
      (reason = "unexpected syntax" ↔ bad.label.missing = false)
  /-- No tree is refused without a place. -/
  placed : checked path language tree ≠
    .error (.parsing path language.name "syntax error" none none)

/-- In a tree with consistent flags the search for errors finds the first malformed
node, and the tree is refused exactly if there is one, with its place. -/
theorem first_error_is_reported {tree : Concrete} (h : tree.FlagsConsistent)
    (path : Files.Pathname) (language : Language) : FirstErrorReported path language tree := by
  have hflagged : tree.hasError = true ↔
      ∃ c ∈ tree.preorder, c.label.kind = "ERROR" ∨ c.label.missing = true := by
    simp only [h.hasError_iff, Concrete.isBad_iff]
  refine ⟨⟨rfl, Concrete.searchStack_nil, Concrete.searchStack_push⟩,
    Concrete.findError_eq_find? h, Concrete.findError_eq_none_iff h, ?_, ?_, ?_, ?_⟩
  · rw [← hflagged]
    constructor
    · rintro ⟨f, hf, -⟩
      exact (checked_eq_error_iff.mp hf).1
    · intro herror
      have hf : checked path language tree = .error (syntaxFault path language tree) :=
        checked_eq_error_iff.mpr ⟨herror, rfl⟩
      obtain ⟨bad, -, hfault⟩ := exists_first_of_checked_eq_error h hf
      exact ⟨_, hf, by rw [hfault]; rfl⟩
  · rw [checked_eq_ok_iff, Bool.eq_false_iff, ne_eq, hflagged]
    simp only [not_exists, not_and]
  · intro f hf
    obtain ⟨bad, hfind, hfault⟩ := exists_first_of_checked_eq_error h hf
    exact ⟨bad, refusalReason bad, hfind, hfault, refusalReason_iff bad⟩
  · intro hf
    obtain ⟨bad, -, hfault⟩ := exists_first_of_checked_eq_error h hf
    have hline := congrArg (fun f : Fault => f.detail? "line") hfault
    simp only [detail?_line_parsing] at hline
    cases hline

/-- A semicolon that is missing on the second line, before something malformed on
the third, is what the tree is refused for. -/
theorem first_error_is_reported_for_semicolon :
    let semicolon : Concrete := .mk { kind := ";", row := 1, column := 7, missing := true } []
    let tree : Concrete := .mk { kind := "program" } [
      .mk { kind := "empty_statement" } [],
      .mk { kind := "expression_statement", row := 1 } [
        .mk { kind := "identifier", row := 1 } [], semicolon],
      .mk { kind := "ERROR", row := 2 } []]
    tree.FlagsConsistent ∧ tree.findError = some semicolon ∧
      checked ⟨.relative, ["a.js"]⟩ .javascript tree =
        .error (.parsing ⟨.relative, ["a.js"]⟩ "javascript" "missing ;" (some 2) (some 8)) := by
  intro semicolon tree
  have hflags : tree.FlagsConsistent := Concrete.flagsConsistent_of_unflagged (by decide)
  have hreport := first_error_is_reported hflags ⟨.relative, ["a.js"]⟩ .javascript
  have hfirst : tree.preorder.find? Concrete.isBad = some semicolon := rfl
  refine ⟨hflags, hreport.first.trans hfirst, ?_⟩
  obtain ⟨f, hf, -⟩ := hreport.refused.mpr
    ⟨semicolon, List.mem_of_find?_eq_some hfirst, .inr rfl⟩
  obtain ⟨bad, reason, hbad, hfault, hmissing, -⟩ := hreport.located f hf
  obtain rfl : semicolon = bad := Option.some.inj (hfirst.symm.trans hbad)
  rw [hf, hfault, hmissing.mpr rfl]
  rfl

end Tree
end ContractAudit
