import Mathlib.Tactic.SplitIfs
import ContractAudit.Tree.Extraction
import ContractAudit.Proofs.Tree.Traversal

/-!
# The image of a concrete tree

Lowering runs under a budget and can fail.  What it gives when it succeeds does
not depend on the budget: it is the image of the concrete tree, which is defined
here by recursion without a budget.  Facts about lowered trees are facts about
images.

Main results:

- Theorem {lit}`Concrete.form_image`: the image of a node, kind by kind.
- Theorem {lit}`Concrete.lowersToImage`: a lowered tree is the image.
- Theorem {lit}`programWithin_eq_ok`: an extracted program holds the images of the
  kept children of the root.
- Theorem {lit}`Concrete.whole_image`: no foreign value occurs in an image.
-/

namespace ContractAudit
namespace Tree

/-! ## Images -/

/-- A child with what becomes of it, and of its own kept children. -/
structure Image where
  label : Label
  node : Node
  inner : List Node

namespace Image

/-- The first child with a field name. -/
def field? (kids : List Image) (name : String) : Option Image :=
  kids.find? fun k => k.label.field == some name

/-- The images of the kept children. -/
def gather (kids : List Image) : List Node :=
  (kids.filter fun k => k.label.kept).map node

/-- The image of an expression statement. -/
def statement (l : Label) (kids : List Image) : Node :=
  match gather kids with
  | [e] => .statement e l.line
  | cs => .other l.kind cs l.line

/-- The image of a declaration of a function. -/
def function (l : Label) (kids : List Image) : Node :=
  match field? kids "name" with
  | none => .other l.kind (gather kids) l.line
  | some name =>
    .function name.label.text (gather (kids.eraseP fun k => k.label.field == some "name"))
      (kids.any fun k => k.label.kind == "async") ("generator_".isPrefixOf l.kind) l.line

/-- The image of a member access. -/
def member (l : Label) (kids : List Image) : Node :=
  match field? kids "object", field? kids "property", field? kids "optional_chain" with
  | some object, some property, none => .member object.node property.label.text l.line
  | _, _, _ => .other l.kind (gather kids) l.line

/-- The images of the arguments of a call. -/
def arguments (kids : List Image) : List Node :=
  match field? kids "arguments" with
  | none => []
  | some a => if a.label.kind == "arguments" then a.inner else [a.node]

/-- The image of a call. -/
def call (l : Label) (kids : List Image) : Node :=
  match field? kids "function" with
  | none => .other l.kind (gather kids) l.line
  | some callee =>
    .call callee.node (arguments kids) (field? kids "optional_chain").isSome l.line

/-- The image of a node from its label and its children. -/
def assemble (language : Language) (l : Label) (kids : List Image) : Node :=
  if language.functionKinds.contains l.kind then function l kids
  else if l.kind == "expression_statement" then statement l kids
  else if l.kind == "call_expression" then call l kids
  else if l.kind == "member_expression" then member l kids
  else if l.kind == "identifier" then .identifier l.text l.line
  else .other l.kind (gather kids) l.line

end Image

namespace Concrete

mutual
/-- What lowering makes of a tree when nothing limits it. -/
def image (language : Language) : Concrete → Node
  | mk l cs => Image.assemble language l (images language cs)

/-- The images of the kept children. -/
def inner (language : Language) : Concrete → List Node
  | mk _ cs => Image.gather (images language cs)

/-- The children with their images. -/
def images (language : Language) : List Concrete → List Image
  | [] => []
  | c :: cs => ⟨c.label, image language c, inner language c⟩ :: images language cs
end

/-- The children with their images correspond to the given ones. -/
theorem images_eq_map (language : Language) (cs : List Concrete) :
    images language cs =
      cs.map fun c => ⟨c.label, image language c, inner language c⟩ := by
  induction cs with
  | nil => simp [images]
  | cons c cs ih => simp [images, ih]

/-- A property of all trees follows from the step to a node from its children. -/
theorem induction {motive : Concrete → Prop}
    (step : ∀ l cs, (∀ c ∈ cs, motive c) → motive (mk l cs)) (c : Concrete) : motive c := by
  refine Concrete.rec (motive_1 := motive) (motive_2 := fun cs => ∀ c ∈ cs, motive c)
    step ?_ ?_ c
  · intro c hc
    simp at hc
  · intro d ds hd hds c hc
    rcases List.mem_cons.mp hc with rfl | hc
    · exact hd
    · exact hds c hc

/-! ## The image of a node, kind by kind -/

/-- The first child of a node among its children with their images. -/
theorem field?_images (language : Language) (c : Concrete) (name : String) :
    Image.field? (images language c.children) name =
      (c.field? name).map fun d => ⟨d.label, d.image language, d.inner language⟩ := by
  rw [images_eq_map, Image.field?, List.find?_map]
  rfl

/-- Gathering goes over the kept children in order. -/
theorem gather_map (language : Language) (cs : List Concrete) :
    Image.gather (cs.map fun c => ⟨c.label, c.image language, c.inner language⟩) =
      (cs.filter fun c => c.label.kept).map (image language) := by
  rw [Image.gather, List.filter_map, List.map_map]
  rfl

/-- The images of the kept children, in order. -/
theorem inner_eq_map (language : Language) (c : Concrete) :
    c.inner language = (c.children.filter fun d => d.label.kept).map (image language) := by
  cases c with
  | mk l cs => rw [inner, images_eq_map, gather_map, children_mk]

/-- The images of the arguments of a call. -/
def arguments (language : Language) (c : Concrete) : List Node :=
  match c.field? "arguments" with
  | none => []
  | some a => if a.label.kind == "arguments" then a.inner language else [a.image language]

/-- The ways in which a node can be lowered, with the image that each gives. -/
inductive Form (language : Language) (c : Concrete) : Node → Prop
  | function {name : Concrete} (hkind : c.label.kind ∈ language.functionKinds)
      (hname : c.field? "name" = some name) :
      Form language c (.function name.label.text
        (((c.children.eraseP fun d => d.label.field == some "name").filter
          fun d => d.label.kept).map (image language))
        (c.children.any fun d => d.label.kind == "async")
        ("generator_".isPrefixOf c.label.kind) c.label.line)
  | statement {e : Node} (hkind : c.label.kind = "expression_statement")
      (hinner : c.inner language = [e]) : Form language c (.statement e c.label.line)
  | call {callee : Concrete} (hkind : c.label.kind = "call_expression")
      (hcallee : c.field? "function" = some callee) :
      Form language c (.call (callee.image language) (c.arguments language)
        (c.field? "optional_chain").isSome c.label.line)
  | member {object property : Concrete} (hkind : c.label.kind = "member_expression")
      (hobject : c.field? "object" = some object) (hproperty : c.field? "property" = some property)
      (hchain : c.field? "optional_chain" = none) :
      Form language c (.member (object.image language) property.label.text c.label.line)
  | identifier (hkind : c.label.kind = "identifier") :
      Form language c (.identifier c.label.text c.label.line)
  | other (hfunction : c.label.kind ∈ language.functionKinds → c.field? "name" = none)
      (hstatement : c.label.kind = "expression_statement" → ∀ e, c.inner language ≠ [e])
      (hcall : c.label.kind = "call_expression" → c.field? "function" = none)
      (hmember : c.label.kind = "member_expression" → c.field? "object" = none ∨
        c.field? "property" = none ∨ (c.field? "optional_chain").isSome = true)
      (hidentifier : c.label.kind ≠ "identifier") :
      Form language c (.other c.label.kind (c.inner language) c.label.line)

/-- The kinds that declare functions have no other rule of lowering. -/
theorem ne_of_mem_functionKinds {language : Language} {kind : String}
    (h : kind ∈ language.functionKinds) :
    kind ≠ "expression_statement" ∧ kind ≠ "call_expression" ∧ kind ≠ "member_expression" ∧
      kind ≠ "identifier" ∧ kind ≠ "arguments" := by
  simp only [Language.functionKinds, List.mem_cons, List.not_mem_nil, or_false] at h
  rcases h with rfl | rfl <;> decide

/-- The kept children are gathered from the children with their images. -/
theorem gather_images (language : Language) (c : Concrete) :
    Image.gather (images language c.children) = c.inner language := by
  rw [inner_eq_map, images_eq_map, gather_map]

section Forms

variable {language : Language} {c : Concrete}

/-- The forms of a declaration of a function. -/
theorem form_function (hkind : c.label.kind ∈ language.functionKinds) :
    Form language c (Image.function c.label (images language c.children)) := by
  obtain ⟨hstatement, hcall, hmember, hidentifier, -⟩ := ne_of_mem_functionKinds hkind
  rw [Image.function, field?_images]
  cases hname : c.field? "name" with
  | none =>
      rw [Option.map_none, gather_images]
      exact .other (fun _ => hname) (fun h => absurd h hstatement) (fun h => absurd h hcall)
        (fun h => absurd h hmember) hidentifier
  | some name =>
      simp only [Option.map_some, images_eq_map, List.eraseP_map, gather_map, List.any_map]
      exact .function hkind hname

/-- The forms of an expression statement. -/
theorem form_statement (hkind : c.label.kind = "expression_statement") :
    Form language c (Image.statement c.label (images language c.children)) := by
  rw [Image.statement, gather_images]
  split
  next e hinner => exact .statement hkind hinner
  next hinner =>
    exact .other (fun h => absurd hkind (ne_of_mem_functionKinds h).1) (fun _ => hinner)
      (by simp [hkind]) (by simp [hkind]) (by simp [hkind])

/-- The forms of a call. -/
theorem form_call (hkind : c.label.kind = "call_expression") :
    Form language c (Image.call c.label (images language c.children)) := by
  rw [Image.call, field?_images]
  cases hcallee : c.field? "function" with
  | none =>
      rw [Option.map_none, gather_images]
      exact .other (fun h => absurd hkind (ne_of_mem_functionKinds h).2.1) (by simp [hkind])
        (fun _ => hcallee) (by simp [hkind]) (by simp [hkind])
  | some callee =>
      have harguments : Image.arguments (images language c.children) = c.arguments language := by
        rw [Image.arguments, field?_images, arguments]
        cases c.field? "arguments" <;> rfl
      rw [Option.map_some, harguments, field?_images, Option.isSome_map]
      exact .call hkind hcallee

/-- The forms of a member access. -/
theorem form_member (hkind : c.label.kind = "member_expression") :
    Form language c (Image.member c.label (images language c.children)) := by
  have hplain (h : c.field? "object" = none ∨ c.field? "property" = none ∨
      (c.field? "optional_chain").isSome = true) :
      Form language c (.other c.label.kind (c.inner language) c.label.line) :=
    .other (fun h => absurd hkind (ne_of_mem_functionKinds h).2.2.1) (by simp [hkind])
      (by simp [hkind]) (fun _ => h) (by simp [hkind])
  rw [Image.member, field?_images, field?_images, field?_images, gather_images]
  cases hobject : c.field? "object" with
  | none => exact hplain (.inl hobject)
  | some object =>
      cases hproperty : c.field? "property" with
      | none => exact hplain (.inr (.inl hproperty))
      | some property =>
          cases hchain : c.field? "optional_chain" with
          | none => exact .member hkind hobject hproperty hchain
          | some chain => exact hplain (.inr (.inr (by simp [hchain])))

end Forms

/-- The image of a node has one of the forms. -/
theorem form_image (language : Language) (c : Concrete) : Form language c (c.image language) := by
  have himage : c.image language =
      Image.assemble language c.label (images language c.children) := by
    cases c with
    | mk l cs => rw [image, label_mk, children_mk]
  rw [himage, Image.assemble]
  split_ifs with hfunction hstatement hcall hmember hidentifier
  · exact form_function (List.contains_iff_mem.mp hfunction)
  · exact form_statement (by simpa using hstatement)
  · exact form_call (by simpa using hcall)
  · exact form_member (by simpa using hmember)
  · exact .identifier (by simpa using hidentifier)
  · rw [gather_images]
    refine .other (fun h => ?_) (fun h => ?_) (fun h => ?_) (fun h => ?_) (fun h => ?_)
    · exact absurd (List.contains_iff_mem.mpr h) hfunction
    · simp [h] at hstatement
    · simp [h] at hcall
    · simp [h] at hmember
    · simp [h] at hidentifier

/-! ## Lowering gives the image -/

/-- A step that succeeds has run what lies behind it. -/
theorem eq_some_of_descend {α : Type} {budget : Nat} {run : Nat → Option α} {a : α}
    (h : descend run budget = some a) : ∃ rest, run rest = some a := by
  cases budget with
  | zero => cases h
  | succ rest => exact ⟨rest, h⟩

/-- Whatever the budget, lowering a tree or its children gives the images. -/
structure LowersToImage (language : Language) (c : Concrete) : Prop where
  node : ∀ budget n, c.lower language budget = some n → n = c.image language
  inner : ∀ budget ns, c.lowerChildren language budget = some ns → ns = c.inner language

section Lowering

variable {language : Language} {c : Concrete} {budget : Nat} {n : Node} {ns : List Node}

/-- The first child with a field name among the pending children. -/
theorem field?_pending (language : Language) (c : Concrete) (name : String) :
    Pending.field? (pending language c.children) name =
      (c.field? name).map fun d => ⟨d.label, d.lower language, d.lowerChildren language⟩ := by
  rw [pending_eq_map, Pending.field?, List.find?_map]
  rfl

/-- The loop over any part of a node gives the images of its kept children. -/
theorem each_eq_some {cs : List Concrete} (hcs : ∀ c ∈ cs, LowersToImage language c)
    (h : Pending.each (cs.map fun c => ⟨c.label, c.lower language, c.lowerChildren language⟩)
      budget = some ns) :
    ns = (cs.filter fun c => c.label.kept).map (image language) := by
  obtain ⟨rest, hloop⟩ := eq_some_of_descend h
  clear h
  induction cs generalizing ns with
  | nil => simpa using hloop.symm
  | cons c cs ih =>
      have htail := fun d hd => hcs d (List.mem_cons_of_mem c hd)
      by_cases hkept : c.label.kept = true
      · simp only [List.map_cons, List.filter_cons, hkept, if_true, List.mapM_cons] at hloop ⊢
        obtain ⟨n, hn, hrest⟩ := Option.bind_eq_some_iff.mp hloop
        obtain ⟨ms, hms, hns⟩ := Option.bind_eq_some_iff.mp hrest
        obtain ⟨_, hn⟩ := eq_some_of_descend hn
        have hnode : n = c.image language := (hcs c List.mem_cons_self).node _ _ hn
        have hnodes : ms = (cs.filter fun d => d.label.kept).map (image language) :=
          ih htail hms
        rw [← hnode, ← hnodes]
        exact (Option.some.inj hns).symm
      · simp only [List.map_cons, List.filter_cons, hkept, Bool.false_eq_true, if_false] at hloop ⊢
        exact ih htail hloop

variable (hcs : ∀ d ∈ c.children, LowersToImage language d)
include hcs

/-- The gathered children of a node are the images of its kept children. -/
theorem gather_pending_eq_some
    (h : Pending.gather (pending language c.children) budget = some ns) :
    ns = Image.gather (images language c.children) := by
  obtain ⟨_, h⟩ := eq_some_of_descend h
  rw [pending_eq_map] at h
  rw [images_eq_map, gather_map]
  exact each_eq_some hcs h

/-- An ordinary construct lowers to its image. -/
theorem lowerOther_eq_some
    (h : lowerOther c.label (pending language c.children) budget = some n) :
    n = .other c.label.kind (Image.gather (images language c.children)) c.label.line := by
  obtain ⟨ns, hns, rfl⟩ := Option.map_eq_some_iff.mp h
  rw [gather_pending_eq_some hcs hns]

/-- An expression statement lowers to its image. -/
theorem lowerStatement_eq_some
    (h : lowerStatement c.label (pending language c.children) budget = some n) :
    n = Image.statement c.label (images language c.children) := by
  obtain ⟨ns, hns, rfl⟩ := Option.map_eq_some_iff.mp h
  rw [gather_pending_eq_some hcs hns]
  rfl

/-- A declaration of a function lowers to its image. -/
theorem lowerFunction_eq_some
    (h : lowerFunction c.label (pending language c.children) budget = some n) :
    n = Image.function c.label (images language c.children) := by
  obtain ⟨_, h⟩ := eq_some_of_descend h
  rw [field?_pending] at h
  rw [Image.function, field?_images]
  cases hname : c.field? "name" with
  | none =>
      rw [hname] at h
      exact lowerOther_eq_some hcs h
  | some name =>
      rw [hname] at h
      obtain ⟨ns, hns, rfl⟩ := Option.map_eq_some_iff.mp h
      rw [pending_eq_map, List.eraseP_map] at hns
      have hrest := each_eq_some (fun d hd => hcs d (List.mem_of_mem_eraseP hd)) hns
      simp only [pending_eq_map, images_eq_map, List.eraseP_map, gather_map, List.any_map,
        Option.map_some, hrest]
      rfl

/-- A member access lowers to its image. -/
theorem lowerMember_eq_some
    (h : lowerMember c.label (pending language c.children) budget = some n) :
    n = Image.member c.label (images language c.children) := by
  simp only [lowerMember, field?_pending] at h
  simp only [Image.member, field?_images]
  cases hobject : c.field? "object" with
  | none =>
      simp only [hobject, Option.map_none] at h
      exact lowerOther_eq_some hcs h
  | some object =>
      have hmem : object ∈ c.children := List.mem_of_find?_eq_some hobject
      cases hproperty : c.field? "property" with
      | none =>
          simp only [hobject, hproperty, Option.map_none] at h
          exact lowerOther_eq_some hcs h
      | some property =>
          cases hchain : c.field? "optional_chain" with
          | some chain =>
              simp only [hobject, hproperty, hchain, Option.map_some] at h
              exact lowerOther_eq_some hcs h
          | none =>
              simp only [hobject, hproperty, hchain, Option.map_some, Option.map_none] at h
              obtain ⟨o, ho, rfl⟩ := Option.map_eq_some_iff.mp h
              obtain ⟨_, ho⟩ := eq_some_of_descend ho
              rw [(hcs object hmem).node _ _ ho]
              rfl

/-- The arguments of a call lower to their images. -/
theorem lowerArguments_eq_some
    (h : lowerArguments (pending language c.children) budget = some ns) :
    ns = Image.arguments (images language c.children) := by
  rw [lowerArguments, field?_pending] at h
  rw [Image.arguments, field?_images]
  cases harguments : c.field? "arguments" with
  | none =>
      rw [harguments] at h
      exact (Option.some.inj h).symm
  | some a =>
      have hmem : a ∈ c.children := List.mem_of_find?_eq_some harguments
      simp only [harguments, Option.map_some] at h ⊢
      split_ifs at h ⊢ with hkind
      · exact (hcs a hmem).inner _ _ h
      · obtain ⟨m, hm, rfl⟩ := Option.map_eq_some_iff.mp h
        obtain ⟨_, hm⟩ := eq_some_of_descend hm
        rw [(hcs a hmem).node _ _ hm]

/-- A call lowers to its image. -/
theorem lowerCall_eq_some
    (h : lowerCall c.label (pending language c.children) budget = some n) :
    n = Image.call c.label (images language c.children) := by
  obtain ⟨_, h⟩ := eq_some_of_descend h
  simp only [field?_pending] at h
  simp only [Image.call, field?_images]
  cases hcallee : c.field? "function" with
  | none =>
      simp only [hcallee, Option.map_none] at h
      exact lowerOther_eq_some hcs h
  | some callee =>
      have hmem : callee ∈ c.children := List.mem_of_find?_eq_some hcallee
      simp only [hcallee, Option.map_some] at h
      obtain ⟨ns, hns, hrest⟩ := Option.bind_eq_some_iff.mp h
      obtain ⟨m, hm, hn⟩ := Option.bind_eq_some_iff.mp hrest
      obtain ⟨_, hm⟩ := eq_some_of_descend hm
      rw [← Option.some.inj hn, lowerArguments_eq_some hcs hns, (hcs callee hmem).node _ _ hm]
      simp

end Lowering

/-- A lowered tree is the image, and its lowered children are the images of the
kept ones, whatever the budget was. -/
theorem lowersToImage (language : Language) (c : Concrete) : LowersToImage language c := by
  induction c using Concrete.induction with
  | step l cs hcs =>
      refine ⟨fun budget n h => ?_, fun budget ns h => ?_⟩
      · rw [lower, assemble] at h
        rw [image, Image.assemble]
        split_ifs at h ⊢
        · exact lowerFunction_eq_some (c := mk l cs) hcs h
        · exact lowerStatement_eq_some (c := mk l cs) hcs h
        · exact lowerCall_eq_some (c := mk l cs) hcs h
        · exact lowerMember_eq_some (c := mk l cs) hcs h
        · exact (Option.some.inj h).symm
        · exact lowerOther_eq_some (c := mk l cs) hcs h
      · rw [lowerChildren] at h
        rw [inner]
        exact gather_pending_eq_some (c := mk l cs) hcs h

/-! ## Images are whole -/

/-- The children of an image are images of children, or of their kept children. -/
theorem exists_of_mem_children_image {language : Language} {c : Concrete} {n : Node}
    (h : n ∈ (c.image language).children) :
    ∃ d ∈ c.children, n = d.image language ∨ n ∈ d.inner language := by
  have hmap : ∀ ds : List Concrete, (∀ d ∈ ds, d ∈ c.children) → n ∈ ds.map (image language) →
      ∃ d ∈ c.children, n = d.image language ∨ n ∈ d.inner language := by
    intro ds hds hn
    obtain ⟨d, hd, rfl⟩ := List.mem_map.mp hn
    exact ⟨d, hds d hd, .inl rfl⟩
  have hinner : n ∈ c.inner language →
      ∃ d ∈ c.children, n = d.image language ∨ n ∈ d.inner language := by
    rw [inner_eq_map]
    exact hmap _ fun d hd => (List.mem_filter.mp hd).1
  have hform := form_image language c
  revert h
  generalize c.image language = m at hform
  intro h
  cases hform with
  | function hkind hname =>
      exact hmap _ (fun d hd => List.mem_of_mem_eraseP (List.mem_filter.mp hd).1) h
  | statement hkind he =>
      apply hinner
      rw [he]
      exact h
  | call hkind hcallee =>
      rcases List.mem_cons.mp h with rfl | hargument
      · exact ⟨_, List.mem_of_find?_eq_some hcallee, .inl rfl⟩
      · rw [arguments] at hargument
        split at hargument
        next => simp at hargument
        next a ha =>
          have hmem : a ∈ c.children := List.mem_of_find?_eq_some ha
          split at hargument
          next => exact ⟨a, hmem, .inr hargument⟩
          next => exact ⟨a, hmem, .inl (List.mem_singleton.mp hargument)⟩
  | member hkind hobject hproperty hchain =>
      exact ⟨_, List.mem_of_find?_eq_some hobject, .inl (List.mem_singleton.mp h)⟩
  | identifier hkind => simp [Node.children] at h
  | other => exact hinner h

/-- No foreign value occurs in an image. -/
theorem whole_image (language : Language) (c : Concrete) :
    (c.image language).Whole ∧ ∀ n ∈ c.inner language, n.Whole := by
  induction c using Concrete.induction with
  | step l cs hcs =>
      refine ⟨(Node.whole_iff _).mpr ⟨?_, ?_⟩, ?_⟩
      · have hform := form_image language (mk l cs)
        generalize image language (mk l cs) = m at hform
        cases hform <;> rfl
      · intro n hn
        obtain ⟨d, hd, rfl | hn⟩ := exists_of_mem_children_image hn
        · exact (hcs d hd).1
        · exact (hcs d hd).2 n hn
      · intro n hn
        rw [inner_eq_map] at hn
        obtain ⟨d, hd, rfl⟩ := List.mem_map.mp hn
        exact (hcs d (List.mem_filter.mp hd).1).1

end Concrete

/-- An extracted program comes from a tree without errors and holds the images of
the kept children of its root. -/
theorem programWithin_eq_ok {budget : Nat} {path : Files.Pathname} {language : Language}
    {tree : Concrete} {program : Node} (h : programWithin budget path language tree = .ok program) :
    tree.hasError = false ∧ program = .program (tree.inner language) 1 := by
  by_cases herror : tree.hasError = true
  · rw [programWithin_of_hasError herror] at h
    contradiction
  · rw [Bool.not_eq_true] at herror
    rw [programWithin_of_sound herror] at h
    split at h
    next body hbody =>
      have hinner := (Concrete.lowersToImage language tree).inner _ _ hbody
      rw [← hinner]
      exact ⟨herror, (Except.ok.inj h).symm⟩
    next => contradiction

/-- No foreign value occurs in an extracted program. -/
theorem whole_of_programWithin {budget : Nat} {path : Files.Pathname} {language : Language}
    {tree : Concrete} {program : Node} (h : programWithin budget path language tree = .ok program) :
    program.Whole := by
  obtain ⟨-, rfl⟩ := programWithin_eq_ok h
  exact (Node.whole_iff _).mpr ⟨rfl, (tree.whole_image language).2⟩

end Tree
end ContractAudit
