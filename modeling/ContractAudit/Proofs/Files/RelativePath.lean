import ContractAudit.Files.Pathname

/-!
# Relative paths

A relative path is a list of names that can stand between slashes.  Its text
leads back to it, so that a label in a report stands for one path only.

Main results:

- Theorem {lit}`RelativePath.parse_text`: the text of a relative path is read as
  that path.
- Theorem {lit}`RelativePath.below_injective`: a path below a directory is
  told apart by its names.
-/

namespace ContractAudit
namespace Files

/-- A name that can stand between slashes: not empty, no single dot, and without a
slash.  Double dots are such a name. -/
def IsSegment (name : String) : Prop :=
  Pathname.isName name = true ∧ '/' ∉ name.toList

instance (name : String) : Decidable (IsSegment name) :=
  inferInstanceAs (Decidable (Pathname.isName name = true ∧ '/' ∉ name.toList))

/-- A path below some directory, in normal form. -/
structure RelativePath where
  names : List String
  segments : ∀ name ∈ names, IsSegment name

/-- A segment starts with a character that is no slash. -/
theorem IsSegment.toList_eq_cons {name : String} (h : IsSegment name) :
    ∃ c cs, name.toList = c :: cs ∧ c ≠ '/' := by
  cases hname : name.toList with
  | nil =>
      have hempty : name = "" := String.toList_eq_nil_iff.mp hname
      have hisName := h.1
      simp [Pathname.isName, hempty] at hisName
  | cons c cs =>
      refine ⟨c, cs, rfl, ?_⟩
      rintro rfl
      exact h.2 (by rw [hname]; exact List.mem_cons_self)

/-- The names of a path that is read from a text are segments. -/
theorem isSegment_of_mem_parse {s name : String} (h : name ∈ (Pathname.parse s).names) :
    IsSegment name := by
  obtain ⟨hcut, hisName⟩ := List.mem_filter.mp h
  exact ⟨hisName, Text.not_mem_of_mem_cutAt hcut⟩

namespace RelativePath

/-- The path from the working directory. -/
def toPathname (r : RelativePath) : Pathname :=
  ⟨.relative, r.names⟩

/-- The text of a relative path. -/
def text (r : RelativePath) : String :=
  r.toPathname.text

/-- The path below a directory. -/
def below (root : Pathname) (r : RelativePath) : Pathname :=
  root.join r.toPathname

theorem below_eq (root : Pathname) (r : RelativePath) :
    r.below root = ⟨root.root, root.names ++ r.names⟩ := rfl

/-- Different relative paths are different paths below a directory. -/
theorem below_injective (root : Pathname) : Function.Injective (below root) := by
  rintro ⟨names, hnames⟩ ⟨names', hnames'⟩ heq
  rw [below_eq, below_eq] at heq
  obtain rfl : names = names' := List.append_cancel_left (Pathname.mk.inj heq).2
  rfl

/-- A text that starts with a segment is no absolute path. -/
theorem rootOf_intercalate {name : String} (hname : IsSegment name) (rest : List String) :
    Pathname.rootOf ("/".intercalate (name :: rest)) = .relative := by
  obtain ⟨c, cs, hcs, hc⟩ := hname.toList_eq_cons
  have hhead : ∃ tail, ("/".intercalate (name :: rest)).toList = c :: tail := by
    cases rest with
    | nil => exact ⟨cs, by rw [String.intercalate_singleton, hcs]⟩
    | cons next rest =>
        rw [String.intercalate_cons_cons, String.toList_append, String.toList_append, hcs]
        exact ⟨_, rfl⟩
  obtain ⟨tail, htail⟩ := hhead
  rw [Pathname.rootOf, htail]
  split
  next heq => exact absurd (List.cons.inj heq).1 hc
  next heq => exact absurd (List.cons.inj heq).1 hc
  next heq => exact absurd (List.cons.inj heq).1 hc
  next => rfl

/-- The text of a relative path is read as that path. -/
theorem parse_text (r : RelativePath) : Pathname.parse r.text = r.toPathname := by
  obtain ⟨names, hnames⟩ := r
  cases names with
  | nil =>
      have hdot : Pathname.parse "." = ⟨.relative, []⟩ := by decide
      exact hdot
  | cons name rest =>
      have htext : text ⟨name :: rest, hnames⟩ = "/".intercalate (name :: rest) := by
        simp [text, toPathname, Pathname.text, Pathname.body, Root.text]
      have hcut : Pathname.cutSlashes ("/".intercalate (name :: rest)) = name :: rest :=
        Text.cutAt_intercalate (by simp) fun segment hsegment => (hnames segment hsegment).2
      have hkept : (name :: rest).filter Pathname.isName = name :: rest :=
        List.filter_eq_self.mpr fun segment hsegment => (hnames segment hsegment).1
      rw [htext, Pathname.parse, rootOf_intercalate (hnames name List.mem_cons_self), hcut, hkept]
      rfl

end RelativePath

end Files
end ContractAudit
