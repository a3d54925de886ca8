import ContractAudit.Text.Blank

/-!
# Trimming

Trimming a text leaves the stretch from its first to its last character that is
no blank.  So a text is blanks, its trimmed form and blanks again, and any
blanks around a trimmed text are taken away.

Main results:

- Theorem {lit}`exists_padding`: what trimming takes away is blank.
- Theorem {lit}`trimmed_trim`: what it leaves has no blank at its ends.
- Theorem {lit}`trim_padded`: blanks around a trimmed text do not matter.
-/

namespace ContractAudit
namespace Text

/-- A text has no blank at either end. -/
structure Trimmed (cs : List Char) : Prop where
  head : ∀ c ∈ cs.head?, isBlank c = false
  last : ∀ c ∈ cs.getLast?, isBlank c = false

-- by the two ends: the quantifiers alone could be decided over all characters there are
instance (cs : List Char) : Decidable (Trimmed cs) :=
  decidable_of_iff (cs.head?.all (!isBlank ·) = true ∧ cs.getLast?.all (!isBlank ·) = true) <| by
    simp only [Option.all_eq_true, Bool.not_eq_true']
    exact ⟨fun h => ⟨h.1, h.2⟩, fun h => ⟨h.head, h.last⟩⟩

theorem allBlank_iff {cs : List Char} : allBlank cs = true ↔ ∀ c ∈ cs, isBlank c = true :=
  List.all_eq_true

/-- A comma is no blank. -/
theorem comma_not_mem_of_allBlank {cs : List Char} (h : allBlank cs = true) : ',' ∉ cs :=
  fun hmem => absurd (allBlank_iff.mp h ',' hmem) (by decide)

/-- What is left after dropping characters of a class does not start with one. -/
theorem head?_dropWhile {p : Char → Bool} {cs : List Char} {c : Char}
    (h : c ∈ (cs.dropWhile p).head?) : p c = false := by
  have hnot := List.head?_dropWhile_not p cs
  rw [Option.mem_def.mp h] at hnot
  exact hnot

/-- Nothing is dropped in front of a character of another class. -/
theorem dropWhile_of_head? {p : Char → Bool} {cs : List Char}
    (h : ∀ c ∈ cs.head?, p c = false) : cs.dropWhile p = cs := by
  cases cs with
  | nil => rfl
  | cons c cs => exact List.dropWhile_cons_of_neg (by simp [h c rfl])

/-- Dropping at the end takes characters of the class away. -/
theorem exists_dropRight_append (p : Char → Bool) (cs : List Char) :
    ∃ after, (∀ c ∈ after, p c = true) ∧ cs = dropRight p cs ++ after := by
  refine ⟨(cs.reverse.takeWhile p).reverse, ?_, ?_⟩
  · intro c hc
    exact List.all_eq_true.mp List.all_takeWhile c (List.mem_reverse.mp hc)
  · rw [dropRight, ← List.reverse_append, List.takeWhile_append_dropWhile, List.reverse_reverse]

/-- What trimming takes away is blank. -/
theorem exists_padding (cs : List Char) :
    ∃ before after, allBlank before = true ∧ allBlank after = true ∧
      cs = before ++ trim cs ++ after := by
  obtain ⟨after, hafter, hright⟩ := exists_dropRight_append isBlank (cs.dropWhile isBlank)
  refine ⟨cs.takeWhile isBlank, after, List.all_takeWhile, allBlank_iff.mpr hafter, ?_⟩
  rw [trim, List.append_assoc, ← hright, List.takeWhile_append_dropWhile]

/-- A trimmed text has no blank at its ends. -/
theorem trimmed_trim (cs : List Char) : Trimmed (trim cs) := by
  constructor
  · -- what trimming leaves starts where the blanks in front end
    intro c hc
    obtain ⟨after, -, hright⟩ := exists_dropRight_append isBlank (cs.dropWhile isBlank)
    have hstart : c ∈ (cs.dropWhile isBlank).head? := by
      rw [hright, List.head?_append, ← trim, Option.mem_def.mp hc]
      rfl
    exact head?_dropWhile hstart
  · intro c hc
    rw [trim, dropRight, List.getLast?_reverse] at hc
    exact head?_dropWhile hc

/-- Blanks around a text that has none at its ends are taken away. -/
theorem trim_padded {before cs after : List Char} (hbefore : allBlank before = true)
    (hafter : allBlank after = true) (hcs : Trimmed cs) (hne : cs ≠ []) :
    trim (before ++ cs ++ after) = cs := by
  have hfront : (before ++ cs ++ after).dropWhile isBlank = cs ++ after := by
    rw [List.append_assoc, List.dropWhile_append_of_pos (allBlank_iff.mp hbefore)]
    apply dropWhile_of_head?
    intro c hc
    obtain ⟨d, ds, rfl⟩ := List.exists_cons_of_ne_nil hne
    exact hcs.head c hc
  have hback : (cs ++ after).reverse.dropWhile isBlank = cs.reverse := by
    have hblank : ∀ c ∈ after.reverse, isBlank c = true :=
      fun c hc => allBlank_iff.mp hafter c (List.mem_reverse.mp hc)
    rw [List.reverse_append, List.dropWhile_append_of_pos hblank]
    apply dropWhile_of_head?
    rw [List.head?_reverse]
    exact hcs.last
  rw [trim, hfront, dropRight, hback, List.reverse_reverse]

/-- Only blanks leave nothing. -/
theorem trim_of_allBlank {cs : List Char} (h : allBlank cs = true) : trim cs = [] := by
  have hfront : (cs ++ []).dropWhile isBlank = [] :=
    List.dropWhile_append_of_pos (allBlank_iff.mp h)
  rw [List.append_nil] at hfront
  rw [trim, hfront]
  rfl

end Text
end ContractAudit
