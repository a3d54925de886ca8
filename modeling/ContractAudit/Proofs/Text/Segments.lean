import ContractAudit.Text.Segments

/-!
# Cutting and joining texts

A text is its segments joined by the separator, and cutting goes through a join:
the segments of a joined text are those of its parts, one after the other.  So a
segment is what stands between separators, however the text was put together.

Main results:

- Theorem {lit}`intercalate_cutAt`: the segments joined again are the text.
- Theorem {lit}`cutAt_intercalate_eq_flatMap`: the segments of a joined text.
- Theorem {lit}`mem_cutAt_iff`: segments without mention of cutting.
-/

namespace ContractAudit
namespace Text

variable {sep : Char}

/-- The segments of a text joined again are the text. -/
theorem intercalate_cutAt (sep : Char) (s : String) :
    (String.singleton sep).intercalate (cutAt sep s) = s := by
  apply String.toList_inj.mp
  rw [String.toList_intercalate, String.toList_singleton, cutAt, List.map_map]
  have hid : String.toList ∘ String.ofList = id := funext fun cs => String.toList_ofList
  rw [hid, List.map_id, List.intercalate_splitOn]

/-- A text without the separator is one segment. -/
theorem cutAt_of_not_mem {s : String} (h : sep ∉ s.toList) : cutAt sep s = [s] := by
  rw [cutAt, List.splitOn_eq_singleton h, List.map_singleton, String.ofList_toList]

/-- A separator between two texts parts their segments. -/
theorem cutAt_append (a b : String) :
    cutAt sep (a ++ String.singleton sep ++ b) = cutAt sep a ++ cutAt sep b := by
  have hlist : (a ++ String.singleton sep ++ b).toList = a.toList ++ sep :: b.toList := by
    simp
  rw [cutAt, hlist, List.splitOn_append_cons_self, List.map_append, ← cutAt, ← cutAt]

/-- The segments of joined texts are those of the texts, one after the other. -/
theorem cutAt_intercalate_eq_flatMap {parts : List String} (hne : parts ≠ []) :
    cutAt sep ((String.singleton sep).intercalate parts) = parts.flatMap (cutAt sep) := by
  induction parts with
  | nil => exact absurd rfl hne
  | cons a parts ih =>
      cases parts with
      | nil => rw [String.intercalate_singleton, List.flatMap_singleton]
      | cons b parts =>
          rw [String.intercalate_cons_cons, cutAt_append, ih (by simp)]
          exact List.flatMap_cons.symm

/-- A segment is a text without the separator that stands between two separators, or between
one of them and an end of the text, or alone. -/
theorem mem_cutAt_iff {s segment : String} :
    segment ∈ cutAt sep s ↔ sep ∉ segment.toList ∧
      ∃ before after : List String,
        s = (String.singleton sep).intercalate (before ++ segment :: after) := by
  constructor
  · intro h
    obtain ⟨before, after, hcut⟩ := List.append_of_mem h
    refine ⟨not_mem_of_mem_cutAt h, before, after, ?_⟩
    rw [← hcut, intercalate_cutAt]
  · rintro ⟨hsep, before, after, rfl⟩
    rw [cutAt_intercalate_eq_flatMap (by simp), List.mem_flatMap]
    exact ⟨segment, by simp, by simp [cutAt_of_not_mem hsep]⟩

end Text
end ContractAudit
