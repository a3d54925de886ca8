/-!
# Segments of texts

A separator cuts a text into segments: two separators in a row have an empty
segment between them, and a text without separators is one segment.

Main results:

- Theorem {lit}`not_mem_of_mem_cutAt`: no segment holds the separator.
- Theorem {lit}`cutAt_intercalate`: joined segments are cut apart again.
-/

namespace ContractAudit
namespace Text

/-- The segments of a text between the places where a character stands. -/
def cutAt (sep : Char) (s : String) : List String :=
  (s.toList.splitOn sep).map String.ofList

/-- No part between separators holds the separator. -/
theorem not_mem_of_mem_splitOn {sep : Char} {cs part : List Char}
    (h : part ∈ cs.splitOn sep) : sep ∉ part := by
  induction cs generalizing part with
  | nil =>
      rw [List.splitOn_nil, List.mem_singleton] at h
      simp [h]
  | cons c cs ih =>
      rw [List.splitOn_cons_eq_if_modifyHead] at h
      split at h
      next =>
        rcases List.mem_cons.mp h with rfl | h
        · simp
        · exact ih h
      next hc =>
        -- the first part grows by a character that is no separator
        cases hparts : cs.splitOn sep with
        | nil => exact absurd hparts (List.splitOn_ne_nil sep cs)
        | cons first rest =>
            rw [hparts, List.modifyHead_cons] at h
            rcases List.mem_cons.mp h with rfl | h
            · have hfirst : sep ∉ first := ih (by rw [hparts]; exact List.mem_cons_self)
              have hne : sep ≠ c := by
                rintro rfl
                simp at hc
              simp [hne, hfirst]
            · exact ih (by rw [hparts]; exact List.mem_cons_of_mem first h)

/-- No segment holds the separator. -/
theorem not_mem_of_mem_cutAt {sep : Char} {s segment : String} (h : segment ∈ cutAt sep s) :
    sep ∉ segment.toList := by
  obtain ⟨part, hpart, rfl⟩ := List.mem_map.mp h
  rw [String.toList_ofList]
  exact not_mem_of_mem_splitOn hpart

/-- Joined segments are cut apart again. -/
theorem cutAt_intercalate {sep : Char} {segments : List String} (hne : segments ≠ [])
    (h : ∀ segment ∈ segments, sep ∉ segment.toList) :
    cutAt sep ((String.singleton sep).intercalate segments) = segments := by
  have hparts : ∀ part ∈ segments.map String.toList, sep ∉ part := by
    intro part hpart
    obtain ⟨segment, hsegment, rfl⟩ := List.mem_map.mp hpart
    exact h segment hsegment
  have hcut := List.splitOn_intercalate sep hparts (by simpa using hne)
  rw [cutAt, String.toList_intercalate, String.toList_singleton, hcut, List.map_map]
  simp

end Text
end ContractAudit
