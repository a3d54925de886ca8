import ContractAudit.Run.Discovery
import ContractAudit.Proofs.Text.Segments

/-!
# Exclusion by segment

A label is excluded if a pattern stands for all of it or for one of its
segments.  Patterns work independently of each other, and what excludes a label
by a segment excludes every longer path that the label is a stretch of.  A
pattern without wildcards stands for itself alone: it excludes by a whole
segment or by the whole label, never by a part of a segment.

Main results:

- Theorem {lit}`Glob.matchesText_of_plain`: a pattern without wildcards stands
  for its own text only.
- Theorem {lit}`mem_cutSlashes_iff`: segments by where they stand in a label.
- Theorem {lit}`exclusion_is_segmentwise`: the laws of exclusion.
-/

namespace ContractAudit

namespace Files
namespace Glob

/-! ## Patterns without wildcards -/

/-- Characters that stand for themselves are the tokens of a pattern made of them. -/
theorem tokens_of_plain {cs : List Char}
    (h : ∀ c ∈ cs, (c == '*' || c == '?' || c == '[') = false) :
    tokens 0 cs = cs.map .char := by
  induction cs with
  | nil => rfl
  | cons c cs ih =>
      have hc := h c List.mem_cons_self
      simp only [Bool.or_eq_false_iff] at hc
      obtain ⟨⟨hstar, hany⟩, hclass⟩ := hc
      rw [tokens, hstar, hany, hclass, ih fun d hd => h d (List.mem_cons_of_mem c hd)]
      rfl

/-- Where there are no stars, none are merged. -/
theorem mergeStars_map_char (cs : List Char) :
    mergeStars (cs.map .char) = cs.map .char := by
  induction cs with
  | nil => rfl
  | cons c cs ih => rw [List.map_cons, mergeStars, ih]; simp

/-- Characters stand for the text that they make. -/
theorem accepts_map_char (cs text : List Char) :
    accepts (cs.map .char) text = true ↔ cs = text := by
  induction cs generalizing text with
  | nil => cases text <;> simp [accepts]
  | cons c cs ih =>
      cases text with
      | nil => simp [accepts]
      | cons d text => simp [accepts, GlobToken.admits, ih]

/-- A pattern without wildcards stands for its own text only. -/
theorem matchesText_of_plain {pattern : String} (h : isWildcard pattern = false) (text : String) :
    matchesText pattern text = true ↔ pattern = text := by
  have hplain : ∀ c ∈ pattern.toList, (c == '*' || c == '?' || c == '[') = false := by
    simpa [isWildcard] using h
  rw [matchesText, parse, tokens_of_plain hplain, mergeStars_map_char, accepts_map_char,
    String.toList_inj]

end Glob
end Files

namespace Run

open Files
open Config (Value)

/-! ## Segments -/

/-- A text stands in a label between slashes, or between a slash and an end, or alone. -/
def IsSegmentOf (segment label : String) : Prop :=
  '/' ∉ segment.toList ∧
    ∃ before after : List String, label = "/".intercalate (before ++ segment :: after)

/-- The segments of a label are what stands between slashes. -/
theorem mem_cutSlashes_iff {segment label : String} :
    segment ∈ Pathname.cutSlashes label ↔ IsSegmentOf segment label :=
  Text.mem_cutAt_iff

instance (segment label : String) : Decidable (IsSegmentOf segment label) :=
  decidable_of_iff _ mem_cutSlashes_iff

/-- A segment of a label is one of every path that the label is a stretch of. -/
theorem IsSegmentOf.extend {segment label : String} (h : IsSegmentOf segment label)
    (before after : List String) :
    IsSegmentOf segment ("/".intercalate (before ++ label :: after)) := by
  rw [← mem_cutSlashes_iff] at h ⊢
  have hcut : Pathname.cutSlashes ("/".intercalate (before ++ label :: after)) =
      (before ++ label :: after).flatMap Pathname.cutSlashes :=
    Text.cutAt_intercalate_eq_flatMap (by simp)
  rw [hcut, List.mem_flatMap]
  exact ⟨label, by simp, h⟩

/-! ## Exclusion -/

/-- A pattern excludes a label if it stands for the label or for one of its segments. -/
theorem excludes_iff {pattern label : String} :
    excludes pattern label = true ↔ Glob.matchesText pattern label = true ∨
      ∃ segment, IsSegmentOf segment label ∧ Glob.matchesText pattern segment = true := by
  rw [excludes, Bool.or_eq_true, List.any_eq_true]
  simp only [mem_cutSlashes_iff]

/-- A pattern without wildcards excludes a label if it is the label or one of its segments. -/
theorem excludes_iff_of_plain {pattern label : String} (h : Glob.isWildcard pattern = false) :
    excludes pattern label = true ↔ pattern = label ∨ IsSegmentOf pattern label := by
  rw [excludes_iff]
  simp only [Glob.matchesText_of_plain h]
  simp

/-- The laws of exclusion, for any label. -/
theorem exclusion_is_segmentwise (label : String) :
    (∀ patterns : List String,
      isExcludedBy label (patterns.map Value.text) = .ok (isExcluded label patterns)) ∧
    (∀ ps qs : List String,
      isExcluded label (ps ++ qs) = (isExcluded label ps || isExcluded label qs)) ∧
    (∀ pattern segment : String, IsSegmentOf segment label →
      Glob.matchesText pattern segment = true →
      ∀ before after patterns : List String, pattern ∈ patterns →
        isExcluded ("/".intercalate (before ++ label :: after)) patterns = true) ∧
    (∀ patterns : List String, (∀ p ∈ patterns, Glob.isWildcard p = false) →
      (isExcluded label patterns = true ↔ ∃ p ∈ patterns, p = label ∨ IsSegmentOf p label)) := by
  refine ⟨isExcludedBy_texts label, ?_, ?_, ?_⟩
  · intro ps qs
    exact List.any_append
  · intro pattern segment hsegment hmatch before after patterns hpattern
    rw [isExcluded, List.any_eq_true]
    exact ⟨pattern, hpattern,
      excludes_iff.mpr (.inr ⟨segment, hsegment.extend before after, hmatch⟩)⟩
  · intro patterns hplain
    rw [isExcluded, List.any_eq_true]
    exact exists_congr fun p => and_congr_right fun hp => excludes_iff_of_plain (hplain p hp)

/-- A wildcard that stands for one segment excludes what lies further down and further up, while
a part of a segment, with or without a slash in it, excludes nothing. -/
theorem exclusion_is_segmentwise_in_dependency :
    let label := "lib/node_modules/a.js"
    IsSegmentOf "node_modules" label ∧
      isExcluded ("/".intercalate ["src", label, "b.js"]) ["dist", "node_*"] = true ∧
      isExcluded label ["node", "modules/a.js", "a"] = false := by
  intro label
  have hsegment : IsSegmentOf "node_modules" label := by decide +kernel
  obtain ⟨-, -, hextend, hplain⟩ := exclusion_is_segmentwise label
  have hparts : ¬ ∃ p ∈ ["node", "modules/a.js", "a"], p = label ∨ IsSegmentOf p label := by
    decide +kernel
  refine ⟨hsegment, ?_, ?_⟩
  · exact hextend "node_*" "node_modules" hsegment (by decide +kernel) ["src"] ["b.js"] _ (by simp)
  · exact Bool.eq_false_iff.mpr fun h => hparts ((hplain _ (by decide +kernel)).mp h)

end Run
end ContractAudit
