import Mathlib.Data.List.Infix
import ContractAudit.Proofs.Config.Layers

/-!
# Refused settings

The check of settings either passes, or it refuses a value, or it meets a value
that it cannot examine.  The message of a refusal starts with the name of the
field that it is about, which is how the fault finds the value to show; this is
possible because no name starts with another one.

Main results:

- Theorem {lit}`blamedKey_message`: every message blames the field that is refused.
- Theorem {lit}`Settings.defect?_eq_unusable_iff`: what cannot be examined.
- Theorems {lit}`Layers.refusalFault_of_obstacle` and
  {lit}`Layers.refusalFault_of_shown`: what a refusal ends with.
-/

namespace ContractAudit
namespace Config

/-! ## The blamed field -/

/-- No name of a field starts with the name of another one. -/
theorem Field.eq_of_name_isPrefix {f g : Field} (h : f.name.toList <+: g.name.toList) : f = g := by
  have hall : ∀ f ∈ Field.all, ∀ g ∈ Field.all, f.name.toList <+: g.name.toList → f = g := by
    decide
  exact hall f f.mem_all g g.mem_all h

/-- A message that starts with the name of a field blames it. -/
theorem blamedKey_of_isPrefix {f : Field} {message : String}
    (h : f.name.toList <+: message.toList) : blamedKey message = f.name := by
  have hfound : ∃ g, Field.all.find? (fun g => message.startsWith g.name) = some g := by
    rw [← Option.isSome_iff_exists, List.find?_isSome]
    exact ⟨f, f.mem_all, String.startsWith_string_iff.mpr h⟩
  obtain ⟨g, hg⟩ := hfound
  have hstart : g.name.toList <+: message.toList :=
    String.startsWith_string_iff.mp
      (List.find?_some (p := fun g : Field => message.startsWith g.name) hg)
  obtain rfl : f = g := by
    rcases List.prefix_or_prefix_of_prefix h hstart with hfg | hgf
    · exact Field.eq_of_name_isPrefix hfg
    · exact (Field.eq_of_name_isPrefix hgf).symm
  simp only [blamedKey, hg]

/-- A message about one pattern blames the patterns. -/
theorem blamedKey_absolutePattern (pattern : String) :
    blamedKey (SettingError.absolutePattern pattern).message = Field.patterns.name := by
  have hquote : "pattern '".toList <+: (SettingError.absolutePattern pattern).message.toList := by
    refine ⟨(pattern ++ "' must be relative to root").toList, ?_⟩
    rw [← String.toList_append, ← String.append_assoc]
    rfl
  have hnone : Field.all.find?
      (fun f => (SettingError.absolutePattern pattern).message.startsWith f.name) = none := by
    -- a name that starts the message starts the quoted beginning, or the other way round
    have hapart : ∀ f ∈ Field.all, ¬ f.name.toList <+: "pattern '".toList ∧
        ¬ "pattern '".toList <+: f.name.toList := by decide
    rw [List.find?_eq_none]
    intro f hf hstart
    rcases List.prefix_or_prefix_of_prefix (String.startsWith_string_iff.mp hstart) hquote with
      hname | hname
    · exact (hapart f hf).1 hname
    · exact (hapart f hf).2 hname
  have hword : (SettingError.absolutePattern pattern).message.startsWith "pattern " = true :=
    String.startsWith_string_iff.mpr (List.IsPrefix.trans (by decide) hquote)
  simp only [blamedKey, hnone, hword, if_true]

/-- Every message blames the field that is refused. -/
theorem blamedKey_message (why : SettingError) : blamedKey why.message = why.field.name := by
  cases why with
  | absolutePattern pattern => exact blamedKey_absolutePattern pattern
  | noPatterns => exact blamedKey_of_isPrefix (f := .patterns) (by decide)
  | blankPattern => exact blamedKey_of_isPrefix (f := .patterns) (by decide)
  | sizeNotPositive => exact blamedKey_of_isPrefix (f := .maxFileSize) (by decide)
  | unknownFormat => exact blamedKey_of_isPrefix (f := .outputFormat) (by decide)
  | unknownVerbosity => exact blamedKey_of_isPrefix (f := .verbosity) (by decide)

/-! ## What cannot be examined -/

/-- Patterns that are there and hold nothing to go through cannot be examined. -/
theorem patternsDefect?_eq_unusable_iff {v : Value} {failure : Failure} :
    patternsDefect? v = some (.unusable failure) ↔
      v.isTruthy = true ∧ v.items? = none ∧ v.notIterable = failure := by
  unfold patternsDefect?
  cases v.isTruthy with
  | false => simp
  | true =>
      cases v.items? with
      | none => simp
      | some items =>
          simp only [Bool.not_true, Bool.false_eq_true, if_false]
          cases items.findSome? patternDefect? <;> simp

/-- A size that is no number cannot be examined. -/
theorem sizeDefect?_eq_unusable_iff {v : Value} {failure : Failure} :
    sizeDefect? v = some (.unusable failure) ↔
      isNonpositive? v = none ∧ Failure.unexpected .badType
        ("'<=' not supported between instances of '" ++ v.fullKindName ++ "' and 'int'") =
          failure := by
  unfold sizeDefect?
  cases isNonpositive? v with
  | none => simp
  | some b => cases b <;> simp

namespace Settings

/-- Whether settings have a value that cannot be examined: patterns that are there
and hold nothing to go through, or a size that is no number and is reached. -/
def Unexaminable (s : Settings) : Prop :=
  (s.patterns.isTruthy = true ∧ s.patterns.items? = none) ∨
    (patternsDefect? s.patterns = none ∧ isNonpositive? s.maxFileSize = none)

/-- A check ends with a value that cannot be examined at the patterns or at the size. -/
theorem defect?_eq_unusable_iff {s : Settings} {failure : Failure} :
    s.defect? = some (.unusable failure) ↔
      patternsDefect? s.patterns = some (.unusable failure) ∨
        (patternsDefect? s.patterns = none ∧
          sizeDefect? s.maxFileSize = some (.unusable failure)) := by
  unfold defect?
  cases patternsDefect? s.patterns with
  | some d => simp
  | none =>
      cases sizeDefect? s.maxFileSize with
      | some d => simp
      | none => grind

/-- Some value ends the check unexamined exactly if settings have one. -/
theorem exists_unusable_iff {s : Settings} :
    (∃ failure, s.defect? = some (.unusable failure)) ↔ s.Unexaminable := by
  simp only [defect?_eq_unusable_iff, patternsDefect?_eq_unusable_iff,
    sizeDefect?_eq_unusable_iff, exists_or, exists_and_left, exists_eq', and_true, Unexaminable]

/-- A value that cannot be examined is of a bad type. -/
theorem badType_of_unusable {s : Settings} {failure : Failure}
    (h : s.defect? = some (.unusable failure)) :
    ∃ message, failure = .unexpected .badType message := by
  rw [defect?_eq_unusable_iff, patternsDefect?_eq_unusable_iff, sizeDefect?_eq_unusable_iff] at h
  rcases h with ⟨-, -, rfl⟩ | ⟨-, -, rfl⟩
  · exact ⟨_, rfl⟩
  · exact ⟨_, rfl⟩

end Settings

/-! ## Showing a refused value -/

/-- The default of a field can be shown. -/
theorem Field.obstacle?_default (f : Field) : f.default.obstacle? Value.shownDepth = none := by
  cases f <;> rfl

namespace Layers

variable {l : Layers} {why : SettingError}

/-- The value that a message shows can be shown exactly if that of its field can. -/
theorem obstacle?_shown (l : Layers) (f : Field) :
    ((Table.get? (l.merged.map wrapSingle) f.name).getD .null).obstacle? Value.shownDepth =
      (l.value f).obstacle? Value.shownDepth := by
  rw [get?_wrapped, value]
  cases (l.setting? f.name).map f.adopt with
  | none => exact f.obstacle?_default.symm
  | some v => rfl

/-- The refusal of a value that cannot be shown ends with its obstacle. -/
theorem refusalFault_of_obstacle {e : Value.ShowError}
    (h : (l.value why.field).obstacle? Value.shownDepth = some e) :
    refusalFault (l.merged.map wrapSingle) why = e.toFailure := by
  rw [← obstacle?_shown] at h
  simp only [refusalFault, refusedSetting, RefusedSetting.toFailure, blamedKey_message, h]

/-- The refusal of a value that can be shown is a fault of its field. -/
theorem refusalFault_of_shown (h : (l.value why.field).obstacle? Value.shownDepth = none) :
    ∃ shown, refusalFault (l.merged.map wrapSingle) why =
      .fault (.invalidSetting why.field.name shown why.message) := by
  rw [← obstacle?_shown] at h
  simp only [refusalFault, refusedSetting, RefusedSetting.toFailure, blamedKey_message, h]
  exact ⟨_, rfl⟩

end Layers

end Config
end ContractAudit
