import ContractAudit.Proofs.Config.Refusal

/-!
# What the check accepts and whom it blames

Four fields are checked, one after the other.  Each has a rule of its own that
its value must meet; settings are built exactly if all rules are met.  Where a
value is refused, the key of the fault is that of the first field whose rule is
not met, although it is found again from the text of the message, which may hold
any pattern.  The value of the fault is what the merged table gives this field.

Main results:

- Theorem {lit}`Settings.defect?_eq_none_iff`: what the check accepts.
- Theorem {lit}`Settings.firstBreach_of_refused`: a refusal is about the first field
  whose rule is not met.
- Theorem {lit}`refusal_blames_first`: what building settings ends with, and whom
  loading blames.
-/

namespace ContractAudit
namespace Config

open Files (Pathname World)

/-! ## Rules -/

/-- A pattern that can be used: a text with something besides blanks that does not start
at a root directory. -/
def UsablePattern (v : Value) : Prop :=
  ∃ s : String, v = .text s ∧ (∃ c ∈ s.toList, Text.isBlank c = false) ∧
    s.toList.head? ≠ some '/'

/-- A size that is not at most zero.  The not-a-number is one: it compares with nothing. -/
inductive UsableSize : Value → Prop where
  | yes : UsableSize (.bool true)
  | int {i : Int} (h : 0 < i) : UsableSize (.int i)
  | nan : UsableSize (.float .nan)
  | infinite : UsableSize (.float (.infinite false))
  | finite {m : Number.Magnitude} (h : 0 < m.units) : UsableSize (.float (.finite false m))

/-- The rule of a field. -/
def Field.Rule : Field → Value → Prop
  | patterns, v => ∃ items, v.items? = some items ∧ items ≠ [] ∧ ∀ item ∈ items, UsablePattern item
  | maxFileSize, v => UsableSize v
  | outputFormat, v => ∃ name ∈ ["rich", "json", "csv"], v = .text name
  | verbosity, v => ∃ name ∈ ["quiet", "normal", "verbose"], v = .text name
  | _, _ => True

/-- The fields that are checked, in order. -/
def checkOrder : List Field :=
  [.patterns, .maxFileSize, .outputFormat, .verbosity]

/-- A field breaks its rule, and those that are checked before it do not. -/
def Settings.FirstBreach (s : Settings) (f : Field) : Prop :=
  ∃ before after, checkOrder = before ++ f :: after ∧ (∀ g ∈ before, g.Rule (s.get g)) ∧
    ¬ f.Rule (s.get f)

/-! ## One field -/

/-- A path text starts at a root directory exactly if it starts with a slash. -/
theorem isAbsolute_parse_iff (s : String) :
    (Pathname.parse s).isAbsolute = true ↔ s.toList.head? = some '/' := by
  unfold Pathname.isAbsolute Pathname.parse Pathname.rootOf
  dsimp only
  split
  next h => simp [h]
  next h => simp [h]
  next h => simp [h]
  next hrelative =>
    cases hs : s.toList with
    | nil => simp
    | cons c rest =>
        have hne : c ≠ '/' := fun hc => hrelative rest (by rw [hs, hc])
        simp [hne]

/-- A pattern has no defect exactly if it can be used. -/
theorem patternDefect?_eq_none_iff (v : Value) : patternDefect? v = none ↔ UsablePattern v := by
  unfold UsablePattern
  cases v with
  | text s =>
      have hblank : Text.allBlank s.toList = false ↔ ∃ c ∈ s.toList, Text.isBlank c = false := by
        simp [Text.allBlank]
      simp only [patternDefect?, Value.text.injEq, exists_eq_left', ← hblank, Ne,
        ← isAbsolute_parse_iff]
      cases Text.allBlank s.toList <;> cases (Pathname.parse s).isAbsolute <;> simp
  | _ => simp [patternDefect?]

/-- What a defect of a pattern is about. -/
theorem field_of_patternDefect? {v : Value} {why : SettingError} (h : patternDefect? v = some why) :
    why.field = .patterns := by
  unfold patternDefect? at h
  split at h
  · split_ifs at h <;> cases h <;> rfl
  · cases h
    rfl

/-- What holds something counts as present exactly if it holds at least one item. -/
theorem isTruthy_iff_of_items? {v : Value} {items : List Value} (h : v.items? = some items) :
    v.isTruthy = true ↔ items ≠ [] := by
  cases v with
  | list held =>
      obtain rfl := Option.some.inj h
      simp [Value.isTruthy]
  | table entries =>
      obtain rfl := Option.some.inj h
      simp [Value.isTruthy]
  | text s =>
      obtain rfl := Option.some.inj h
      simp [Value.isTruthy]
  | _ => cases h

/-- Patterns have no defect exactly if they meet their rule. -/
theorem patternsDefect?_eq_none_iff (v : Value) :
    patternsDefect? v = none ↔ Field.patterns.Rule v := by
  rw [patternsDefect?, Field.Rule]
  cases hitems : v.items? with
  | none =>
      cases v.isTruthy <;> simp
  | some items =>
      simp only [Option.some.injEq, exists_eq_left', ← isTruthy_iff_of_items? hitems,
        ← patternDefect?_eq_none_iff]
      cases v.isTruthy with
      | false => simp
      | true => simp [List.findSome?_eq_none_iff]

/-- A refusal by the patterns is about them. -/
theorem field_of_patternsDefect? {v : Value} {why : SettingError}
    (h : patternsDefect? v = some (.refused why)) : why.field = .patterns := by
  unfold patternsDefect? at h
  split_ifs at h
  · cases h
    rfl
  · cases hitems : v.items? with
    | none => simp [hitems] at h
    | some items =>
        simp only [hitems, Option.map_eq_some_iff, Defect.refused.injEq, exists_eq_right] at h
        obtain ⟨item, -, hitem⟩ := List.exists_of_findSome?_eq_some h
        exact field_of_patternDefect? hitem

/-- A size passes the comparison with zero exactly if it can be used. -/
theorem isNonpositive?_eq_false_iff (v : Value) :
    isNonpositive? v = some false ↔ UsableSize v := by
  constructor
  · intro h
    cases v with
    | bool b =>
        cases b with
        | true => exact .yes
        | false => cases h
    | int i => exact .int (by simpa [isNonpositive?] using h)
    | float x =>
        cases x with
        | nan => exact .nan
        | infinite negative =>
            cases negative with
            | true => cases h
            | false => exact .infinite
        | finite negative m =>
            cases negative with
            | true => cases h
            | false =>
                have hunits : m.units ≠ 0 := by
                  simpa [isNonpositive?, Number.Double.nonpositive] using h
                exact .finite (Nat.pos_of_ne_zero hunits)
    | _ => cases h
  · intro h
    cases h with
    | yes => rfl
    | int hi => simpa [isNonpositive?] using hi
    | nan => rfl
    | infinite => rfl
    | finite hm => simpa [isNonpositive?, Number.Double.nonpositive] using Nat.ne_of_gt hm

/-- A size has no defect exactly if it can be used. -/
theorem sizeDefect?_eq_none_iff (v : Value) : sizeDefect? v = none ↔ Field.maxFileSize.Rule v := by
  rw [Field.Rule, ← isNonpositive?_eq_false_iff, sizeDefect?]
  cases isNonpositive? v with
  | none => simp
  | some b => cases b <;> simp

/-- A refusal by the size is about it. -/
theorem field_of_sizeDefect? {v : Value} {why : SettingError}
    (h : sizeDefect? v = some (.refused why)) : why.field = .maxFileSize := by
  unfold sizeDefect? at h
  split at h
  · cases h
    rfl
  · cases h
  · cases h

/-- A value is one of some texts exactly if it is the text of one of them. -/
theorem isOneOf_iff (names : List String) (v : Value) :
    isOneOf names v = true ↔ ∃ name ∈ names, v = .text name := by
  cases v with
  | text s => simp [isOneOf]
  | _ => simp [isOneOf]

/-- The defect of the value of a field. -/
def Field.defect? : Field → Value → Option Defect
  | patterns, v => patternsDefect? v
  | maxFileSize, v => sizeDefect? v
  | outputFormat, v => if isOneOf formatNames v then none else some (.refused .unknownFormat)
  | verbosity, v =>
    if isOneOf Log.Verbosity.names v then none else some (.refused .unknownVerbosity)
  | _, _ => none

/-- A value has no defect exactly if it meets the rule of its field. -/
theorem Field.defect?_eq_none_iff (f : Field) (v : Value) : f.defect? v = none ↔ f.Rule v := by
  cases f with
  | patterns => exact patternsDefect?_eq_none_iff v
  | maxFileSize => exact sizeDefect?_eq_none_iff v
  | outputFormat =>
      have hknown : Field.outputFormat.Rule v ↔ isOneOf formatNames v = true :=
        (isOneOf_iff formatNames v).symm
      rw [hknown, Field.defect?]
      split_ifs with h <;> simp [h]
  | verbosity =>
      have hknown : Field.verbosity.Rule v ↔ isOneOf Log.Verbosity.names v = true :=
        (isOneOf_iff Log.Verbosity.names v).symm
      rw [hknown, Field.defect?]
      split_ifs with h <;> simp [h]
  | excludePatterns => simp [Field.defect?, Field.Rule]
  | root => simp [Field.defect?, Field.Rule]
  | outputFile => simp [Field.defect?, Field.Rule]
  | showProgress => simp [Field.defect?, Field.Rule]

/-- A refusal of the value of a field is about this field. -/
theorem Field.field_of_defect? {f : Field} {v : Value} {why : SettingError}
    (h : f.defect? v = some (.refused why)) : why.field = f := by
  cases f with
  | patterns => exact field_of_patternsDefect? h
  | maxFileSize => exact field_of_sizeDefect? h
  | outputFormat =>
      simp only [Field.defect?] at h
      split_ifs at h
      cases h
      rfl
  | verbosity =>
      simp only [Field.defect?] at h
      split_ifs at h
      cases h
      rfl
  | excludePatterns => cases h
  | root => cases h
  | outputFile => cases h
  | showProgress => cases h

/-- A field that is not checked takes every value. -/
theorem Field.rule_of_not_checked {f : Field} (h : f ∉ checkOrder) (v : Value) : f.Rule v := by
  cases f with
  | patterns => exact absurd (by decide) h
  | maxFileSize => exact absurd (by decide) h
  | outputFormat => exact absurd (by decide) h
  | verbosity => exact absurd (by decide) h
  | excludePatterns => exact True.intro
  | root => exact True.intro
  | outputFile => exact True.intro
  | showProgress => exact True.intro

/-- The default of a field meets its rule. -/
theorem Field.rule_default (f : Field) : f.Rule f.default := by
  rw [← Field.defect?_eq_none_iff]
  cases f with
  | maxFileSize => decide +kernel
  | _ => rfl

/-! ## All fields -/

namespace Settings

variable {s : Settings}

/-- The check goes through the fields in order and stops at the first defect. -/
theorem defect?_eq_findSome? (s : Settings) :
    s.defect? = checkOrder.findSome? fun f => f.defect? (s.get f) := by
  simp only [defect?, checkOrder, List.findSome?_cons, List.findSome?_nil, Field.defect?, get]
  cases patternsDefect? s.patterns with
  | some d => rfl
  | none =>
      cases sizeDefect? s.maxFileSize with
      | some d => rfl
      | none =>
          cases isOneOf formatNames s.outputFormat with
          | false => rfl
          | true => cases isOneOf Log.Verbosity.names s.verbosity <;> rfl

/-- The check accepts exactly the settings whose fields all meet their rules. -/
theorem defect?_eq_none_iff : s.defect? = none ↔ ∀ f : Field, f.Rule (s.get f) := by
  simp only [defect?_eq_findSome?, List.findSome?_eq_none_iff, Field.defect?_eq_none_iff]
  refine ⟨fun h f => ?_, fun h f _ => h f⟩
  by_cases hchecked : f ∈ checkOrder
  · exact h f hchecked
  · exact Field.rule_of_not_checked hchecked _

/-- A refusal is about the first field whose rule is not met. -/
theorem firstBreach_of_refused {why : SettingError} (h : s.defect? = some (.refused why)) :
    s.FirstBreach why.field := by
  rw [defect?_eq_findSome?, List.findSome?_eq_some_iff] at h
  obtain ⟨before, f, after, horder, hdefect, hbefore⟩ := h
  obtain rfl := Field.field_of_defect? hdefect
  refine ⟨before, after, horder, fun g hg => ?_, fun hrule => ?_⟩
  · exact (g.defect?_eq_none_iff _).mp (hbefore g hg)
  · rw [(Field.defect?_eq_none_iff _ _).mpr hrule] at hdefect
    cases hdefect

/-- There is at most one first field whose rule is not met. -/
theorem FirstBreach.unique {f g : Field} (hf : s.FirstBreach f) (hg : s.FirstBreach g) : f = g := by
  classical
  have hfound {f : Field} (h : s.FirstBreach f) :
      checkOrder.find? (fun g => !decide (g.Rule (s.get g))) = some f := by
    obtain ⟨before, after, horder, hbefore, hrule⟩ := h
    rw [List.find?_eq_some_iff_append]
    refine ⟨by simpa using hrule, before, after, horder, fun g hg => ?_⟩
    simpa using hbefore g hg
  exact Option.some.inj ((hfound hf).symm.trans (hfound hg))

end Settings

/-! ## Refused settings -/

/-- A refused setting is a fault that names its key exactly if its value can be shown. -/
theorem RefusedSetting.toFailure_eq_fault_iff (r : RefusedSetting) :
    r.toFailure = .fault (.invalidSetting r.key r.value.shown r.reason) ↔
      r.value.obstacle? Value.shownDepth = none := by
  unfold toFailure
  cases r.value.obstacle? Value.shownDepth with
  | none => simp
  | some e => cases e <;> simp [Value.ShowError.toFailure]

/-- The key of a refused setting is in its fault. -/
theorem RefusedSetting.key_of_fault {r : RefusedSetting} {fault : Fault}
    (h : r.toFailure = .fault fault) : fault.detail? "key" = some r.key := by
  unfold toFailure at h
  split at h
  next e _ => cases e <;> cases h
  next =>
    cases h
    rfl

/-! ## Merged tables -/

section Merged

variable {merged : Table}

/-- Wrapping keeps the keys of a table. -/
theorem keys_map_wrapSingle (t : Table) : Table.keys (t.map wrapSingle) = t.keys := by
  unfold Table.keys
  rw [List.map_map]
  exact List.map_congr_left fun e _ => wrapSingle_fst e

/-- A field that breaks its rule is set by the table, since its default meets the rule. -/
theorem exists_given_of_breach {f : Field}
    (h : ¬ f.Rule ((Settings.ofTable (merged.map wrapSingle)).get f)) :
    ∃ given, merged.get? f.name = some given := by
  rw [Settings.ofTable, Settings.get_ofFunction, get?_map_wrapSingle] at h
  cases hgiven : merged.get? f.name with
  | some given => exact ⟨given, rfl⟩
  | none =>
      rw [hgiven] at h
      exact absurd f.rule_default h

/-- The setting that is refused is that of the field, with the value that the field takes
of the table. -/
theorem refusedSetting_eq {why : SettingError} {given : Value}
    (h : merged.get? why.field.name = some given) :
    refusedSetting (merged.map wrapSingle) why =
      ⟨why.field.name, why.field.adopt given, why.message⟩ := by
  rw [refusedSetting, blamedKey_message, get?_map_wrapSingle, h]
  rfl

/-- Settings are built from fields unless they have a defect. -/
theorem make_of_known {t : Table} (h : ∀ key ∈ t.keys, key ∈ Field.names) :
    Settings.make t =
      match (Settings.ofTable t).defect? with
      | none => .ok (.ofTable t)
      | some d => .error d.toFailure := by
  have hnone : t.keys.find? (fun k => (Field.ofName? k).isNone) = none := by
    rw [List.find?_eq_none]
    intro key hkey hunknown
    rw [Option.isNone_iff_eq_none, Field.ofName?_eq_none_iff] at hunknown
    exact hunknown (h key hkey)
  rw [Settings.make, hnone, Settings.checked]
  cases (Settings.ofTable t).defect? <;> rfl

/-- A merged table of fields resolves to its settings unless they have a defect. -/
theorem resolve_of_known (h : ∀ key ∈ merged.keys, key ∈ Field.names) :
    resolve merged =
      match (Settings.ofTable (merged.map wrapSingle)).defect? with
      | none => .ok (.ofTable (merged.map wrapSingle))
      | some (.refused why) => .error (refusalFault (merged.map wrapSingle) why)
      | some (.unusable failure) => .error failure := by
  let l : Layers := { project := merged }
  have hknown : l.Known := l.known_iff.mpr fun layer hlayer key hkey => by
    simp only [Layers.ranked, l, List.mem_cons, List.not_mem_nil, or_false] at hlayer
    rcases hlayer with rfl | rfl | rfl | rfl | rfl
    · cases hkey
    · cases hkey
    · cases hkey
    · cases hkey
    · exact h key hkey
  have hresolve := Layers.resolve_of_known hknown
  rw [← Layers.ofTable_merged] at hresolve
  exact hresolve

/-- Settings are built exactly if they have no defect. -/
theorem make_eq_ok_iff {t : Table} (h : ∀ key ∈ t.keys, key ∈ Field.names) (s : Settings) :
    Settings.make t = .ok s ↔ s = .ofTable t ∧ s.defect? = none := by
  rw [make_of_known h]
  constructor
  · intro hmake
    split at hmake
    next hnone =>
      obtain rfl := Except.ok.inj hmake
      exact ⟨rfl, hnone⟩
    next => cases hmake
  · rintro ⟨rfl, hnone⟩
    rw [hnone]

/-- Building settings ends with a bad value only if a value is refused. -/
theorem refused_of_make {t : Table} (h : ∀ key ∈ t.keys, key ∈ Field.names) {message : String}
    (hmake : Settings.make t = .error (.unexpected .badValue message)) :
    ∃ why, (Settings.ofTable t).defect? = some (.refused why) ∧ message = why.message := by
  rw [make_of_known h] at hmake
  split at hmake
  next => cases hmake
  next d hdefect =>
    cases d with
    | refused why =>
        cases hmake
        exact ⟨why, hdefect, rfl⟩
    | unusable failure =>
        obtain ⟨reason, rfl⟩ := Settings.badType_of_unusable hdefect
        cases hmake

/-- A refused value is set by the table, and its setting is what loading ends with. -/
theorem resolve_of_refused (h : ∀ key ∈ merged.keys, key ∈ Field.names) {why : SettingError}
    (hdefect : (Settings.ofTable (merged.map wrapSingle)).defect? = some (.refused why)) :
    ∃ given, merged.get? why.field.name = some given ∧
      resolve merged = .error (RefusedSetting.toFailure
        ⟨why.field.name, why.field.adopt given, why.message⟩) := by
  obtain ⟨_, _, _, _, hrule⟩ := Settings.firstBreach_of_refused hdefect
  obtain ⟨given, hgiven⟩ := exists_given_of_breach hrule
  refine ⟨given, hgiven, ?_⟩
  rw [resolve_of_known h, hdefect]
  simp only [refusalFault, refusedSetting_eq hgiven]

/-- A merged table of fields ends with a fault only if a value is refused, and the fault
has the key of its field. -/
theorem exists_key_of_fault (h : ∀ key ∈ merged.keys, key ∈ Field.names) {fault : Fault}
    (hfault : resolve merged = .error (.fault fault)) :
    ∃ f ∈ checkOrder, fault.detail? "key" = some f.name := by
  rw [resolve_of_known h] at hfault
  split at hfault
  next => cases hfault
  next why hdefect =>
    obtain ⟨before, after, horder, -, -⟩ := Settings.firstBreach_of_refused hdefect
    refine ⟨why.field, by simp [horder], ?_⟩
    rw [RefusedSetting.key_of_fault (Except.error.inj hfault), refusedSetting, blamedKey_message]
  next failure hdefect =>
    obtain ⟨reason, rfl⟩ := Settings.badType_of_unusable hdefect
    cases hfault

end Merged

/-! ## Whom loading blames -/

/-- What building settings from a merged table ends with, and whom loading blames. -/
structure BlamesFirst (merged : Table) : Prop where
  /-- Settings are built exactly if all fields meet their rules, and then they are loaded. -/
  built : ∀ s, Settings.make (merged.map wrapSingle) = .ok s ↔
    s = .ofTable (merged.map wrapSingle) ∧ ∀ f : Field, f.Rule (s.get f)
  loaded : ∀ s, Settings.make (merged.map wrapSingle) = .ok s → resolve merged = .ok s
  /-- A value that is refused is that of the first field whose rule is not met: the
  refused setting has the key of this field and the value that the field takes of the
  table.  It ends as a fault with both, exactly if the value can be shown. -/
  refused : ∀ message,
    Settings.make (merged.map wrapSingle) = .error (.unexpected .badValue message) →
    ∃ f given, (Settings.ofTable (merged.map wrapSingle)).FirstBreach f ∧
      merged.get? f.name = some given ∧
      resolve merged = .error (RefusedSetting.toFailure ⟨f.name, f.adopt given, message⟩) ∧
      (resolve merged =
          .error (.fault (.invalidSetting f.name (f.adopt given).shown message)) ↔
        (f.adopt given).obstacle? Value.shownDepth = none)
  /-- A fault names a field that is checked, never the catch-all key. -/
  key : ∀ fault, resolve merged = .error (.fault fault) →
    (∃ f ∈ checkOrder, fault.detail? "key" = some f.name) ∧ fault.detail? "key" ≠ some "config"

/-- For every merged table that sets fields only, the settings are built exactly if every
rule is met, and otherwise the first field that breaks its rule is blamed, with its own
value; a run that has merged this table ends in the same way. -/
theorem refusal_blames_first {merged : Table} (hknown : ∀ key ∈ merged.keys, key ∈ Field.names) :
    BlamesFirst merged ∧
      ∀ (w : World) (env : Environment) (file : Option Pathname) (caller : Table) (l : Layers),
        layers w env file caller = .ok l → l.merged = merged →
          load w env file caller = resolve merged := by
  have hwrapped : ∀ key ∈ Table.keys (merged.map wrapSingle), key ∈ Field.names := by
    rw [keys_map_wrapSingle]
    exact hknown
  constructor
  · constructor
    · intro s
      rw [make_eq_ok_iff hwrapped, Settings.defect?_eq_none_iff]
    · intro s hs
      obtain ⟨rfl, hdefect⟩ := (make_eq_ok_iff hwrapped s).mp hs
      rw [resolve_of_known hknown, hdefect]
    · intro message hmessage
      obtain ⟨why, hdefect, rfl⟩ := refused_of_make hwrapped hmessage
      obtain ⟨given, hgiven, hresolve⟩ := resolve_of_refused hknown hdefect
      refine ⟨why.field, given, Settings.firstBreach_of_refused hdefect, hgiven, hresolve, ?_⟩
      rw [hresolve, Except.error.injEq]
      exact RefusedSetting.toFailure_eq_fault_iff _
    · intro fault hfault
      obtain ⟨f, hf, hkey⟩ := exists_key_of_fault hknown hfault
      refine ⟨⟨f, hf, hkey⟩, ?_⟩
      intro hconfig
      have hname : f.name ≠ "config" := by cases f <;> decide
      exact hname (Option.some.inj (hkey.symm.trans hconfig))
  · rintro w env file caller l hlayers rfl
    rw [load, hlayers]
    rfl

/-- Three values are refused at once, and a pattern spells the name of another field: the
patterns are blamed.  An integer that is too long to be shown is refused without a
fault. -/
theorem refusal_blames_first_of_three :
    let crowded : Table := [("output_format", .text "xml"), ("max_file_size_mb", .int 0),
      ("patterns", .text "/verbosity must")]
    let long : Table := [("output_format", .list [.int (Number.tenTo Number.maxIntDigits)])]
    resolve crowded = .error (.fault (.invalidSetting "patterns" "['/verbosity must']"
      "pattern '/verbosity must' must be relative to root")) ∧
    resolve long = .error (Value.ShowError.toFailure .longInteger) := by
  intro crowded long
  have hcrowded : (Settings.ofTable (crowded.map wrapSingle)).defect? =
      some (.refused (.absolutePattern "/verbosity must")) := by
    decide +kernel
  have hlong : (Settings.ofTable (long.map wrapSingle)).defect? =
      some (.refused .unknownFormat) := by
    decide +kernel
  constructor
  · have hmake : Settings.make (crowded.map wrapSingle) = .error (.unexpected .badValue
        "pattern '/verbosity must' must be relative to root") := by
      rw [make_of_known (by decide), hcrowded]
      rfl
    obtain ⟨f, given, hbreach, hgiven, hresolve, -⟩ :=
      (refusal_blames_first (by decide)).1.refused _ hmake
    obtain rfl : f = .patterns := hbreach.unique (Settings.firstBreach_of_refused hcrowded)
    obtain rfl : .text "/verbosity must" = given := Option.some.inj hgiven
    rw [hresolve, Except.error.injEq]
    decide +kernel
  · have hmake : Settings.make (long.map wrapSingle) = .error (.unexpected .badValue
        "output_format must be one of: rich, json, csv") := by
      rw [make_of_known (by decide), hlong]
      rfl
    obtain ⟨f, given, hbreach, hgiven, hresolve, -⟩ :=
      (refusal_blames_first (by decide)).1.refused _ hmake
    obtain rfl : f = .outputFormat := hbreach.unique (Settings.firstBreach_of_refused hlong)
    obtain rfl : .list [.int (Number.tenTo Number.maxIntDigits)] = given := Option.some.inj hgiven
    rw [hresolve, Except.error.injEq]
    decide +kernel

end Config
end ContractAudit
