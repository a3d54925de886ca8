import ContractAudit.Proofs.Config.Precedence
import ContractAudit.Proofs.Files.Resolution
import ContractAudit.Proofs.Text.Segments
import ContractAudit.Proofs.Text.Trimming
import ContractAudit.Proofs.Toml.ListDocument

/-!
# Lists in variables

The variable of a list holds its items between commas.  Blanks around an item
do not matter, and what is blank between two commas is no item.  The items that
are read are therefore normal: not empty, without commas and without blanks at
their ends.  Normal items, joined by commas with any blanks around them, are
read back in order.

A list that stands in a variable sets the same as the list in a settings
document, as far as no other layer comes between.

Main results:

- Theorem {lit}`listItems_eq_iff`: what the text of a variable has to look like
  for some items to be read.
- Theorem {lit}`resolve_congr`: settings follow from what is found in the
  merged table, not from how it is put together.
- Theorem {lit}`load_of_variable`: a list in a variable or in a document.
- Theorem {lit}`list_variables_round_trip`: all together.
-/

namespace ContractAudit
namespace Config

open Text (allBlank Trimmed)
open Files (Pathname World)

/-! ## Items -/

/-- An item of a list: not empty, without commas and without blanks at its ends. -/
structure IsItem (item : String) : Prop where
  ne_empty : item ≠ ""
  no_comma : ',' ∉ item.toList
  trimmed : Trimmed item.toList

instance (item : String) : Decidable (IsItem item) :=
  decidable_of_iff (item ≠ "" ∧ ',' ∉ item.toList ∧ Trimmed item.toList)
    ⟨fun h => ⟨h.1, h.2.1, h.2.2⟩, fun h => ⟨h.ne_empty, h.no_comma, h.trimmed⟩⟩

/-- What stands between commas spells items: each item with blanks around it, and blanks where
there is no item. -/
inductive Spells : List String → List String → Prop
  | nil : Spells [] []
  | blank {field : String} {fields items : List String} (hfield : allBlank field.toList = true)
      (hrest : Spells fields items) : Spells (field :: fields) items
  | item {before item after : String} {fields items : List String}
      (hbefore : allBlank before.toList = true) (hitem : IsItem item)
      (hafter : allBlank after.toList = true) (hrest : Spells fields items) :
      Spells ((before ++ item ++ after) :: fields) (item :: items)

/-- The item in what stands between two commas, empty where there is none. -/
def trimmedText (field : String) : String :=
  String.ofList (Text.trim field.toList)

theorem listItems_eq (s : String) :
    listItems s = ((Text.cutAt ',' s).map trimmedText).filter (· != "") := rfl

/-- Blanks around an item are taken away. -/
theorem trimmedText_padded {before item after : String} (hbefore : allBlank before.toList = true)
    (hitem : IsItem item) (hafter : allBlank after.toList = true) :
    trimmedText (before ++ item ++ after) = item := by
  have hne : item.toList ≠ [] := fun h => hitem.ne_empty (String.toList_eq_nil_iff.mp h)
  rw [trimmedText, String.toList_append, String.toList_append,
    Text.trim_padded hbefore hafter hitem.trimmed hne, String.ofList_toList]

/-- What spells items is read as these items, and only blanks are dropped. -/
theorem Spells.filter_eq {fields items : List String} (h : Spells fields items) :
    (fields.map trimmedText).filter (· != "") = items := by
  induction h with
  | nil => rfl
  | blank hfield _ ih =>
      have hempty : trimmedText _ = "" := congrArg String.ofList (Text.trim_of_allBlank hfield)
      rw [List.map_cons, hempty, List.filter_cons_of_neg (by simp), ih]
  | item hbefore hitem hafter _ ih =>
      rw [List.map_cons, trimmedText_padded hbefore hitem hafter,
        List.filter_cons_of_pos (by simpa using hitem.ne_empty), ih]

/-- Nothing that spells items has a comma in it. -/
theorem Spells.no_comma {fields items : List String} (h : Spells fields items) :
    ∀ field ∈ fields, ',' ∉ field.toList := by
  induction h with
  | nil => simp
  | blank hfield _ ih =>
      exact List.forall_mem_cons.mpr ⟨Text.comma_not_mem_of_allBlank hfield, ih⟩
  | item hbefore hitem hafter _ ih =>
      refine List.forall_mem_cons.mpr ⟨?_, ih⟩
      simp [Text.comma_not_mem_of_allBlank hbefore, hitem.no_comma,
        Text.comma_not_mem_of_allBlank hafter]

/-- What is spelled are items. -/
theorem Spells.isItem {fields items : List String} (h : Spells fields items) :
    ∀ item ∈ items, IsItem item := by
  induction h with
  | nil => simp
  | blank _ _ ih => exact ih
  | item _ hitem _ _ ih => exact List.forall_mem_cons.mpr ⟨hitem, ih⟩

/-- What stands between commas spells the items that are read. -/
theorem spells_filter {fields : List String} (h : ∀ field ∈ fields, ',' ∉ field.toList) :
    Spells fields ((fields.map trimmedText).filter (· != "")) := by
  induction fields with
  | nil => exact .nil
  | cons field fields ih =>
      have hrest := ih fun f hf => h f (List.mem_cons_of_mem field hf)
      obtain ⟨before, after, hbefore, hafter, hpadding⟩ := Text.exists_padding field.toList
      have hfield : field = String.ofList before ++ trimmedText field ++ String.ofList after := by
        apply String.toList_inj.mp
        simpa [trimmedText] using hpadding
      have htrimmed : (trimmedText field).toList = Text.trim field.toList := String.toList_ofList
      by_cases hempty : trimmedText field = ""
      · have hblank : allBlank field.toList = true := by
          rw [← htrimmed, hempty] at hpadding
          rw [hpadding]
          simpa [allBlank] using And.intro hbefore hafter
        rw [List.map_cons, hempty, List.filter_cons_of_neg (by simp)]
        exact .blank hblank hrest
      · have hitem : IsItem (trimmedText field) := by
          refine ⟨hempty, fun hcomma => ?_, ?_⟩
          · refine h field List.mem_cons_self ?_
            rw [hfield]
            simp [hcomma]
          · rw [htrimmed]
            exact Text.trimmed_trim field.toList
        rw [List.map_cons, List.filter_cons_of_pos (by simpa using hempty)]
        nth_rewrite 1 [hfield]
        exact .item (by simpa using hbefore) hitem (by simpa using hafter) hrest

/-- Items are read from exactly those texts that spell them between commas. -/
theorem listItems_eq_iff {s : String} {items : List String} :
    listItems s = items ↔
      ∃ fields, fields ≠ [] ∧ s = ",".intercalate fields ∧ Spells fields items := by
  rw [listItems_eq]
  constructor
  · rintro rfl
    refine ⟨Text.cutAt ',' s, by simp [Text.cutAt], (Text.intercalate_cutAt ',' s).symm, ?_⟩
    exact spells_filter fun field => Text.not_mem_of_mem_cutAt
  · rintro ⟨fields, hne, rfl, hspells⟩
    have hcut : Text.cutAt ',' (",".intercalate fields) = fields :=
      Text.cutAt_intercalate hne hspells.no_comma
    rw [hcut, hspells.filter_eq]

/-! ## Settings follow from what is found -/

/-- Keys that are no fields are reported by what is found under them. -/
theorem unknownKeys_congr {t t' : Table} (h : ∀ key, t.get? key = t'.get? key) :
    unknownKeys t = unknownKeys t' := by
  have hmem (key : String) : key ∈ unknownKeys t ↔ key ∈ unknownKeys t' := by
    rw [mem_unknownKeys_iff, mem_unknownKeys_iff, h]
  have hnodup (t : Table) : (unknownKeys t).Nodup := (pairwise_unknownKeys t).imp ne_of_lt
  have hperm : (unknownKeys t).Perm (unknownKeys t') :=
    (List.perm_ext_iff_of_nodup (hnodup t) (hnodup t')).mpr hmem
  exact hperm.eq_of_pairwise (fun _ _ _ _ hab hba => absurd hba (lt_asymm hab))
    (pairwise_unknownKeys t) (pairwise_unknownKeys t')

/-- Tables in which the same is found under every key resolve to the same. -/
theorem resolve_congr {t t' : Table} (h : ∀ key, t.get? key = t'.get? key) :
    resolve t = resolve t' := by
  have hwrapped (key : String) :
      Table.get? (t.map wrapSingle) key = Table.get? (t'.map wrapSingle) key := by
    rw [Table.get?_map wrapSingle_fst, Table.get?_map wrapSingle_fst, h]
  have hsettings : Settings.ofTable (t.map wrapSingle) = Settings.ofTable (t'.map wrapSingle) := by
    simp only [Settings.ofTable, hwrapped]
  have hrefusal (why : SettingError) :
      refusalFault (t.map wrapSingle) why = refusalFault (t'.map wrapSingle) why := by
    simp only [refusalFault, refusedSetting, hwrapped]
  simp only [resolve, unknownKeys_congr hwrapped, hsettings, hrefusal]

/-! ## One more variable -/

/-- Different fields have different variables. -/
theorem Field.variableName_injective {f g : Field} (h : f.variableName = g.variableName) :
    f = g := by
  revert h
  cases f <;> cases g <;> decide

namespace Environment

variable {env : Environment} {f : Field} {s : String} {v : Value}

/-- One more variable sets its field. -/
theorem reading?_cons_self (hread : f.form.read s = .ok (some v)) :
    reading? ((f.variableName, s) :: env) f = some v := by
  rw [reading?, List.lookup_cons_self, Option.bind_some, hread]
  rfl

/-- One more variable leaves the other fields as they are. -/
theorem reading?_cons_of_ne {g : Field} (h : g ≠ f) :
    reading? ((f.variableName, s) :: env) g = env.reading? g := by
  have hname : (g.variableName == f.variableName) = false :=
    beq_eq_false_iff_ne.mpr fun heq => h (Field.variableName_injective heq)
  rw [reading?, List.lookup_cons, hname, ← reading?]

/-- One more variable that can be read does not change whether all of them can be. -/
theorem readFields_cons_variable (hunset : env.lookup f.variableName = none)
    (hread : f.form.read s = .ok (some v)) (fields : List Field) :
    (readFields ((f.variableName, s) :: env) fields).map (fun _ => ()) =
      (env.readFields fields).map fun _ => () := by
  induction fields with
  | nil => rfl
  | cons g fields ih =>
      by_cases hg : g = f
      · subst hg
        rw [readFields, readFields, List.lookup_cons_self, hunset]
        simp only [hread]
        rw [← ih]
        cases readFields ((g.variableName, s) :: env) fields <;> rfl
      · have hname : (g.variableName == f.variableName) = false :=
          beq_eq_false_iff_ne.mpr fun heq => hg (Field.variableName_injective heq)
        rw [readFields, readFields, List.lookup_cons, hname]
        dsimp only
        cases env.lookup g.variableName with
        | none => exact ih
        | some text =>
            dsimp only
            cases g.form.read text with
            | error e => rfl
            | ok v =>
                dsimp only
                revert ih
                cases readFields ((f.variableName, s) :: env) fields <;>
                  cases env.readFields fields <;> simp [Except.map]

/-- One more variable that can be read sets its field in the table of the environment and
nothing else; a variable that cannot be read is refused as before. -/
theorem table_cons_variable (hunset : env.lookup f.variableName = none)
    (hread : f.form.read s = .ok (some v)) :
    (∃ e, table ((f.variableName, s) :: env) = .error e ∧ env.table = .error e) ∨
    ∃ t t', table ((f.variableName, s) :: env) = .ok t' ∧ env.table = .ok t ∧
      t.get? f.name = none ∧ t'.get? f.name = some v ∧
      ∀ key, key ≠ f.name → t'.get? key = t.get? key := by
  have hsame := readFields_cons_variable hunset hread Field.all
  rw [← table, ← table] at hsame
  cases htable : env.table with
  | error e =>
      cases htable' : table ((f.variableName, s) :: env) with
      | error e' =>
          rw [htable, htable'] at hsame
          obtain rfl : e' = e := Except.error.inj hsame
          exact .inl ⟨e', rfl, rfl⟩
      | ok t' =>
          rw [htable, htable'] at hsame
          cases hsame
  | ok t =>
      cases htable' : table ((f.variableName, s) :: env) with
      | error e' =>
          rw [htable, htable'] at hsame
          cases hsame
      | ok t' =>
          refine .inr ⟨t, t', rfl, rfl, ?_, ?_, ?_⟩
          · rw [get?_table htable, setting?, Field.ofName?_name, Option.bind_some, reading?, hunset]
            rfl
          · rw [get?_table htable', setting?, Field.ofName?_name, Option.bind_some,
              reading?_cons_self hread]
          · intro key hkey
            rw [get?_table htable', get?_table htable, setting?, setting?]
            cases hname : Field.ofName? key with
            | none => rfl
            | some g =>
                have hg : g ≠ f := by
                  rintro rfl
                  exact hkey (Field.name_of_ofName? hname).symm
                exact reading?_cons_of_ne hg

end Environment

/-! ## Variables and documents -/

/-- A file that holds a document is read as the table of the document. -/
theorem explicitLayer_of_parse {w : World} {path : Pathname} {bytes : List UInt8}
    {source : List Char} {t : Table} (hread : w.read path = .ok bytes)
    (hdecode : Text.decodeUtf8 bytes = .ok source) (hparse : Toml.parse source = .ok t) :
    explicitLayer w (some path) = .ok t := by
  have hhas : w.has path = true := by
    unfold World.has
    unfold World.read at hread
    split
    next => rfl
    next e hstat =>
      rw [hstat] at hread
      cases hread
  rw [explicitLayer, if_pos hhas, readDocument, hread]
  dsimp only
  rw [hdecode]
  dsimp only
  rw [hparse]

/-- Once the documents are read, a run reads the environment and resolves all layers. -/
theorem load_of_documents {w : World} {file : Option Pathname} {project tool explicit : Table}
    (hproject : projectLayer w = .ok project) (htool : toolLayer w = .ok tool)
    (hexplicit : explicitLayer w file = .ok explicit) (env : Environment) (caller : Table) :
    load w env file caller = env.table.bind fun environment => resolve (Layers.merged
      { project, tool, explicit, environment, caller := callerLayer caller }) := by
  simp only [load, layers, hproject, htool, hexplicit, bind, Except.bind, pure, Except.pure]
  cases env.table <;> rfl

/-- A value in a variable sets the same as the value in the documents: two runs agree whose
documents differ in that field only, if the first has the variable and the highest document of
the second that sets the field sets it to the same value. -/
theorem load_of_variable {f : Field} {s : String} {v : Value} (hread : f.form.read s = .ok (some v))
    {env : Environment} (hunset : env.lookup f.variableName = none) {w w' : World}
    {file file' : Option Pathname} {project project' tool tool' explicit explicit' : Table}
    (hproject : projectLayer w = .ok project) (htool : toolLayer w = .ok tool)
    (hexplicit : explicitLayer w file = .ok explicit)
    (hproject' : projectLayer w' = .ok project') (htool' : toolLayer w' = .ok tool')
    (hexplicit' : explicitLayer w' file' = .ok explicit')
    (hother : ∀ key, key ≠ f.name → project'.get? key = project.get? key ∧
      tool'.get? key = tool.get? key ∧ explicit'.get? key = explicit.get? key)
    (hset : [explicit', tool', project'].findSome? (·.get? f.name) = some v) (caller : Table) :
    load w ((f.variableName, s) :: env) file caller = load w' env file' caller := by
  rw [load_of_documents hproject htool hexplicit, load_of_documents hproject' htool' hexplicit']
  rcases Environment.table_cons_variable hunset hread with
    ⟨e, htable, htable'⟩ | ⟨t, t', htable, htable', hnone, hsome, hrest⟩
  · rw [htable, htable']
    rfl
  · rw [htable, htable']
    refine resolve_congr fun key => ?_
    rw [Layers.get?_merged, Layers.get?_merged]
    simp only [Layers.setting?, Layers.ranked, List.findSome?_cons]
    by_cases hkey : key = f.name
    · subst hkey
      simp only [List.findSome?_cons] at hset
      rw [hsome, hnone, hset]
    · obtain ⟨hp, ht, he⟩ := hother key hkey
      rw [hrest key hkey, hp, ht, he]

/-! ## The round trip -/

/-- An item with any blanks around it. -/
def Padded (field item : String) : Prop :=
  ∃ before after : String, allBlank before.toList = true ∧ allBlank after.toList = true ∧
    field = before ++ item ++ after

/-- An item is padded with nothing. -/
theorem padded_self (item : String) : Padded item item :=
  ⟨"", "", rfl, rfl, by simp⟩

/-- Padded items spell the items. -/
theorem spells_of_padded {fields items : List String} (h : List.Forall₂ Padded fields items)
    (hitems : ∀ item ∈ items, IsItem item) : Spells fields items := by
  induction h with
  | nil => exact .nil
  | cons hpadded _ ih =>
      obtain ⟨before, after, hbefore, hafter, rfl⟩ := hpadded
      obtain ⟨hitem, hrest⟩ := List.forall_mem_cons.mp hitems
      exact .item hbefore hitem hafter (ih hrest)

/-- Items with blanks around them are read from their join, also if there are none. -/
theorem listItems_of_padded {fields items : List String} (h : List.Forall₂ Padded fields items)
    (hitems : ∀ item ∈ items, IsItem item) : listItems (",".intercalate fields) = items := by
  cases h with
  | nil => rfl
  | cons hpadded hrest =>
      exact listItems_eq_iff.mpr
        ⟨_, by simp, rfl, spells_of_padded (.cons hpadded hrest) hitems⟩

/-- How the variable of a field that holds a list is read, and what it stands for. -/
structure RoundTrips (f : Field) : Prop where
  /-- Every text is read, and what is read are items. -/
  reads : ∀ s, ∃ items, f.form.read s = .ok (some (.texts items)) ∧ ∀ item ∈ items, IsItem item
  /-- Items are read from exactly those texts that spell them between commas. -/
  spelled : ∀ s items, f.form.read s = .ok (some (.texts items)) ↔
    ∃ fields, fields ≠ [] ∧ s = ",".intercalate fields ∧ Spells fields items
  /-- Items that are joined with any blanks around the commas are read back in order. -/
  rejoined : ∀ fields items, List.Forall₂ Padded fields items → (∀ item ∈ items, IsItem item) →
    f.form.read (",".intercalate fields) = .ok (some (.texts items))
  /-- Items that are joined by commas alone are read back in order. -/
  joined : ∀ items, (∀ item ∈ items, IsItem item) →
    f.form.read (",".intercalate items) = .ok (some (.texts items))
  /-- The same items can be written in a document, which sets the field to them and nothing
  else. -/
  written : ∀ items, (∀ item ∈ items, IsItem item) → ∀ (w : World) (path : Pathname) bytes,
    w.read path = .ok bytes →
    Text.decodeUtf8 bytes = .ok (Toml.listDocument f.name items) →
    explicitLayer w (some path) = .ok [(f.name, .texts items)]
  /-- The variable sets the same as documents in which the highest one that sets the field sets
  it to these items. -/
  same : ∀ s items, f.form.read s = .ok (some (.texts items)) →
    ∀ (env : Environment) (w w' : World) (file file' : Option Pathname)
      (project project' tool tool' explicit explicit' caller : Table),
      env.lookup f.variableName = none →
      projectLayer w = .ok project → toolLayer w = .ok tool → explicitLayer w file = .ok explicit →
      projectLayer w' = .ok project' → toolLayer w' = .ok tool' →
      explicitLayer w' file' = .ok explicit' →
      (∀ key, key ≠ f.name → project'.get? key = project.get? key ∧
        tool'.get? key = tool.get? key ∧ explicit'.get? key = explicit.get? key) →
      [explicit', tool', project'].findSome? (·.get? f.name) = some (.texts items) →
      load w ((f.variableName, s) :: env) file caller = load w' env file' caller

/-- A list of texts determines its items. -/
theorem texts_injective {items items' : List String} (h : Value.texts items = Value.texts items') :
    items = items' := by
  have hmap : items.map Value.text = items'.map Value.text := Value.list.inj h
  exact List.map_injective_iff.mpr (fun _ _ => Value.text.inj) hmap

/-- The variables of lists are read as normal items, which are read back however they are
joined, and set the same as the items in a document. -/
theorem list_variables_round_trip (f : Field) (hlist : f.isList = true) : RoundTrips f := by
  have hform (s : String) : f.form.read s = .ok (some (.texts (listItems s))) := by
    cases f with
    | patterns => rfl
    | excludePatterns => rfl
    | _ => cases hlist
  have hread (s : String) (items : List String) :
      f.form.read s = .ok (some (.texts items)) ↔ listItems s = items := by
    rw [hform]
    constructor
    · intro h
      exact texts_injective (Option.some.inj (Except.ok.inj h))
    · rintro rfl
      rfl
  have hkey : Toml.IsBareKey f.name := by
    cases f <;> decide
  constructor
  · intro s
    obtain ⟨fields, -, -, hspells⟩ := listItems_eq_iff.mp (Eq.refl (listItems s))
    exact ⟨listItems s, hform s, hspells.isItem⟩
  · intro s items
    rw [hread, listItems_eq_iff]
  · intro fields items hpadded hitems
    rw [hread, listItems_of_padded hpadded hitems]
  · intro items hitems
    rw [hread, listItems_of_padded (List.forall₂_same.mpr fun item _ => padded_self item) hitems]
  · intro items hitems w path bytes hbytes hdecode
    exact explicitLayer_of_parse hbytes hdecode
      (Toml.parse_listDocument hkey fun item hitem => (hitems item hitem).ne_empty)
  · intro s items hitems env w w' file file' project project' tool tool' explicit explicit' caller
      hunset hproject htool hexplicit hproject' htool' hexplicit' hother hset
    exact load_of_variable hitems hunset hproject htool hexplicit hproject' htool' hexplicit' hother
      hset caller

/-- Blanks, a doubled comma and one at the end do not matter, and a run with the variable loads
what a run with the document loads. -/
theorem list_variables_round_trip_untidy :
    let text := " src/*.js ,, lib\t,"
    let items := ["src/*.js", "lib"]
    let bytes := (Toml.listDocument "patterns" items).map Char.toUInt8
    let w : World := { cwd := [], entries := [(["audit.toml"], .file bytes)] }
    Field.patterns.form.read text = .ok (some (.texts items)) ∧
      load w [("CONTRACT_COVERAGE_PATTERNS", text)] none [] =
        load w [] (some ⟨.relative, ["audit.toml"]⟩) [] := by
  intro text items bytes
  have hread : Field.patterns.form.read text = .ok (some (.texts items)) := by
    have hitems : listItems text = items := by decide +kernel
    rw [← hitems]
    rfl
  have hdecode : Text.decodeUtf8 bytes = .ok (Toml.listDocument "patterns" items) := by
    have hsome : (Text.decodeUtf8 bytes).toOption = some (Toml.listDocument "patterns" items) := by
      decide +kernel
    cases hbytes : Text.decodeUtf8 bytes with
    | error e => rw [hbytes] at hsome; cases hsome
    | ok source => rw [hbytes] at hsome; rw [Option.some.inj hsome]
  clear_value bytes
  intro w
  have hplain : w.Plain := ⟨by simp [w], by simp [w]; decide⟩
  have hproject : projectLayer w = .ok [] := by
    rw [projectLayer, World.has_eq_false_of_entryAt hplain rfl]
    rfl
  have htool : toolLayer w = .ok [] := by
    rw [toolLayer, World.has_eq_false_of_entryAt hplain rfl]
    rfl
  have hbytes : w.read ⟨.relative, ["audit.toml"]⟩ = .ok bytes := by
    have hstat : w.stat ⟨.relative, ["audit.toml"]⟩ = .ok (.file bytes) :=
      (World.stat_eq_ok_iff hplain).2 ⟨⟨rfl, trivial⟩, rfl⟩
    rw [World.read, hstat]
  have h := list_variables_round_trip .patterns rfl
  have hexplicit := h.written items (by decide +kernel) w _ bytes hbytes hdecode
  refine ⟨hread, h.same text items hread [] w w none _ [] [] [] [] [] _ [] rfl hproject htool rfl
    hproject htool hexplicit ?_ rfl⟩
  intro key hkey
  refine ⟨rfl, rfl, ?_⟩
  rw [Table.get?_singleton, if_neg hkey]
  rfl

end Config
end ContractAudit
