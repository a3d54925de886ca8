import Mathlib.Data.List.Sort
import Mathlib.Data.String.Basic
import ContractAudit.Config.Load

/-!
# What the layers set

A merged table is looked up like the layers one after the other, from the
highest to the lowest.  This module says what each layer sets, key by key, and
what settings come out of all of them.

Main results:

- Theorem {lit}`get?_callerLayer`: what the caller sets.
- Theorem {lit}`Environment.get?_table`: what the environment sets.
- Theorem {lit}`Layers.get?_merged`: the highest layer that sets a key wins.
- Theorem {lit}`Layers.resolve_of_known`: the settings of layers that set fields
  only.
- Theorem {lit}`Layers.resolve_of_unknown`: the fault of other layers.
-/

namespace ContractAudit
namespace Config

/-! ## Looking up keys -/

namespace Table

/-- What both tables set is set by the second. -/
theorem get?_override (base upper : Table) (key : String) :
    (override base upper).get? key = (upper.get? key).or (base.get? key) :=
  List.lookup_append

/-- Of tables that override each other the last that sets a key wins. -/
theorem get?_foldl_override (tables : List Table) (base : Table) (key : String) :
    (tables.foldl override base).get? key =
      (tables.reverse ++ [base]).findSome? (·.get? key) := by
  induction tables generalizing base with
  | nil => simp
  | cons upper tables ih =>
      rw [List.foldl_cons, ih, List.reverse_cons, List.append_assoc, List.findSome?_append,
        List.findSome?_append, List.findSome?_singleton, get?_override, List.singleton_append,
        List.findSome?_cons, List.findSome?_singleton]
      cases upper.get? key <;> rfl

/-- A table of one entry sets its key only. -/
theorem get?_singleton (k : String) (v : Value) (key : String) :
    get? [(k, v)] key = if key = k then some v else none := by
  by_cases h : key = k
  · simp [get?, h]
  · have hbeq : (key == k) = false := beq_eq_false_iff_ne.mpr h
    simp [get?, List.lookup_cons, hbeq, h]

/-- A key is among the keys of a table exactly if the table sets it. -/
theorem isSome_get?_iff (t : Table) (key : String) : (t.get? key).isSome ↔ key ∈ t.keys := by
  rw [get?, List.lookup_isSome_iff, keys, List.mem_map]
  refine exists_congr fun e => and_congr_right fun _ => ?_
  rw [beq_iff_eq, eq_comm]

/-- A table that is cut down to some of its keys sets these as before. -/
theorem get?_filter (t : Table) (keep : String → Bool) (key : String) :
    get? (t.filter fun e => keep e.1) key = if keep key then t.get? key else none := by
  induction t with
  | nil => simp [get?]
  | cons e t ih =>
      obtain ⟨k, v⟩ := e
      unfold get? at ih ⊢
      by_cases hkey : key = k
      · subst hkey
        cases hkeep : keep key with
        | true => simp [hkeep]
        | false => simpa [hkeep] using ih
      · have hbeq : (key == k) = false := beq_eq_false_iff_ne.mpr hkey
        cases hkeep : keep k with
        | true => simpa [List.filter_cons, hkeep, List.lookup_cons, hbeq] using ih
        | false => simpa [List.filter_cons, hkeep, List.lookup_cons, hbeq] using ih

/-- A change of entries that keeps their keys changes what is found. -/
theorem get?_map {change : String × Value → String × Value} (hkey : ∀ e, (change e).1 = e.1)
    (t : Table) (key : String) :
    get? (t.map change) key = (t.get? key).map fun v => (change (key, v)).2 := by
  induction t with
  | nil => rfl
  | cons e t ih =>
      obtain ⟨k, v⟩ := e
      have hchange : change (k, v) = (k, (change (k, v)).2) := Prod.ext (hkey (k, v)) rfl
      unfold get? at ih ⊢
      rw [List.map_cons, hchange, List.lookup_cons, List.lookup_cons, ih]
      by_cases h : key = k
      · subst h
        simp
      · have hbeq : (key == k) = false := beq_eq_false_iff_ne.mpr h
        simp [hbeq]

end Table

/-! ## Fields by their names -/

namespace Field

/-- A field that a name leads to has the name. -/
theorem name_of_ofName? {key : String} {f : Field} (h : ofName? key = some f) : f.name = key := by
  simpa using List.find?_some h

/-- Different fields have different names. -/
theorem name_injective {f g : Field} (h : f.name = g.name) : f = g := by
  have hsome : some f = some g := by rw [← ofName?_name f, ← ofName?_name g, h]
  exact Option.some.inj hsome

/-- Only what is no name of a field leads to none. -/
theorem ofName?_eq_none_iff {key : String} : ofName? key = none ↔ key ∉ names := by
  rw [ofName?, List.find?_eq_none, names, List.mem_map, not_exists]
  refine forall_congr' fun f => ?_
  rw [not_and, beq_iff_eq]

/-- A value as a field takes it: where a list is meant, a bare text stands for the
list of one. -/
def adopt (f : Field) : Value → Value
  | .text s => if f.isList then .texts [s] else .text s
  | v => v

end Field

/-! ## The caller -/

/-- What a caller gives for a key; a null is nothing. -/
def given? (t : Table) (key : String) : Option Value :=
  (t.get? key).filter fun v => !isNull v

/-- What a caller sets a key to.  The switches are no settings of their own: the one
for quiet runs, or else the one for verbose runs, stands for a verbosity and hides
one that is given beside it. -/
def callerSetting? (t : Table) (key : String) : Option Value :=
  if isSwitch key then none
  else if key = Field.verbosity.name then
    if isSwitchedOn t quietSwitch then some (.text "quiet")
    else if isSwitchedOn t verboseSwitch then some (.text "verbose")
    else given? t key
  else given? t key

/-- A table without its nulls sets what it gives. -/
theorem get?_filter_isNull (t : Table) (key : String) :
    Table.get? (t.filter fun e => !isNull ((t.get? e.1).getD .null)) key = given? t key := by
  rw [Table.get?_filter t (fun k => !isNull ((t.get? k).getD .null)), given?]
  cases t.get? key with
  | none => simp
  | some v => simp [Option.filter_some]

/-- The verbosity of the switches comes before one that is given. -/
theorem callerSetting?_eq (t : Table) (key : String) :
    callerSetting? t key =
      if isSwitch key then none
      else if key = Field.verbosity.name then
        ((switchedVerbosity? t).map fun v => .text v.name).or (given? t key)
      else given? t key := by
  unfold callerSetting? switchedVerbosity?
  cases isSwitchedOn t quietSwitch <;> cases isSwitchedOn t verboseSwitch <;> rfl

/-- The layer of the caller sets what the caller sets. -/
theorem get?_callerLayer (t : Table) (key : String) :
    (callerLayer t).get? key = callerSetting? t key := by
  let plain : Table := t.filter fun e => !isSwitch e.1
  have hplain : given? plain key = if isSwitch key then none else given? t key := by
    rw [given?, Table.get?_filter t fun k => !isSwitch k, given?]
    cases isSwitch key <;> rfl
  rw [callerSetting?_eq, callerLayer]
  cases switchedVerbosity? t with
  | none =>
      dsimp only
      rw [get?_filter_isNull, hplain]
      simp
  | some v =>
      dsimp only
      rw [get?_filter_isNull, given?, Table.get?_override, Table.get?_singleton]
      -- the switched verbosity is a text, so it outlives the nulls
      by_cases hkey : key = Field.verbosity.name
      · subst hkey
        have hswitch : isSwitch Field.verbosity.name = false := by decide
        rw [if_pos rfl, hswitch, if_pos rfl]
        rfl
      · rw [if_neg hkey, if_neg hkey, Option.none_or, ← hplain, given?]

/-! ## The environment -/

/-- What the environment sets a field to: the reading of its variable. -/
def Environment.reading? (env : Environment) (f : Field) : Option Value :=
  (env.lookup f.variableName).bind fun s => (f.form.read s).toOption.join

/-- What the environment sets a key to: it sets fields only. -/
def Environment.setting? (env : Environment) (key : String) : Option Value :=
  (Field.ofName? key).bind env.reading?

namespace Environment

variable {env : Environment}

/-- The variable of one more field adds its reading. -/
theorem readFields_cons {f : Field} {fields : List Field} {t : Table}
    (h : env.readFields (f :: fields) = .ok t) :
    ∃ rest, env.readFields fields = .ok rest ∧
      t = ((env.reading? f).map fun v => (f.name, v)).toList ++ rest := by
  rw [readFields] at h
  rw [reading?]
  split at h
  next hunset => exact ⟨t, h, by simp [hunset]⟩
  next s hset =>
    split at h
    next => cases h
    next v hread =>
      rw [hset, Option.bind_some, hread]
      cases hrest : env.readFields fields with
      | error e => simp [hrest, Except.map] at h
      | ok rest =>
          simp only [hrest, Except.map, Except.ok.injEq] at h
          exact ⟨rest, rfl, h.symm⟩

/-- The variables of some fields set these fields only, each to its reading. -/
theorem get?_readFields {fields : List Field} {t : Table} (h : env.readFields fields = .ok t)
    (key : String) :
    t.get? key = ((Field.ofName? key).filter (fields.contains ·)).bind env.reading? := by
  -- the fields that are still to be read vary, so the key is tested against them
  induction fields generalizing t with
  | nil =>
      obtain rfl : [] = t := Except.ok.inj h
      simp [Table.get?]
  | cons f fields ih =>
      obtain ⟨rest, hrest, rfl⟩ := readFields_cons h
      have hhead : Table.get? ((env.reading? f).map fun v => (f.name, v)).toList key =
          if key = f.name then env.reading? f else none := by
        cases env.reading? f with
        | none => simp [Table.get?]
        | some v => exact Table.get?_singleton f.name v key
      rw [Table.get?, List.lookup_append, ← Table.get?, ← Table.get?, hhead, ih hrest]
      cases hname : Field.ofName? key with
      | none =>
          have hne : key ≠ f.name := by
            rintro rfl
            rw [Field.ofName?_name] at hname
            cases hname
          simp [hne]
      | some g =>
          obtain rfl := Field.name_of_ofName? hname
          by_cases hfield : g = f
          · subst hfield
            by_cases hmem : g ∈ fields <;> simp [Option.filter_some, hmem]
          · have hne : g.name ≠ f.name := fun heq => hfield (Field.name_injective heq)
            simp [Option.filter_some, hfield, hne]

/-- The table of the environment sets what the environment sets. -/
theorem get?_table {t : Table} (h : env.table = .ok t) (key : String) :
    t.get? key = env.setting? key := by
  rw [get?_readFields h, setting?]
  cases Field.ofName? key with
  | none => rfl
  | some f => simp [Option.filter_some, Field.mem_all]

end Environment

/-! ## All layers -/

/-- Wrapping keeps the key of an entry. -/
theorem wrapSingle_fst (e : String × Value) : (wrapSingle e).1 = e.1 := by
  unfold wrapSingle
  split
  next => split <;> rfl
  next => rfl

/-- Wrapping takes the value of an entry as its field takes it. -/
theorem wrapSingle_snd (f : Field) (v : Value) : (wrapSingle (f.name, v)).2 = f.adopt v := by
  unfold wrapSingle
  rw [Field.ofName?_name]
  cases v <;> simp only [Field.adopt]
  split <;> rfl

/-- A wrapped table sets each field to what the field takes of the table. -/
theorem get?_map_wrapSingle (t : Table) (f : Field) :
    Table.get? (t.map wrapSingle) f.name = (t.get? f.name).map f.adopt := by
  rw [Table.get?_map wrapSingle_fst]
  simp only [wrapSingle_snd]

namespace Layers

/-- The layers from the highest to the lowest. -/
def ranked (l : Layers) : List Table :=
  [l.caller, l.environment, l.explicit, l.tool, l.project]

/-- What the highest layer that sets a key sets it to. -/
def setting? (l : Layers) (key : String) : Option Value :=
  l.ranked.findSome? (·.get? key)

/-- The value of a field: what the highest layer sets, or else the default. -/
def value (l : Layers) (f : Field) : Value :=
  ((l.setting? f.name).map f.adopt).getD f.default

/-- Whether some layer sets a key. -/
def Sets (l : Layers) (key : String) : Prop :=
  ∃ layer ∈ l.ranked, (layer.get? key).isSome = true

/-- Whether the layers set fields only. -/
def Known (l : Layers) : Prop :=
  ∀ key, l.Sets key → key ∈ Field.names

/-- The settings of all layers, before any check. -/
def settings (l : Layers) : Settings :=
  .ofFunction l.value

/-- A key has a setting exactly if some layer sets it. -/
theorem isSome_setting?_iff (l : Layers) (key : String) : (l.setting? key).isSome ↔ l.Sets key :=
  List.findSome?_isSome_iff

/-- The layers set fields only exactly if all their keys are names of fields. -/
theorem known_iff (l : Layers) :
    l.Known ↔ ∀ layer ∈ l.ranked, ∀ key ∈ layer.keys, key ∈ Field.names := by
  constructor
  · intro hknown layer hlayer key hkey
    exact hknown key ⟨layer, hlayer, (layer.isSome_get?_iff key).mpr hkey⟩
  · rintro hkeys key ⟨layer, hlayer, hset⟩
    exact hkeys layer hlayer key ((layer.isSome_get?_iff key).mp hset)

instance (l : Layers) : Decidable l.Known :=
  decidable_of_iff _ l.known_iff.symm

/-- The highest layer that sets a key wins. -/
theorem get?_merged (l : Layers) (key : String) : l.merged.get? key = l.setting? key :=
  Table.get?_foldl_override [l.tool, l.explicit, l.environment, l.caller] l.project key

/-- The merged table sets each field to what the field takes of the highest layer. -/
theorem get?_wrapped (l : Layers) (f : Field) :
    Table.get? (l.merged.map wrapSingle) f.name = (l.setting? f.name).map f.adopt := by
  rw [get?_map_wrapSingle, get?_merged]

/-- The merged table gives each field its value. -/
theorem ofTable_merged (l : Layers) :
    Settings.ofTable (l.merged.map wrapSingle) = l.settings := by
  have hvalue (f : Field) :
      (Table.get? (l.merged.map wrapSingle) f.name).getD f.default = l.value f := by
    rw [get?_wrapped, value]
  rw [Settings.ofTable, funext hvalue, settings]

end Layers

/-! ## Keys that are no fields -/

/-- No key is there twice after duplicates are dropped. -/
theorem nodup_eraseDups (keys : List String) : keys.eraseDups.Nodup := by
  induction hlength : keys.length using Nat.strong_induction_on generalizing keys with
  | _ n ih =>
      cases keys with
      | nil => simp
      | cons key keys =>
          subst hlength
          rw [List.eraseDups_cons, List.nodup_cons]
          have hshorter := List.length_filter_le (fun other => !other == key) keys
          refine ⟨?_, ih _ (Nat.lt_succ_of_le hshorter) _ rfl⟩
          simp [List.mem_eraseDups]

/-- The keys that are no fields are found in strict order. -/
theorem pairwise_unknownKeys (t : Table) : (unknownKeys t).Pairwise (· < ·) := by
  let found := (t.keys.filter fun k => (Field.ofName? k).isNone).eraseDups
  have hsorted : (found.mergeSort fun a b => a ≤ b).Pairwise (· ≤ ·) :=
    List.pairwise_mergeSort' (· ≤ ·) found
  have hnodup : (found.mergeSort fun a b => a ≤ b).Nodup :=
    (List.mergeSort_perm found _).nodup_iff.mpr (nodup_eraseDups _)
  exact hsorted.imp₂ (fun _ _ => lt_of_le_of_ne) hnodup

/-- The keys that are no fields are found all. -/
theorem mem_unknownKeys_iff (t : Table) (key : String) :
    key ∈ unknownKeys t ↔ (t.get? key).isSome ∧ key ∉ Field.names := by
  rw [unknownKeys, (List.mergeSort_perm _ _).mem_iff, List.mem_eraseDups, List.mem_filter,
    Table.isSome_get?_iff, Option.isNone_iff_eq_none, Field.ofName?_eq_none_iff]

namespace Layers

variable {l : Layers}

/-- The keys of a message about layers: those that are set and are no fields. -/
theorem mem_unknownKeys_merged_iff (key : String) :
    key ∈ unknownKeys (l.merged.map wrapSingle) ↔ l.Sets key ∧ key ∉ Field.names := by
  rw [mem_unknownKeys_iff, Table.get?_map wrapSingle_fst, Option.isSome_map, get?_merged,
    isSome_setting?_iff]

/-- No key is reported exactly if the layers set fields only. -/
theorem unknownKeys_merged_eq_nil_iff : unknownKeys (l.merged.map wrapSingle) = [] ↔ l.Known := by
  rw [List.eq_nil_iff_forall_not_mem]
  refine forall_congr' fun key => ?_
  rw [mem_unknownKeys_merged_iff, not_and, not_not]

/-- Layers that set fields only give checked settings. -/
theorem resolve_of_known (h : l.Known) :
    resolve l.merged =
      match l.settings.defect? with
      | none => .ok l.settings
      | some (.refused why) => .error (refusalFault (l.merged.map wrapSingle) why)
      | some (.unusable failure) => .error failure := by
  rw [resolve, unknownKeys_merged_eq_nil_iff.mpr h, ofTable_merged, Settings.checked]
  cases l.settings.defect? with
  | none => rfl
  | some d => cases d <;> rfl

/-- Layers that set something else give the fault that lists it. -/
theorem resolve_of_unknown (h : ¬ l.Known) :
    resolve l.merged = .error (unknownKeysFault (unknownKeys (l.merged.map wrapSingle))) := by
  rw [resolve]
  split
  next hnone => exact absurd (unknownKeys_merged_eq_nil_iff.mp hnone) h
  next => rfl

end Layers

end Config
end ContractAudit
