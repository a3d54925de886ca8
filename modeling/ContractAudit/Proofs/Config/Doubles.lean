import ContractAudit.Proofs.Config.Layers
import ContractAudit.Proofs.Number.Scaling

/-!
# Doubles of settings exist

Settings that are loaded hold doubles only that exist: every reader of numbers
rounds to a double, and neither the tables of a document nor the layers change a
number.  One step of reading a document keeps this of the tables read so far, so
a whole document has it.

Main results:

- Theorem {lit}`Toml.genuine_modifyAt`: a change below a key keeps a table genuine.
- Theorem {lit}`Toml.genuine_parse`: the doubles of a document exist.
- Theorem {lit}`genuine_load`: the doubles of loaded settings exist.
-/

namespace ContractAudit

/-- What an answer gives, if it gives something, has a property. -/
def Ensures {ε α : Type} (answer : Except ε α) (property : α → Prop) : Prop :=
  ∀ a, answer = .ok a → property a

namespace Ensures

variable {ε α β : Type} {property : α → Prop} {later : β → Prop} {x : Except ε α}

theorem of_ok {a : α} (h : property a) : Ensures (.ok a : Except ε α) property := by
  intro b hb
  obtain rfl := Except.ok.inj hb
  exact h

theorem of_error (e : ε) : Ensures (.error e) property := by
  intro a ha
  cases ha

/-- Two steps give what the second gives after the first. -/
theorem bind {f : α → Except ε β} (hx : Ensures x property)
    (hf : ∀ a, property a → Ensures (f a) later) : Ensures (x >>= f) later := by
  cases x with
  | error e => exact of_error e
  | ok a => exact hf a (hx a rfl)

/-- Two steps give what the second gives, whatever the first does. -/
theorem bind_any {f : α → Except ε β} (hf : ∀ a, Ensures (f a) later) :
    Ensures (x >>= f) later := by
  cases x with
  | error e => exact of_error e
  | ok a => exact hf a

theorem map {g : α → β} (hx : Ensures x property) (hg : ∀ a, property a → later (g a)) :
    Ensures (x.map g) later := by
  cases x with
  | error e => exact of_error e
  | ok a => exact of_ok (hg a (hx a rfl))

end Ensures

namespace Config

/-- A value whose doubles all exist. -/
inductive Value.Genuine : Value → Prop where
  | null : Genuine .null
  | bool (b : Bool) : Genuine (.bool b)
  | int (i : Int) : Genuine (.int i)
  | float {x : Number.Double} (h : x.WellFormed) : Genuine (.float x)
  | text (s : String) : Genuine (.text s)
  | list {items : List Value} (h : ∀ v ∈ items, Genuine v) : Genuine (.list items)
  | table {entries : List (String × Value)} (h : ∀ e ∈ entries, Genuine e.2) :
      Genuine (.table entries)
  | moment (m : Moment) : Genuine (.moment m)

/-- A table whose values are all genuine. -/
def Table.Genuine (t : Table) : Prop :=
  ∀ e ∈ t, e.2.Genuine

namespace Table

variable {t : Table}

/-- What a genuine table holds for a key is genuine. -/
theorem Genuine.lookup (ht : t.Genuine) {key : String} {v : Value} (h : t.lookup key = some v) :
    v.Genuine := by
  obtain ⟨before, after, rfl, -⟩ := List.lookup_eq_some_iff.mp h
  exact ht (key, v) (by simp)

/-- Two genuine tables in one are genuine. -/
theorem Genuine.append {t' : Table} (ht : t.Genuine) (ht' : t'.Genuine) :
    Table.Genuine (t ++ t') := by
  intro e he
  rcases List.mem_append.mp he with hmem | hmem
  · exact ht e hmem
  · exact ht' e hmem

/-- A table of one genuine value is genuine. -/
theorem genuine_singleton (key : String) {v : Value} (hv : v.Genuine) :
    Table.Genuine [(key, v)] := by
  intro e he
  obtain rfl := List.mem_singleton.mp he
  exact hv

/-- The empty table is genuine. -/
theorem genuine_nil : Table.Genuine [] := by
  intro e he
  cases he

end Table

end Config

namespace Toml

open Config (Value Table)

/-! ## Tables -/

/-- A table with a genuine value in the place of another is genuine. -/
theorem genuine_replaceEntry {t : Table} (ht : t.Genuine) (key : String) {v : Value}
    (hv : v.Genuine) : Table.Genuine (replaceEntry key v t) := by
  intro e he
  obtain ⟨old, hold, rfl⟩ := List.mem_map.mp he
  split
  · exact hv
  · exact ht old hold

/-- A change of tables that keeps them genuine. -/
def Keeps (change : Table → Option Table) : Prop :=
  ∀ t t', change t = some t' → t.Genuine → t'.Genuine

/-- No change keeps tables genuine. -/
theorem keeps_some : Keeps some := by
  intro t t' h ht
  obtain rfl := Option.some.inj h
  exact ht

/-- Adding a genuine entry keeps tables genuine. -/
theorem keeps_addEntry (key : String) {v : Value} (hv : v.Genuine) : Keeps (addEntry key v) := by
  intro t t' h ht
  unfold addEntry at h
  split_ifs at h
  obtain rfl := Option.some.inj h
  exact ht.append (Table.genuine_singleton key hv)

/-- Adding an empty table to a list keeps tables genuine. -/
theorem keeps_addListTable (key : String) : Keeps (addListTable key) := by
  have hempty : (Value.table []).Genuine := .table (by simp)
  intro t t' h ht
  unfold addListTable at h
  split at h
  next =>
    obtain rfl := Option.some.inj h
    exact ht.append (Table.genuine_singleton key (.list (by simpa using hempty)))
  next items hlookup =>
    obtain rfl := Option.some.inj h
    cases ht.lookup hlookup with
    | list hitems =>
        refine genuine_replaceEntry ht key (.list fun v hv => ?_)
        rcases List.mem_append.mp hv with hmem | hmem
        · exact hitems v hmem
        · obtain rfl := List.mem_singleton.mp hmem
          exact hempty
  next => cases h

/-- A change below a key keeps a table genuine, if the change itself does. -/
theorem genuine_modifyAt {lists : Bool} {change : Table → Option Table} (hchange : Keeps change)
    (key : Key) : Keeps (modifyAt lists key change) := by
  induction key with
  | nil => exact hchange
  | cons k rest ih =>
      intro t t' h ht
      unfold modifyAt at h
      split at h
      next =>
        obtain ⟨inner, hinner, rfl⟩ := Option.map_eq_some_iff.mp h
        exact ht.append (Table.genuine_singleton k (.table (ih _ _ hinner Table.genuine_nil)))
      next inner hlookup =>
        obtain ⟨changed, hchanged, rfl⟩ := Option.map_eq_some_iff.mp h
        cases ht.lookup hlookup with
        | table hinner => exact genuine_replaceEntry ht k (.table (ih _ _ hchanged hinner))
      next items hlookup =>
        split at h
        next inner hlast =>
          obtain ⟨changed, hchanged, rfl⟩ := Option.map_eq_some_iff.mp h
          cases ht.lookup hlookup with
          | list hitems =>
              -- only the last table of the list is changed
              refine genuine_replaceEntry ht k (.list fun v hv => ?_)
              rcases List.mem_append.mp hv with hmem | hmem
              · exact hitems v (List.dropLast_subset _ hmem)
              · obtain rfl := List.mem_singleton.mp hmem
                cases hitems _ (List.mem_of_getLast? hlast) with
                | table hinner => exact .table (ih _ _ hchanged hinner)
        next => cases h
      next => cases h

/-! ## Values -/

/-- The value of a decimal number is genuine. -/
theorem genuine_decimalNumber? {cs : List Char} {r : Reading Value}
    (h : decimalNumber? cs = some r) : Ensures r fun p => p.1.Genuine := by
  unfold decimalNumber? at h
  dsimp only at h
  split at h
  next => cases h
  next =>
    split_ifs at h
    · obtain rfl := Option.some.inj h
      exact .of_error _
    · obtain rfl := Option.some.inj h
      exact .of_ok (.int _)
    · obtain rfl := Option.some.inj h
      exact .of_ok (.int _)
    · obtain rfl := Option.some.inj h
      refine .of_ok (.float ?_)
      cases hdecimal : Number.decimal? _ _ with
      | none => exact .nan
      | some x => exact Number.wellFormed_decimal? hdecimal

/-- The value of a number in any form is genuine. -/
theorem genuine_number? {cs : List Char} {r : Reading Value} (h : number? cs = some r) :
    Ensures r fun p => p.1.Genuine := by
  unfold number? at h
  split at h
  next =>
    obtain rfl := Option.some.inj h
    exact .of_ok (.int _)
  next => exact genuine_decimalNumber? h

/-- An infinity and the not-a-number are genuine. -/
theorem genuine_specialNumber? {cs : List Char} {v : Value} {rest : List Char}
    (h : specialNumber? cs = some (v, rest)) : v.Genuine := by
  unfold specialNumber? at h
  dsimp only at h
  split at h
  · cases h
    exact .float (.infinite _)
  · cases h
    exact .float .nan
  · cases h

/-- A truth value is genuine. -/
theorem genuine_truth? {cs : List Char} {v : Value} {rest : List Char}
    (h : truth? cs = some (v, rest)) : v.Genuine := by
  unfold truth? at h
  split at h
  · cases h
    exact .bool _
  · cases h
    exact .bool _
  · cases h

/-- A scalar is genuine. -/
theorem genuine_scalar (cs : List Char) : Ensures (scalar cs) fun p => p.1.Genuine := by
  unfold scalar
  split
  next htruth => exact .of_ok (genuine_truth? htruth)
  next =>
    split
    next =>
      split_ifs
      · exact .of_ok (.moment _)
      · exact .of_error _
    next =>
      split
      next hnumber => exact genuine_number? hnumber
      next =>
        split
        next hspecial => exact .of_ok (genuine_specialNumber? hspecial)
        next => exact .of_error _

/-- What is read as a value, as items of a list or as entries of a table is genuine. -/
theorem genuine_of_fuel (fuel : Nat) :
    (∀ cs, Ensures (value fuel cs) fun p => p.1.Genuine) ∧
    (∀ cs, Ensures (listItems fuel cs) fun p => ∀ v ∈ p.1, v.Genuine) ∧
    ∀ closed t cs, t.Genuine → Ensures (tableEntries fuel closed t cs) fun p => p.1.Genuine := by
  induction fuel with
  | zero =>
      refine ⟨fun cs => ?_, fun cs => ?_, fun closed t cs _ => ?_⟩
      · rw [value]
        exact .of_error _
      · rw [listItems]
        exact .of_error _
      · rw [tableEntries]
        exact .of_error _
  | succ fuel ih =>
      obtain ⟨hvalue, hitems, hentries⟩ := ih
      refine ⟨fun cs => ?_, fun cs => ?_, fun closed t cs ht => ?_⟩
      · unfold value
        split
        next r _ => exact .map (fun _ _ => trivial) fun p _ => .text _
        next =>
          split
          next rest _ =>
            refine .bind_any fun rest => ?_
            split
            · exact .of_ok (.list (by simp))
            · exact .bind (hitems _) fun p hp => .of_ok (.list hp)
          next rest _ =>
            split
            · exact .of_ok (.table (by simp))
            · exact .bind (hentries [] [] _ Table.genuine_nil) fun p hp => .of_ok (.table hp)
          next => exact genuine_scalar cs
      · unfold listItems
        refine .bind (hvalue cs) fun p hp => .bind_any fun rest => ?_
        split
        · exact .of_ok (by simpa using hp)
        · refine .bind_any fun rest => ?_
          split
          · exact .of_ok (by simpa using hp)
          · exact .bind (hitems _) fun q hq => .of_ok (List.forall_mem_cons.mpr ⟨hp, hq⟩)
        · exact .of_error _
      · unfold tableEntries
        refine .bind_any fun p => ?_
        obtain ⟨k, rest⟩ := p
        dsimp only
        split
        · refine .bind (hvalue _) fun p hp => ?_
          obtain ⟨v, rest⟩ := p
          dsimp only
          split
          · exact .of_error _
          · split
            next => exact .of_error _
            next made hmade =>
              have hgenuine := genuine_modifyAt keeps_some _ _ _ hmade ht
              split
              next => exact .of_error _
              next t' hadded =>
                have hgenuine' := genuine_modifyAt (keeps_addEntry _ hp) _ _ _ hadded hgenuine
                split
                · exact .of_ok hgenuine'
                · exact hentries _ _ _ hgenuine'
                · exact .of_error _
        · exact .of_error _

/-! ## Documents -/

/-- The value of an entry is genuine. -/
theorem genuine_entry (cs : List Char) : Ensures (entry cs) fun p => p.1.2.Genuine := by
  unfold entry
  refine .bind_any fun p => ?_
  obtain ⟨k, rest⟩ := p
  dsimp only
  split
  · exact .bind ((genuine_of_fuel _).1 _) fun p hp => .of_ok hp
  · exact .of_error _

namespace Draft

variable {d : Draft}

/-- An entry below the open table keeps what has been read genuine. -/
theorem genuine_put (hd : d.data.Genuine) (k : Key) {v : Value} (hv : v.Genuine)
    (rest : List Char) : Ensures (d.put k v rest) fun d => d.data.Genuine := by
  unfold put
  dsimp only
  split
  next => exact .of_error _
  next =>
    split
    · exact .of_error _
    · split
      next => exact .of_error _
      next data hdata => exact .of_ok (genuine_modifyAt (keeps_addEntry _ hv) _ _ _ hdata hd)

/-- The head of a table keeps what has been read genuine. -/
theorem genuine_openTable (hd : d.data.Genuine) (k : Key) (rest : List Char) :
    Ensures (d.openTable k rest) fun d => d.data.Genuine := by
  unfold openTable
  split_ifs
  · exact .of_error _
  · split
    next => exact .of_error _
    next data hdata => exact .of_ok (genuine_modifyAt keeps_some _ _ _ hdata hd)

/-- The head of one more table of an array keeps what has been read genuine. -/
theorem genuine_openListTable (hd : d.data.Genuine) (k : Key) (rest : List Char) :
    Ensures (d.openListTable k rest) fun d => d.data.Genuine := by
  unfold openListTable
  split_ifs
  · exact .of_error _
  · dsimp only
    split
    next => exact .of_error _
    next data hdata => exact .of_ok (genuine_modifyAt (keeps_addListTable _) _ _ _ hdata hd)

/-- A statement keeps what has been read genuine. -/
theorem genuine_statement (hd : d.data.Genuine) (cs : List Char) :
    Ensures (d.statement cs) fun p => p.1.data.Genuine := by
  unfold statement
  split
  next rest =>
    refine .bind_any fun p => ?_
    refine .bind (genuine_openListTable (d := d.settle) hd _ _) fun d' hd' => ?_
    split
    · exact .of_ok hd'
    · exact .of_error _
  next rest _ =>
    refine .bind_any fun p => ?_
    refine .bind (genuine_openTable (d := d.settle) hd _ _) fun d' hd' => ?_
    split
    · exact .of_ok hd'
    · exact .of_error _
  next => exact .of_ok hd
  next =>
    split_ifs
    · refine .bind (genuine_entry _) fun p hp => ?_
      exact .bind (genuine_put hd _ hp _) fun d' hd' => .of_ok hd'
    · exact .of_error _
  next => exact .of_ok hd

/-- Lines keep what has been read genuine. -/
theorem genuine_lines (fuel : Nat) (hd : d.data.Genuine) (cs : List Char) :
    Ensures (lines fuel d cs) fun d => d.data.Genuine := by
  induction fuel generalizing d cs with
  | zero => exact .of_ok hd
  | succ fuel ih =>
      unfold lines
      split
      next => exact .of_ok hd
      next rest _ => exact ih hd rest
      next =>
        refine .bind (genuine_statement hd _) fun p hp => ?_
        refine .bind_any fun rest => ?_
        split
        · exact .of_ok hp
        · exact ih hp _
        · exact .of_error _

end Draft

/-- The doubles of a document exist. -/
theorem genuine_parse (source : List Char) : Ensures (parse source) Table.Genuine := by
  unfold parse
  exact .map (Draft.genuine_lines _ Table.genuine_nil _) fun d hd => hd

end Toml

namespace Config

open Files (Pathname World)

/-! ## Layers -/

/-- The doubles of a settings file exist. -/
theorem genuine_readDocument (w : World) (path : Pathname) :
    Ensures (readDocument w path) Table.Genuine := by
  unfold readDocument
  split
  next => exact .of_error _
  next =>
    split
    next => exact .of_error _
    next source _ =>
      split
      next t hparse => exact .of_ok (Toml.genuine_parse source t hparse)
      next => exact .of_error _
      next => exact .of_error _

/-- The tool table of a genuine table is genuine. -/
theorem genuine_toolTable (path : Pathname) {t : Table} (ht : t.Genuine) :
    Ensures (toolTable path t) Table.Genuine := by
  have htool : ((t.get? "tool").getD (.table [])).Genuine := by
    cases hget : t.get? "tool" with
    | none => exact .table Table.genuine_nil
    | some v => exact ht.lookup hget
  unfold toolTable
  split
  next tools hkind =>
    rw [hkind] at htool
    cases htool with
    | table htools =>
        split
        next => exact .of_ok Table.genuine_nil
        next found hfound =>
          cases Table.Genuine.lookup htools hfound with
          | table hentries => exact .of_ok hentries
        next => exact .of_error _
  next => exact .of_error _

/-- Texts are genuine. -/
theorem genuine_texts (items : List String) : (Value.texts items).Genuine := by
  refine .list fun v hv => ?_
  obtain ⟨s, -, rfl⟩ := List.mem_map.mp hv
  exact .text s

/-- What a variable is read as is genuine. -/
theorem genuine_read (s : String) (form : Form) :
    Ensures (form.read s) fun read? => ∀ v ∈ read?, v.Genuine := by
  have hsome {v : Value} (hv : v.Genuine) : ∀ v' ∈ some v, v'.Genuine := by
    intro v' hv'
    obtain rfl := Option.mem_some_iff.mp hv'
    exact hv
  induction form with
  | word => exact .of_ok (hsome (.text s))
  | choice => exact .of_ok (hsome (.text s))
  | integer =>
      unfold Form.read
      split
      · exact .of_ok (hsome (.int _))
      · exact .of_error _
  | decimal =>
      unfold Form.read
      split
      next x hread => exact .of_ok (hsome (.float (Number.wellFormed_readDouble hread)))
      next => exact .of_error _
  | truth => exact .map (fun _ _ => trivial) fun b _ => hsome (.bool b)
  | wordList => exact .of_ok (hsome (genuine_texts _))
  | optional inner ih => exact ih
  | unsupported => exact .of_ok (by simp)

/-- The doubles of the environment exist. -/
theorem genuine_readFields (env : Environment) (fields : List Field) :
    Ensures (env.readFields fields) Table.Genuine := by
  induction fields with
  | nil => exact .of_ok Table.genuine_nil
  | cons f fields ih =>
      unfold Environment.readFields
      split
      next => exact ih
      next s _ =>
        split
        next => exact .of_error _
        next v hread =>
          refine .map ih fun t ht => Table.Genuine.append ?_ ht
          have hv := genuine_read s f.form v hread
          cases v with
          | none => exact Table.genuine_nil
          | some v => exact Table.genuine_singleton f.name (hv v rfl)

/-- The layer of a caller who gives genuine values is genuine. -/
theorem genuine_callerLayer {caller : Table} (h : caller.Genuine) :
    Table.Genuine (callerLayer caller) := by
  have hplain : Table.Genuine (caller.filter fun e => !isSwitch e.1) :=
    fun e he => h e (List.mem_of_mem_filter he)
  intro e he
  have hchosen := List.mem_of_mem_filter he
  split at hchosen
  next v _ =>
    have hverbosity := Table.genuine_singleton Field.verbosity.name (.text v.name)
    exact hverbosity.append hplain e hchosen
  next => exact hplain e hchosen

/-- The merged layers of a run are genuine, if the caller gives genuine values. -/
theorem genuine_layers (w : World) (env : Environment) (file : Option Pathname) {caller : Table}
    (h : caller.Genuine) :
    Ensures (layers w env file caller) fun l => l.merged.Genuine := by
  have hproject : Ensures (projectLayer w) Table.Genuine := by
    unfold projectLayer
    dsimp only
    split_ifs
    · exact genuine_readDocument w _
    · exact .of_ok Table.genuine_nil
  have htool : Ensures (toolLayer w) Table.Genuine := by
    unfold toolLayer
    dsimp only
    split_ifs
    · exact .bind (genuine_readDocument w _) fun t ht => genuine_toolTable _ ht
    · exact .of_ok Table.genuine_nil
  have hexplicit : Ensures (explicitLayer w file) Table.Genuine := by
    unfold explicitLayer
    split
    · exact .of_ok Table.genuine_nil
    · split_ifs
      · exact genuine_readDocument w _
      · exact .of_error _
  refine .bind hproject fun project hproject => .bind htool fun tool htool => ?_
  refine .bind hexplicit fun explicit hexplicit => ?_
  refine .bind (genuine_readFields env Field.all) fun environment henvironment => .of_ok ?_
  -- each layer stands before the lower ones
  have hfiles : Table.Genuine (explicit ++ (tool ++ project)) :=
    hexplicit.append (htool.append hproject)
  exact (genuine_callerLayer h).append (henvironment.append hfiles)

/-! ## Settings -/

/-- The default of a field is genuine. -/
theorem genuine_default (f : Field) : f.default.Genuine := by
  cases f with
  | patterns => exact genuine_texts _
  | excludePatterns => exact genuine_texts _
  | root => exact .text _
  | maxFileSize => exact .float (Number.Double.wellFormed_ofRatio? false 5 Nat.one_pos)
  | outputFormat => exact .text _
  | outputFile => exact .null
  | showProgress => exact .bool _
  | verbosity => exact .text _

/-- A field takes a genuine value of a genuine one. -/
theorem genuine_adopt (f : Field) {v : Value} (h : v.Genuine) : (f.adopt v).Genuine := by
  unfold Field.adopt
  split
  · split_ifs
    · exact genuine_texts _
    · exact h
  · exact h

/-- Settings of a genuine table are genuine. -/
theorem genuine_resolve {merged : Table} (h : merged.Genuine) :
    Ensures (resolve merged) fun s => ∀ f, (s.get f).Genuine := by
  have hvalue (f : Field) : ((Settings.ofTable (merged.map wrapSingle)).get f).Genuine := by
    rw [Settings.ofTable, Settings.get_ofFunction, get?_map_wrapSingle]
    cases hgiven : merged.get? f.name with
    | none => exact genuine_default f
    | some v => exact genuine_adopt f (h.lookup hgiven)
  unfold resolve Settings.checked
  dsimp only
  split
  next =>
    cases (Settings.ofTable (merged.map wrapSingle)).defect? with
    | none => exact .of_ok hvalue
    | some d => cases d <;> exact .of_error _
  next => exact .of_error _

/-- The doubles of loaded settings exist, if those that the caller gives do. -/
theorem genuine_load (w : World) (env : Environment) (file : Option Pathname) {caller : Table}
    (h : caller.Genuine) : Ensures (load w env file caller) fun s => ∀ f, (s.get f).Genuine :=
  .bind (genuine_layers w env file h) fun _ hl => genuine_resolve hl

end Config
end ContractAudit
