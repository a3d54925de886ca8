import ContractAudit.Proofs.Config.Refusal
import ContractAudit.Proofs.Files.Resolution

/-!
# Failures that escape

Loading turns what it finds wrong into faults of the configuration.  Some
failures escape: a file that is no text or holds an integer too long to read, a
tool entry that is no table, and settings that the check cannot examine or
whose refusal cannot be shown.  This module lists them all, with the kind of
each, and shows that nothing else escapes.

Main results:

- Theorem {lit}`Leaks.bind`: what escapes from two steps.
- Theorem {lit}`Layers.leaks_resolve`: what escapes from the check of settings.
- Theorem {lit}`escaping_failures`: what escapes from loading.
-/

namespace ContractAudit
namespace Config

open Files (Pathname World)

/-! ## Answers that leak -/

/-- The faults of an answer are faults of the configuration, and the failures that are
no faults are exactly of some kinds. -/
structure Leaks {α : Type} (answer : Except Failure α) (kinds : FailureKind → Prop) : Prop where
  fault : ∀ fault, answer = .error (.fault fault) → fault.kind.isConfiguration = true
  unexpected : ∀ kind, (∃ message, answer = .error (.unexpected kind message)) ↔ kinds kind

namespace Leaks

variable {α β : Type} {kinds : FailureKind → Prop}

/-- Nothing escapes from a result. -/
theorem of_ok (a : α) : Leaks (.ok a) fun _ => False where
  fault _ h := by cases h
  unexpected _ := by simp

/-- Nothing escapes from a fault of the configuration. -/
theorem of_fault {fault : Fault} (h : fault.kind.isConfiguration = true) :
    Leaks (.error (.fault fault) : Except Failure α) fun _ => False where
  fault _ heq := by
    cases heq
    exact h
  unexpected _ := by simp

/-- A failure that is no fault escapes. -/
theorem of_unexpected (kind : FailureKind) (message : String) :
    Leaks (.error (.unexpected kind message) : Except Failure α) (· = kind) where
  fault _ h := by cases h
  unexpected other := by
    constructor
    · rintro ⟨_, h⟩
      cases h
      rfl
    · rintro rfl
      exact ⟨message, rfl⟩

/-- The kinds that escape may be said in another way. -/
theorem congr {answer : Except Failure α} {others : FailureKind → Prop} (h : Leaks answer kinds)
    (hiff : ∀ kind, kinds kind ↔ others kind) : Leaks answer others where
  fault := h.fault
  unexpected kind := (h.unexpected kind).trans (hiff kind)

/-- From two steps escapes what escapes from the first, or from the second after a
result of the first. -/
theorem bind {x : Except Failure α} {f : α → Except Failure β} {later : α → FailureKind → Prop}
    (hx : Leaks x kinds) (hf : ∀ a, Leaks (f a) (later a)) :
    Leaks (x >>= f) fun kind => kinds kind ∨ ∃ a, x = .ok a ∧ later a kind := by
  cases x with
  | ok a =>
      refine (hf a).congr fun kind => ?_
      -- a first step with a result is no failure of any kind
      have hnone : ¬ kinds kind := fun h => by
        obtain ⟨_, heq⟩ := (hx.unexpected kind).mpr h
        cases heq
      simp [hnone]
  | error e =>
      have hkinds : Leaks (.error e : Except Failure β) kinds := {
        fault := fun fault heq => hx.fault fault (by cases heq; rfl)
        unexpected := fun kind => by simpa using hx.unexpected kind }
      exact hkinds.congr fun kind => by simp

/-- A change of the result changes nothing about what escapes. -/
theorem map {x : Except Failure α} (h : Leaks x kinds) (g : α → β) : Leaks (x.map g) kinds := by
  have hmap : x.map g = (x >>= fun a => .ok (g a)) := by cases x <;> rfl
  rw [hmap]
  exact (h.bind fun a => of_ok (g a)).congr fun kind => by simp

/-- All failures are faults of the configuration exactly if nothing escapes. -/
theorem conforms_iff {answer : Except Failure α} (h : Leaks answer kinds) :
    (∀ e, answer = .error e → e.isConfiguration = true) ↔ ∀ kind, ¬ kinds kind := by
  constructor
  · intro hall kind hkind
    obtain ⟨message, heq⟩ := (h.unexpected kind).mpr hkind
    have hfalse := hall _ heq
    cases hfalse
  · intro hnone e heq
    cases e with
    | fault fault => exact h.fault fault heq
    | unexpected kind message => exact absurd ((h.unexpected kind).mp ⟨message, heq⟩) (hnone kind)

end Leaks

/-! ## Files -/

/-- A settings file is broken: it is no text, or it holds an integer that is too long. -/
inductive Broken (w : World) (path : Pathname) : FailureKind → Prop where
  | undecodable {bytes : List UInt8} {bad : Text.DecodingError} (hread : w.read path = .ok bytes)
      (hbad : Text.decodeUtf8 bytes = .error bad) : Broken w path .undecodable
  | longInteger {bytes : List UInt8} {source : List Char} {digits : Nat}
      (hread : w.read path = .ok bytes) (hsource : Text.decodeUtf8 bytes = .ok source)
      (hlong : Toml.parse source = .error (.longInteger digits)) : Broken w path .badValue

section Files

variable {w : World} {path : Pathname}

/-- What can be read is there. -/
theorem has_of_read {bytes : List UInt8} (h : w.read path = .ok bytes) : w.has path = true := by
  unfold World.read at h
  unfold World.has
  cases hstat : w.stat path with
  | ok entry => rfl
  | error e => simp [hstat] at h

/-- A broken file is there. -/
theorem Broken.has {kind : FailureKind} (h : Broken w path kind) : w.has path = true := by
  cases h with
  | undecodable hread => exact has_of_read hread
  | longInteger hread => exact has_of_read hread

/-- A file that can be read is broken by what it holds. -/
theorem broken_iff_of_read {bytes : List UInt8} {kind : FailureKind}
    (h : w.read path = .ok bytes) :
    Broken w path kind ↔
      (kind = .undecodable ∧ ∃ bad, Text.decodeUtf8 bytes = .error bad) ∨
        (kind = .badValue ∧ ∃ source digits, Text.decodeUtf8 bytes = .ok source ∧
          Toml.parse source = .error (.longInteger digits)) := by
  constructor
  · rintro (⟨hread, hbad⟩ | ⟨hread, hsource, hlong⟩)
    · obtain rfl := Except.ok.inj (h.symm.trans hread)
      exact .inl ⟨rfl, _, hbad⟩
    · obtain rfl := Except.ok.inj (h.symm.trans hread)
      exact .inr ⟨rfl, _, _, hsource, hlong⟩
  · rintro (⟨rfl, bad, hbad⟩ | ⟨rfl, source, digits, hsource, hlong⟩)
    · exact .undecodable h hbad
    · exact .longInteger h hsource hlong

/-- From reading a settings file escapes that it is broken. -/
theorem leaks_readDocument (w : World) (path : Pathname) :
    Leaks (readDocument w path) (Broken w path) := by
  unfold readDocument
  cases hread : w.read path with
  | error e =>
      refine (Leaks.of_fault rfl).congr fun kind => ⟨False.elim, ?_⟩
      rintro (⟨hbytes, -⟩ | ⟨hbytes, -, -⟩) <;> simp [hread] at hbytes
  | ok bytes =>
      refine Leaks.congr ?_ fun kind => (broken_iff_of_read hread).symm
      dsimp only
      cases Text.decodeUtf8 bytes with
      | error bad => exact (Leaks.of_unexpected .undecodable _).congr fun kind => by simp
      | ok source =>
          dsimp only
          cases hparse : Toml.parse source with
          | ok t => exact (Leaks.of_ok t).congr fun kind => by simp [hparse]
          | error refusal =>
              cases refusal with
              | flaw what rest => exact (Leaks.of_fault rfl).congr fun kind => by simp [hparse]
              | longInteger digits =>
                  exact (Leaks.of_unexpected .badValue _).congr fun kind => by simp [hparse]

/-- From reading a settings file that may be missing escapes that it is broken, if
nothing escapes otherwise. -/
theorem leaks_readIfThere {otherwise : Except Failure Table}
    (h : Leaks otherwise fun _ => False) :
    Leaks (if w.has path then readDocument w path else otherwise) (Broken w path) := by
  cases hthere : w.has path with
  | true => exact leaks_readDocument w path
  | false => exact h.congr fun kind => ⟨False.elim, fun hbroken => by simp [hbroken.has] at hthere⟩

/-- A settings file that gives a table is there. -/
theorem has_of_readDocument {t : Table} (h : readDocument w path = .ok t) :
    w.has path = true := by
  unfold readDocument at h
  cases hread : w.read path with
  | error e => simp [hread] at h
  | ok bytes => exact has_of_read hread

end Files

/-- The table of a package file has a tool entry that is no table. -/
def MisusesTool (t : Table) : Prop :=
  ∃ v, t.get? "tool" = some v ∧ ∀ tools, v ≠ .table tools

/-- From finding the tool table escapes that the tool entry is no table. -/
theorem leaks_toolTable (path : Pathname) (t : Table) :
    Leaks (toolTable path t) fun kind => kind = .noAttribute ∧ MisusesTool t := by
  unfold toolTable MisusesTool
  cases t.get? "tool" with
  | none => exact (Leaks.of_ok []).congr fun kind => by simp
  | some v =>
      dsimp only [Option.getD_some]
      split
      next tools =>
        have hnone (kind : FailureKind) : False ↔ kind = .noAttribute ∧
            ∃ v, some (Value.table tools) = some v ∧ ∀ tools, v ≠ .table tools := by
          simp
        split
        · exact (Leaks.of_ok []).congr hnone
        · exact (Leaks.of_ok _).congr hnone
        · exact (Leaks.of_fault rfl).congr hnone
      next hother =>
        refine (Leaks.of_unexpected .noAttribute _).congr fun kind => ?_
        exact ⟨fun h => ⟨h, v, rfl, hother⟩, fun h => h.1⟩

/-- From the layer of the package file escapes that it is broken or misuses the entry. -/
theorem leaks_toolLayer (w : World) :
    Leaks (toolLayer w) fun kind =>
      Broken w (inWorkingDirectory w packageFileName) kind ∨
        ∃ t, readDocument w (inWorkingDirectory w packageFileName) = .ok t ∧
          kind = .noAttribute ∧ MisusesTool t := by
  unfold toolLayer
  dsimp only
  cases hthere : w.has (inWorkingDirectory w packageFileName) with
  | true => exact (leaks_readDocument w _).bind (leaks_toolTable _)
  | false =>
      refine (Leaks.of_ok []).congr fun kind => ⟨False.elim, ?_⟩
      rintro (hbroken | ⟨t, hread, -⟩)
      · simp [hbroken.has] at hthere
      · simp [has_of_readDocument hread] at hthere

/-- From the layer of a named file escapes that it is broken. -/
theorem leaks_explicitLayer (w : World) (file : Option Pathname) :
    Leaks (explicitLayer w file) fun kind => ∃ path, file = some path ∧ Broken w path kind := by
  cases file with
  | none => exact (Leaks.of_ok []).congr fun kind => by simp
  | some path => exact (leaks_readIfThere (Leaks.of_fault rfl)).congr fun kind => by simp

/-! ## The environment and the settings -/

/-- Nothing escapes from reading variables. -/
theorem leaks_readFields (env : Environment) (fields : List Field) :
    Leaks (env.readFields fields) fun _ => False := by
  induction fields with
  | nil => exact Leaks.of_ok []
  | cons f fields ih =>
      unfold Environment.readFields
      split
      next => exact ih
      next s _ =>
        split
        next => exact Leaks.of_fault rfl
        next => exact ih.map _

/-- The kind of failure that an obstacle leads to. -/
def Value.ShowError.kind : Value.ShowError → FailureKind
  | longInteger => .badValue
  | tooDeep => .tooDeep

/-- Settings end their check with something else than a refusal that is shown: a value
cannot be examined, or a refused one cannot be shown. -/
inductive Settings.Baffling (s : Settings) : FailureKind → Prop where
  | unexaminable (h : s.Unexaminable) : Baffling s .badType
  | unshowable {why : SettingError} {e : Value.ShowError}
      (hrefused : s.defect? = some (.refused why))
      (hobstacle : (s.get why.field).obstacle? Value.shownDepth = some e) : Baffling s e.kind

/-- Settings are baffling by the end of their check. -/
theorem Settings.baffling_iff {s : Settings} {kind : FailureKind} :
    s.Baffling kind ↔
      (kind = .badType ∧ ∃ failure, s.defect? = some (.unusable failure)) ∨
        ∃ why e, s.defect? = some (.refused why) ∧
          (s.get why.field).obstacle? Value.shownDepth = some e ∧ kind = e.kind := by
  rw [exists_unusable_iff]
  constructor
  · rintro (hunexaminable | ⟨hrefused, hobstacle⟩)
    · exact .inl ⟨rfl, hunexaminable⟩
    · exact .inr ⟨_, _, hrefused, hobstacle, rfl⟩
  · rintro (⟨rfl, hunexaminable⟩ | ⟨why, e, hrefused, hobstacle, rfl⟩)
    · exact .unexaminable hunexaminable
    · exact .unshowable hrefused hobstacle

/-- From resolving layers escapes, if they set fields only, that their settings are
baffling. -/
theorem Layers.leaks_resolve (l : Layers) :
    Leaks (resolve l.merged) fun kind => l.Known ∧ l.settings.Baffling kind := by
  by_cases hknown : l.Known
  · simp only [hknown, true_and, Settings.baffling_iff]
    rw [resolve_of_known hknown]
    cases hdefect : l.settings.defect? with
    | none => exact (Leaks.of_ok _).congr fun kind => by simp
    | some d =>
        cases d with
        | unusable failure =>
            obtain ⟨message, rfl⟩ := Settings.badType_of_unusable hdefect
            exact (Leaks.of_unexpected .badType message).congr fun kind => by simp
        | refused why =>
            have hget : l.settings.get why.field = l.value why.field :=
              Settings.get_ofFunction l.value why.field
            cases hobstacle : (l.value why.field).obstacle? Value.shownDepth with
            | none =>
                obtain ⟨shown, hshown⟩ := refusalFault_of_shown hobstacle
                dsimp only
                rw [hshown]
                refine (Leaks.of_fault rfl).congr fun kind => ?_
                simp [hget, hobstacle]
            | some e =>
                dsimp only
                rw [refusalFault_of_obstacle hobstacle]
                have hfailure : ∃ message, e.toFailure = .unexpected e.kind message := by
                  cases e <;> exact ⟨_, rfl⟩
                obtain ⟨message, hmessage⟩ := hfailure
                rw [hmessage]
                refine (Leaks.of_unexpected e.kind message).congr fun kind => ?_
                simp [hget, hobstacle]
  · rw [resolve_of_unknown hknown]
    exact (Leaks.of_fault rfl).congr fun kind => by simp [hknown]

/-! ## Loading -/

/-- Loading ends with something else than a fault of the configuration: at the first
file that is broken, at a tool entry that is no table, or, with all layers read and
only fields set, at baffling settings. -/
inductive Escape (w : World) (env : Environment) (file : Option Pathname) (caller : Table) :
    FailureKind → Prop where
  | project {kind : FailureKind} (h : Broken w (inWorkingDirectory w projectFileName) kind) :
      Escape w env file caller kind
  | package {kind : FailureKind} {project : Table} (hproject : projectLayer w = .ok project)
      (h : Broken w (inWorkingDirectory w packageFileName) kind) : Escape w env file caller kind
  | tool {project t : Table} (hproject : projectLayer w = .ok project)
      (hpackage : readDocument w (inWorkingDirectory w packageFileName) = .ok t)
      (h : MisusesTool t) : Escape w env file caller .noAttribute
  | explicit {kind : FailureKind} {project tool : Table} {path : Pathname}
      (hproject : projectLayer w = .ok project) (htool : toolLayer w = .ok tool)
      (hfile : file = some path) (h : Broken w path kind) : Escape w env file caller kind
  | settings {kind : FailureKind} {l : Layers} (hlayers : layers w env file caller = .ok l)
      (hknown : l.Known) (h : l.settings.Baffling kind) : Escape w env file caller kind

/-- From loading escapes what is listed. -/
theorem leaks_load (w : World) (env : Environment) (file : Option Pathname) (caller : Table) :
    Leaks (load w env file caller) (Escape w env file caller) := by
  have hproject : Leaks (projectLayer w) (Broken w (inWorkingDirectory w projectFileName)) :=
    leaks_readIfThere (Leaks.of_ok [])
  have hlayers := hproject.bind fun project => (leaks_toolLayer w).bind fun tool =>
    (leaks_explicitLayer w file).bind fun explicit =>
      (leaks_readFields env Field.all).bind fun environment =>
        Leaks.of_ok (α := Layers)
          { project, tool, explicit, environment, caller := callerLayer caller }
  refine (hlayers.bind fun l => l.leaks_resolve).congr fun kind => ?_
  -- one alternative for each step, in the order in which the layers are read
  constructor
  · rintro ((hbroken | ⟨project, hproject, (hbroken | ⟨t, hread, rfl, hmisused⟩) |
      ⟨tool, htool, ⟨path, hfile, hbroken⟩ | ⟨explicit, hexplicit, hnone | ⟨_, _, hnone⟩⟩⟩⟩) |
      ⟨l, hlayers, hknown, hbaffling⟩)
    · exact .project hbroken
    · exact .package hproject hbroken
    · exact .tool hproject hread hmisused
    · exact .explicit hproject htool hfile hbroken
    · exact hnone.elim
    · exact hnone.elim
    · exact .settings hlayers hknown hbaffling
  · intro hescape
    cases hescape with
    | project hbroken => exact .inl (.inl hbroken)
    | package hproject hbroken => exact .inl (.inr ⟨_, hproject, .inl (.inl hbroken)⟩)
    | tool hproject hread hmisused =>
        exact .inl (.inr ⟨_, hproject, .inl (.inr ⟨_, hread, rfl, hmisused⟩)⟩)
    | explicit hproject htool hfile hbroken =>
        exact .inl (.inr ⟨_, hproject, .inr ⟨_, htool, .inl ⟨_, hfile, hbroken⟩⟩⟩)
    | settings hlayers hknown hbaffling => exact .inr ⟨_, hlayers, hknown, hbaffling⟩

/-- Loading fails with faults of the configuration, except for the failures that are
listed, each of its kind; all failures are faults of the configuration exactly if
none of these is met. -/
theorem escaping_failures (w : World) (env : Environment) (file : Option Pathname)
    (caller : Table) :
    (∀ fault, load w env file caller = .error (.fault fault) →
      fault.kind.isConfiguration = true) ∧
    (∀ kind, (∃ message, load w env file caller = .error (.unexpected kind message)) ↔
      Escape w env file caller kind) ∧
    ((∀ e, load w env file caller = .error e → e.isConfiguration = true) ↔
      ∀ kind, ¬ Escape w env file caller kind) := by
  have hleaks := leaks_load w env file caller
  exact ⟨hleaks.fault, hleaks.unexpected, hleaks.conforms_iff⟩

/-- A project file that is no text escapes, and so does a number as the patterns. -/
theorem escaping_failures_met :
    let broken : World := { cwd := [], entries := [(["contract-coverage.toml"], .file [0xff])] }
    let empty : World := { cwd := [], entries := [] }
    (∃ message, load broken [] none [] = .error (.unexpected .undecodable message)) ∧
      ∃ message, load empty [] none [("patterns", .int 5)] =
        .error (.unexpected .badType message) := by
  intro broken empty
  constructor
  · have hplain : broken.Plain := ⟨by simp [broken], by decide⟩
    have hread : broken.read (inWorkingDirectory broken projectFileName) = .ok [0xff] := by
      have hstat : broken.stat (inWorkingDirectory broken projectFileName) = .ok (.file [0xff]) :=
        (World.stat_eq_ok_iff hplain).2 (by decide)
      rw [World.read, hstat]
    refine ((escaping_failures broken [] none []).2.1 _).mpr (.project ?_)
    exact .undecodable hread rfl
  · have hplain : empty.Plain := ⟨by simp [empty], by simp [empty]⟩
    have hproject : projectLayer empty = .ok [] := by
      rw [projectLayer, World.has_eq_false_of_entryAt hplain (by decide)]
      rfl
    have htool : toolLayer empty = .ok [] := by
      rw [toolLayer, World.has_eq_false_of_entryAt hplain (by decide)]
      rfl
    let l : Layers := { caller := [("patterns", .int 5)] }
    have hlayers : layers empty [] none [("patterns", .int 5)] = .ok l := by
      simp only [layers, hproject, htool]
      rfl
    have hknown : l.Known := by decide
    have hunexaminable : l.settings.Unexaminable := .inl ⟨rfl, rfl⟩
    refine ((escaping_failures empty [] none _).2.1 _).mpr (.settings hlayers hknown ?_)
    exact .unexaminable hunexaminable

end Config
end ContractAudit
