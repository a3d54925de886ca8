import ContractAudit.Proofs.Config.Refusal

/-!
# The highest layer wins

Five layers can set a field.  The settings that come out of them hold, for each
field, what the highest of the layers sets that set it at all, and the default
where none does.  Values are taken whole: a list in a higher layer hides a list
in a lower one.  A key that is no field is a fault, whichever layer sets it.

Main results:

- Theorem {lit}`Layers.resolves`: what the merged layers resolve to.
- Theorem {lit}`load_eq_resolve`: a run resolves the layers that it has read.
- Theorem {lit}`highest_layer_wins`: both together, with what the environment and the
  caller set.
-/

namespace ContractAudit
namespace Config

open Files (Pathname World)

/-- Settings with the same values of all fields are the same. -/
theorem Settings.ext_get {s s' : Settings} (h : ∀ f, s.get f = s'.get f) : s = s' := by
  have hget : s.get = s'.get := funext h
  calc s = .ofFunction s.get := rfl
    _ = .ofFunction s'.get := by rw [hget]
    _ = s' := rfl

/-- An answer follows from layers: settings hold what the highest layers set and pass
the check, and keys that are no fields are reported, each once and in order. -/
structure Layers.Resolves (l : Layers) (answer : Except Failure Settings) : Prop where
  ok_iff : ∀ s, answer = .ok s ↔
    l.Known ∧ (∀ f, s.get f = l.value f) ∧ s.defect? = none
  unknown_iff : (∃ message, answer = .error (.fault (.configuration message))) ↔
    ∃ key, l.Sets key ∧ key ∉ Field.names
  unknown_message : ∀ message, answer = .error (.fault (.configuration message)) →
    ∃ keys : List String, keys.Pairwise (· < ·) ∧
      (∀ key, key ∈ keys ↔ l.Sets key ∧ key ∉ Field.names) ∧
      message = "Unknown configuration keys: " ++ ", ".intercalate keys

namespace Layers

variable {l : Layers}

/-- Layers that set fields only never give a fault about keys. -/
theorem resolve_ne_configuration (h : l.Known) (message : String) :
    resolve l.merged ≠ .error (.fault (.configuration message)) := by
  rw [resolve_of_known h]
  intro hfault
  split at hfault
  next => cases hfault
  next why _ =>
    have hrefusal := Except.error.inj hfault
    cases hobstacle : (l.value why.field).obstacle? Value.shownDepth with
    | some e =>
        rw [refusalFault_of_obstacle hobstacle] at hrefusal
        cases e <;> cases hrefusal
    | none =>
        obtain ⟨shown, hshown⟩ := refusalFault_of_shown hobstacle
        rw [hshown] at hrefusal
        cases hrefusal
  next failure hunusable =>
    obtain ⟨reason, rfl⟩ := Settings.badType_of_unusable hunusable
    cases hfault

/-- Layers that set fields only resolve to their settings if these pass the check. -/
theorem resolve_eq_ok_iff (h : l.Known) (s : Settings) :
    resolve l.merged = .ok s ↔ s = l.settings ∧ s.defect? = none := by
  rw [resolve_of_known h]
  cases hdefect : l.settings.defect? with
  | none =>
      simp only [Except.ok.injEq]
      constructor
      · rintro rfl
        exact ⟨rfl, hdefect⟩
      · exact fun hs => hs.1.symm
  | some d =>
      have hnone : ¬ (s = l.settings ∧ s.defect? = none) := by
        rintro ⟨rfl, hpass⟩
        rw [hdefect] at hpass
        cases hpass
      cases d <;> simp [hnone]

/-- The merged layers resolve to what the layers say. -/
theorem resolves (l : Layers) : l.Resolves (resolve l.merged) := by
  by_cases hknown : l.Known
  · have hnone (message : String) := resolve_ne_configuration hknown message
    refine ⟨fun s => ?_, ?_, fun message h => absurd h (hnone message)⟩
    · rw [resolve_eq_ok_iff hknown]
      constructor
      · rintro ⟨rfl, hpass⟩
        exact ⟨hknown, Settings.get_ofFunction l.value, hpass⟩
      · rintro ⟨-, hvalue, hpass⟩
        refine ⟨Settings.ext_get fun f => ?_, hpass⟩
        rw [hvalue, settings, Settings.get_ofFunction]
    · constructor
      · rintro ⟨message, h⟩
        exact absurd h (hnone message)
      · rintro ⟨key, hset, hnot⟩
        exact absurd (hknown key hset) hnot
  · have hfault := resolve_of_unknown hknown
    have hkeys (key : String) := mem_unknownKeys_merged_iff (l := l) key
    refine ⟨fun s => ?_, ?_, fun message h => ?_⟩
    · rw [hfault]
      simp [hknown]
    · constructor
      · intro _
        simpa [Known] using hknown
      · exact fun _ => ⟨_, hfault⟩
    · rw [hfault] at h
      injection h with h
      injection h with h
      injection h with _ hmessage
      exact ⟨_, pairwise_unknownKeys _, hkeys, hmessage.symm⟩

end Layers

/-- A run resolves the layers that it has read. -/
theorem load_eq_resolve {w : World} {env : Environment} {file : Option Pathname} {caller : Table}
    {project tool explicit environment : Table} (hproject : projectLayer w = .ok project)
    (htool : toolLayer w = .ok tool) (hexplicit : explicitLayer w file = .ok explicit)
    (henv : env.table = .ok environment) :
    load w env file caller = resolve (Layers.merged
      { project, tool, explicit, environment, caller := callerLayer caller }) := by
  simp only [load, layers, hproject, htool, hexplicit, henv, bind, Except.bind, pure, Except.pure]

/-- What five layers resolve to, for any tables, any variables that can be read and
anything that the caller gives: the environment sets what its variables say, the
caller what is given or switched on, and the highest layer wins. -/
theorem highest_layer_wins (project tool explicit caller : Table) {env : Environment}
    {environment : Table} (henv : env.table = .ok environment) :
    let l : Layers := { project, tool, explicit, environment, caller := callerLayer caller }
    (∀ key, l.caller.get? key = callerSetting? caller key) ∧
    (∀ key, l.environment.get? key = env.setting? key) ∧
    l.Resolves (resolve l.merged) ∧
    (∀ (w : World) (file : Option Pathname), projectLayer w = .ok project →
      toolLayer w = .ok tool → explicitLayer w file = .ok explicit →
      load w env file caller = resolve l.merged) := by
  intro l
  refine ⟨get?_callerLayer caller, Environment.get?_table henv, l.resolves, ?_⟩
  intro w file hproject htool hexplicit
  exact load_eq_resolve hproject htool hexplicit henv

/-- Every layer sets something that a higher one hides: a bare text stands for a list
of one, an empty list hides a longer one, a null hides nothing, and the switch for
quiet runs comes before the one for verbose runs and before a verbosity. -/
theorem highest_layer_wins_each :
    let project : Table := [("patterns", .text "a.js"), ("exclude_patterns", .texts ["x", "y"]),
      ("root", .text "p"), ("output_format", .text "rich")]
    let tool : Table := [("root", .text "t"), ("max_file_size_mb", .int 3)]
    let explicit : Table := [("exclude_patterns", .texts []), ("output_format", .text "json")]
    let env : Environment := [("CONTRACT_COVERAGE_OUTPUT_FORMAT", "csv"), ("HOME", "/h")]
    let caller : Table := [("verbose", .bool true), ("quiet", .bool true),
      ("verbosity", .text "normal"), ("root", .null)]
    ∃ environment, env.table = .ok environment ∧
      ∃ s, resolve (Layers.merged
          { project, tool, explicit, environment, caller := callerLayer caller }) = .ok s ∧
        s.patterns = .texts ["a.js"] ∧ s.excludePatterns = .texts [] ∧ s.root = .text "t" ∧
        s.maxFileSize = .int 3 ∧ s.outputFormat = .text "csv" ∧ s.outputFile = .null ∧
        s.showProgress = .bool true ∧ s.verbosity = .text "quiet" := by
  intro project tool explicit env caller
  have henv : env.table = .ok [("output_format", .text "csv")] := rfl
  obtain ⟨-, -, hresolves, -⟩ := highest_layer_wins project tool explicit caller henv
  let l : Layers := {
    project, tool, explicit, environment := [("output_format", .text "csv")]
    caller := callerLayer caller }
  have hknown : l.Known := by decide
  have hpass : l.settings.defect? = none := rfl
  exact ⟨_, henv, l.settings,
    (hresolves.ok_iff _).mpr ⟨hknown, Settings.get_ofFunction l.value, hpass⟩,
    rfl, rfl, rfl, rfl, rfl, rfl, rfl, rfl⟩

end Config
end ContractAudit
