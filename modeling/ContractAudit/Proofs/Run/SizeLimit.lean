import Mathlib.Data.Rat.Floor
import ContractAudit.Proofs.Config.Doubles
import ContractAudit.Proofs.Config.Precedence
import ContractAudit.Proofs.Config.Validation
import ContractAudit.Proofs.Run.Analysis
import ContractAudit.Proofs.Run.Tolerance

/-!
# The size limit is exact

The size limit is set in megabytes, by an integer or a double, and compared in
bytes.  The product with `2 ^ 20` is exact for every double, since it only moves
the exponent, and the integer part is the floor of a positive number.  A file is
therefore refused for its size exactly if it has more bytes than the exact
product.  Three sorts of doubles pass the check and have no limit in bytes: the
not-a-number, infinity, and those from `2 ^ 1004` on, whose product is infinite.

Main results:

- Theorem {lit}`maxFileSizeBytes_cases`: the limit of a size that is accepted.
- Theorem {lit}`loadBy_eq_sizeFault_iff`: which files are refused for their size.
- Theorem {lit}`size_limit_is_exact`: both together, along an analysis.
-/

namespace ContractAudit
namespace Config

open Number

/-! ## Bytes of megabytes -/

/-- The exact number that a value is, if it is a number and finite. -/
def Value.number? : Value → Option ℚ
  | .bool b => some (if b then 1 else 0)
  | .int i => some i
  | .float (.finite negative m) =>
    some (if negative then -(m.units / unitsPerOne) else m.units / unitsPerOne)
  | _ => none

/-- A size that is accepted and has no limit in bytes, with the kind of failure that it
leads to. -/
inductive Limitless : Value → FailureKind → Prop where
  | nan : Limitless (.float .nan) .badValue
  | infinite : Limitless (.float (.infinite false)) .overflow
  | huge {m : Magnitude} (h : twoTo 1004 * unitsPerOne ≤ m.units) :
      Limitless (.float (.finite false m)) .overflow

/-- Bytes in a megabyte, as a power of two. -/
theorem kilo_eq_twoTo : Settings.kilo = twoTo 10 :=
  rfl

/-- The product with the bytes of a megabyte is finite below `2 ^ 1004`. -/
theorem units_lt_overflowUnits_iff (u : Nat) :
    u * twoTo (10 + 10) < overflowUnits ↔ u < twoTo 1004 * unitsPerOne := by
  have hsplit : overflowUnits = twoTo 1004 * unitsPerOne * twoTo (10 + 10) := by
    rw [unitsPerOne, ← twoTo_add, ← twoTo_add, overflowUnits]
  rw [hsplit, Nat.mul_lt_mul_right (twoTo_pos _)]

/-- The integer part of a product with `2 ^ 20` is the floor of the exact product. -/
theorem floor_mul_twoTo (u : Nat) :
    ((Magnitude.mk (u * twoTo (10 + 10))).floor : Int) = ⌊(u / unitsPerOne : ℚ) * 2 ^ 20⌋ := by
  have hproduct : (u / unitsPerOne : ℚ) * 2 ^ 20 =
      ((u * twoTo (10 + 10) : Nat) : ℚ) / unitsPerOne := by
    have htwo : ((twoTo (10 + 10) : Nat) : ℚ) = 2 ^ 20 := by norm_num [twoTo]
    rw [Nat.cast_mul, htwo]
    ring
  rw [hproduct, Rat.floor_natCast_div_natCast, Magnitude.floor]
  exact Int.natCast_ediv _ _

/-- The product of an integer with the bytes of a megabyte is its own floor. -/
theorem mul_kilo_eq_floor (i : Int) : i * Settings.kilo * Settings.kilo = ⌊(i : ℚ) * 2 ^ 20⌋ := by
  have hproduct : (i : ℚ) * 2 ^ 20 = ((i * Settings.kilo * Settings.kilo : Int) : ℚ) := by
    have hkilo : ((Settings.kilo : Int) : ℚ) = 2 ^ 10 := by norm_num [Settings.kilo]
    rw [Int.cast_mul, Int.cast_mul, hkilo]
    ring
  rw [hproduct, Int.floor_intCast]

/-- The limit of a finite double is the floor of the exact product, if that is finite. -/
theorem truncated_scaled {m : Magnitude} (hdouble : IsDouble m.units) :
    Settings.truncated (((Double.finite false m).scale Settings.kilo).scale Settings.kilo) =
      if m.units < twoTo 1004 * unitsPerOne then .ok ⌊(m.units / unitsPerOne : ℚ) * 2 ^ 20⌋
      else .error (.unexpected .overflow "cannot convert float infinity to integer") := by
  rw [kilo_eq_twoTo, Double.scale_scale false hdouble]
  by_cases hfinite : m.units < twoTo 1004 * unitsPerOne
  · rw [if_pos hfinite, if_pos ((units_lt_overflowUnits_iff _).mpr hfinite), ← floor_mul_twoTo]
    rfl
  · rw [if_neg hfinite, if_neg fun h => hfinite ((units_lt_overflowUnits_iff _).mp h)]
    rfl

namespace Settings

variable {s : Settings}

/-- A size that is accepted has no limit in bytes, or its limit is the floor of the exact
product. -/
theorem maxFileSizeBytes_cases (hsize : UsableSize s.maxFileSize)
    (hdouble : ∀ x, s.maxFileSize = .float x → x.WellFormed) :
    (∃ kind message, (∀ other, Limitless s.maxFileSize other ↔ other = kind) ∧
      s.maxFileSizeBytes = .error (.unexpected kind message)) ∨
    ((∀ kind, ¬ Limitless s.maxFileSize kind) ∧ ∃ m : ℚ, s.maxFileSize.number? = some m ∧ 0 < m ∧
      s.maxFileSizeBytes = .ok ⌊m * 2 ^ 20⌋) := by
  have hones : (0 : ℚ) < unitsPerOne := by exact_mod_cast unitsPerOne_pos
  unfold maxFileSizeBytes
  generalize s.maxFileSize = v at hsize hdouble ⊢
  cases hsize with
  | yes =>
      refine .inr ⟨fun kind h => (by cases h), (1 : Int), by simp [Value.number?], by simp, ?_⟩
      rw [← mul_kilo_eq_floor, one_mul]
      rfl
  | @int i hi =>
      refine .inr ⟨fun kind h => (by cases h), i, rfl, by exact_mod_cast hi, ?_⟩
      rw [← mul_kilo_eq_floor]
  | nan =>
      refine .inl ⟨.badValue, _, fun other => ⟨fun h => ?_, fun h => h ▸ .nan⟩, rfl⟩
      cases h
      rfl
  | infinite =>
      refine .inl ⟨.overflow, _, fun other => ⟨fun h => ?_, fun h => h ▸ .infinite⟩, rfl⟩
      cases h
      rfl
  | @finite m hm =>
      cases hdouble _ rfl with
      | finite _ hunits _ =>
          dsimp only
          rw [truncated_scaled hunits]
          by_cases hfinite : m.units < twoTo 1004 * unitsPerOne
          · have hpos : (0 : ℚ) < m.units / unitsPerOne := by
              have hunit : (0 : ℚ) < m.units := by exact_mod_cast hm
              exact div_pos hunit hones
            refine .inr ⟨fun kind h => ?_, _, rfl, hpos, if_pos hfinite⟩
            cases h with
            | huge hhuge => omega
          · refine .inl ⟨.overflow, _, fun other => ⟨fun h => ?_, fun h => h ▸ ?_⟩, if_neg hfinite⟩
            · cases h
              rfl
            · exact .huge (Nat.le_of_not_lt hfinite)

end Settings

end Config

namespace Run

open Files (World Pathname SourceFile Entry sizeFault accessFault)
open Config (Settings Limitless)

/-! ## Files that are refused -/

section Refusals

variable {w : World} {path : Pathname} {size : Nat} {limit : Int}

/-- A reason that starts with another letter is not that of a size. -/
theorem fileAccess_ne_sizeFault {other : Pathname} {reason : String}
    (h : reason.toList.head? ≠ some 'F') :
    Failure.fault (.fileAccess other reason) ≠ sizeFault path size limit := by
  intro heq
  injection heq with heq
  injection heq with _ _ hdetails
  injection hdetails with _ htail
  injection htail with hdetail _
  injection hdetail with _ hreason
  rw [hreason, String.append_assoc, String.append_assoc, String.append_assoc,
    String.toList_append] at h
  exact h rfl

/-- A fault of another kind is not that of a size. -/
theorem fault_ne_sizeFault {f : Fault} (h : f.kind ≠ .fileAccess) :
    Failure.fault f ≠ sizeFault path size limit := by
  intro heq
  injection heq with heq
  exact h (congrArg Fault.kind heq)

/-- A size that is within the limit passes. -/
theorem checkSize_of_le {entry : Entry} (hstat : w.stat path = .ok entry)
    (h : (entry.size : Int) ≤ limit) : w.checkSize path (some limit) = .ok () := by
  simp only [World.checkSize, hstat, if_neg (Int.not_lt.mpr h)]

/-- A size that is beyond the limit is a fault. -/
theorem checkSize_of_lt {entry : Entry} (hstat : w.stat path = .ok entry)
    (h : limit < entry.size) :
    w.checkSize path (some limit) = .error (sizeFault path entry.size limit) := by
  simp only [World.checkSize, hstat, if_pos h]

/-- A text within the limit is never refused for its size. -/
theorem readText_ne_sizeFault (h : w.checkSize path (some limit) = .ok ()) :
    w.readText path (some limit) "utf-8" ≠ .error (sizeFault path size limit) := by
  have hencoding : Text.Encoding.ofName? "utf-8" = some .utf8 := by decide +kernel
  unfold World.readText
  rw [h, hencoding]
  dsimp only [bind, Except.bind]
  split
  next e _ =>
    intro heq
    exact fileAccess_ne_sizeFault (by simp) (Except.error.inj heq)
  next =>
    split
    next => simp
    next bad _ =>
      intro heq
      exact fileAccess_ne_sizeFault (by simp) (Except.error.inj heq)

/-- With any parser, a file is refused for its size exactly if it is larger than the limit. -/
theorem loadBy_eq_sizeFault_iff {parse : Parse} {file : SourceFile} {entry : Entry}
    (hstat : w.stat file.path = .ok entry) :
    (loadBy parse w (some limit) file).tree = .error (sizeFault file.path entry.size limit) ↔
      limit < entry.size := by
  constructor
  · intro hload
    by_contra hle
    have hread : w.readText file.path (some limit) "utf-8" ≠
        .error (sizeFault file.path entry.size limit) :=
      readText_ne_sizeFault (checkSize_of_le hstat (Int.not_lt.mp hle))
    unfold loadBy at hload
    split at hload
    next e herror =>
      obtain rfl : e = sizeFault file.path entry.size limit := Except.error.inj hload
      exact hread herror
    next =>
      split at hload
      next f hgrammar =>
        have hkind := Tree.kind_of_grammarOf hgrammar
        exact fault_ne_sizeFault (by simp [hkind]) (Except.error.inj hload)
      next g _ =>
        dsimp only at hload
        split at hload
        next => cases hload
        next f hprogram =>
          have hkind := Tree.kind_of_programWithin hprogram
          exact fault_ne_sizeFault (by simp [hkind]) (Except.error.inj hload)
  · intro hlt
    have hread : w.readText file.path (some limit) "utf-8" =
        .error (sizeFault file.path entry.size limit) := by
      rw [World.readText, checkSize_of_lt hstat hlt]
      rfl
    rw [loadBy, hread]

/-- Analysing a file fails to load it exactly if loading does, whatever was analysed
before. -/
theorem analyzeFile_eq_error_iff_tree {load : SourceFile → Loading} {p : Progress}
    {file : SourceFile} {e : Failure} (hloading : e.isLoading = true) :
    (analyzeFile load p file).start.1 = .error e ↔ (load file).tree = .error e := by
  obtain ⟨grammars, hattempt⟩ := yields_attemptFile load p file
  rw [(yields_analyzeFile_of_attempt hattempt).start.1, attempted]
  cases (load file).tree with
  | error cause => simp [Except.map]
  | ok tree =>
      dsimp only
      split
      next => simp [Except.map]
      next t cause _ =>
        -- what comes after loading fails for other reasons
        have hother : cause.toFailure ≠ e := by
          rintro rfl
          rw [isLoading_toFailure] at hloading
          cases hloading
        simp [Except.map, hother]

end Refusals

/-! ## Analyses -/

section Analyses

variable {w : World} {s : Settings} {root : Pathname}

/-- An analysis runs over its files with the limit of its settings. -/
theorem runSettingsBy_of_limit (load : Int → SourceFile → Loading) {limit : Int}
    {files : List SourceFile} (hroot : s.rootPath = .ok root)
    (hlimit : s.maxFileSizeBytes = .ok limit)
    (hfiles : (discover w s.patternTexts root s.excludePatterns).start.1 = .ok files) :
    (runSettingsBy (fun limit _ => load limit) w s).start.1 =
      (runFiles (load limit) files).start.1 := by
  have hrun : ∃ r done, (runFiles (load limit) files).Yields r done := by
    rcases yields_runFiles_cases (load limit) files with ⟨_, _, _, _, hrun⟩ | ⟨e, done, hrun⟩
    · exact ⟨_, _, hrun⟩
    · exact ⟨_, _, hrun⟩
  obtain ⟨r, done, hrun⟩ := hrun
  obtain ⟨found, hfound⟩ := exists_yields_discover w s.patternTexts root s.excludePatterns
  rw [hfound.start.1] at hfiles
  rw [hfiles] at hfound
  rw [(yields_runSettingsBy load hroot hlimit hfound hrun).start.1, hrun.start.1]

/-- An analysis without a limit ends before it looks for files. -/
theorem runSettingsBy_of_no_limit (load : Int → List Log.Record → SourceFile → Loading)
    {e : Failure} (hroot : s.rootPath = .ok root) (hlimit : s.maxFileSizeBytes = .error e) :
    (runSettingsBy load w s).start.1 = .error e := by
  have hcheck : (Task.check s.maxFileSizeBytes).Yields (.error e) [] := .check hlimit
  have hrun : (runSettingsBy load w s).Yields (.error e) [] :=
    Task.Yields.bind_silent (.check hroot) (Task.Yields.bind_silent (.tell _ _ _) hcheck.bind_error)
  exact hrun.start.1

end Analyses

/-- The size limit of settings, and what an analysis does with it, however files are loaded and
parsed. -/
structure ExactLimit (s : Settings) : Prop where
  /-- There is no limit in bytes exactly for the sizes that have none, each with its kind
  of failure, and then no file is analysed. -/
  undefined : ∀ kind, (∃ message, s.maxFileSizeBytes = .error (.unexpected kind message)) ↔
    Limitless s.maxFileSize kind
  ended : ∀ e, s.maxFileSizeBytes = .error e →
    ∀ (load : Int → List Log.Record → SourceFile → Loading) w root, s.rootPath = .ok root →
      (runSettingsBy load w s).start.1 = .error e
  /-- All other sizes are positive numbers, and the limit is the floor of the exact
  product. -/
  exact : (∀ kind, ¬ Limitless s.maxFileSize kind) → ∃ m : ℚ, s.maxFileSize.number? = some m ∧
    0 < m ∧ s.maxFileSizeBytes = .ok ⌊m * 2 ^ 20⌋
  /-- An analysis goes through its files with this limit. -/
  analysed : ∀ limit, s.maxFileSizeBytes = .ok limit →
    ∀ (load : Int → SourceFile → Loading) w root files, s.rootPath = .ok root →
      (discover w s.patternTexts root s.excludePatterns).start.1 = .ok files →
      (runSettingsBy (fun limit _ => load limit) w s).start.1 =
        (runFiles (load limit) files).start.1
  /-- A file is refused for its size exactly if it has more bytes than the exact product,
  whatever was analysed before it. -/
  refused : ∀ limit m, s.maxFileSizeBytes = .ok limit → s.maxFileSize.number? = some m →
    ∀ (parse : Parse) (w : World) (p : Progress) (file : SourceFile) (entry : Entry),
      w.stat file.path = .ok entry →
      ((analyzeFile (loadBy parse w (some limit)) p file).start.1 =
          .error (sizeFault file.path entry.size limit) ↔
        m * 2 ^ 20 < entry.size)

/-- The limit of checked settings is exact, if the size is a double that exists. -/
theorem exactLimit_of_checked {s : Settings} (hcheck : s.defect? = none)
    (hdouble : ∀ x, s.maxFileSize = .float x → x.WellFormed) : ExactLimit s := by
  have hsize : Config.UsableSize s.maxFileSize :=
    Settings.defect?_eq_none_iff.mp hcheck .maxFileSize
  have hcases := Settings.maxFileSizeBytes_cases hsize hdouble
  constructor
  · intro kind
    rcases hcases with ⟨other, message, hiff, hbytes⟩ | ⟨hnone, m, -, -, hbytes⟩
    · rw [hiff, hbytes]
      simp [eq_comm]
    · rw [hbytes]
      simp [hnone]
  · intro e he load w root hroot
    exact runSettingsBy_of_no_limit load hroot he
  · intro hlimit
    rcases hcases with ⟨other, message, hiff, hbytes⟩ | ⟨-, hexact⟩
    · exact absurd ((hiff other).mpr rfl) (hlimit other)
    · exact hexact
  · intro limit hlimit load w root files hroot hfiles
    exact runSettingsBy_of_limit load hroot hlimit hfiles
  · intro limit m hlimit hm parse w p file entry hstat
    rcases hcases with ⟨other, message, hiff, hbytes⟩ | ⟨-, m', hm', -, hbytes⟩
    · rw [hbytes] at hlimit
      cases hlimit
    · obtain rfl := Option.some.inj (hm'.symm.trans hm)
      obtain rfl := Except.ok.inj (hbytes.symm.trans hlimit)
      -- a whole number of bytes exceeds the product exactly if it exceeds its floor
      rw [analyzeFile_eq_error_iff_tree rfl, loadBy_eq_sizeFault_iff hstat, Int.floor_lt]
      rfl

/-- The limit of loaded settings is exact, if the caller gives doubles that exist. -/
theorem exactLimit_of_load {w : World} {env : Config.Environment} {file : Option Pathname}
    {caller : Config.Table} {s : Settings} (hcaller : caller.Genuine)
    (hload : Config.load w env file caller = .ok s) : ExactLimit s := by
  have hcheck : Ensures (Config.load w env file caller) fun s => s.defect? = none :=
    .bind_any fun l s hs => ((l.resolves.ok_iff s).mp hs).2.2
  refine exactLimit_of_checked (hcheck s hload) fun x hx => ?_
  have hgenuine : s.maxFileSize.Genuine :=
    Config.genuine_load w env file hcaller s hload .maxFileSize
  rw [hx] at hgenuine
  cases hgenuine with
  | float hdouble => exact hdouble

/-- The size limit is exact for all settings that pass the check with a number that
exists, and for all settings that are loaded, whatever the parser. -/
theorem size_limit_is_exact (s : Settings) :
    (s.defect? = none → (∀ x, s.maxFileSize = .float x → x.WellFormed) → ExactLimit s) ∧
    ∀ (w : World) (env : Config.Environment) (file : Option Pathname) (caller : Config.Table),
      caller.Genuine → Config.load w env file caller = .ok s → ExactLimit s :=
  ⟨exactLimit_of_checked, fun _ _ _ _ => exactLimit_of_load⟩

/-- The smallest double has a limit of no bytes, so that a file of one byte is refused.
The not-a-number passes the check and has no limit. -/
theorem size_limit_is_exact_at_ends :
    let tiny : Settings := .ofTable [("max_file_size_mb", .float (.finite false ⟨1⟩))]
    let senseless : Settings := .ofTable [("max_file_size_mb", .float .nan)]
    let w : World := { cwd := [], entries := [(["a.js"], .file [0x3b])] }
    let file : SourceFile := ⟨⟨.relative, ["a.js"]⟩, "a.js"⟩
    tiny.maxFileSizeBytes = .ok 0 ∧
    (analyzeFile (load w (some 0)) {} file).start.1 = .error (sizeFault file.path 1 0) ∧
    ∃ message, senseless.maxFileSizeBytes = .error (.unexpected .badValue message) := by
  intro tiny senseless w file
  have htiny : ExactLimit tiny := by
    refine (size_limit_is_exact tiny).1 (by decide +kernel) fun x hx => ?_
    cases hx
    exact .finite false (Nat.one_dvd 1) (by decide +kernel)
  have hsenseless : ExactLimit senseless := by
    refine (size_limit_is_exact senseless).1 (by decide +kernel) fun x hx => ?_
    cases hx
    exact .nan
  have hlimit : tiny.maxFileSizeBytes = .ok 0 := by decide +kernel
  have hstat : w.stat file.path = .ok (.file [0x3b]) := by
    simp [w, file, World.stat, World.locate, World.walk, World.entryAt, Pathname.isAbsolute]
  refine ⟨hlimit, ?_, (hsenseless.undefined .badValue).mpr .nan⟩
  have hsmall : (2 : ℚ) ^ 20 < Number.unitsPerOne := by
    have hnat : 2 ^ 20 < Number.unitsPerOne := by decide +kernel
    exact_mod_cast hnat
  have hpos : (0 : ℚ) < Number.unitsPerOne := lt_trans (by positivity) hsmall
  have hbytes : ((1 : Nat) / Number.unitsPerOne : ℚ) * 2 ^ 20 < (1 : Nat) := by
    rw [div_mul_eq_mul_div, Nat.cast_one, one_mul, div_lt_one hpos]
    exact hsmall
  exact (htiny.refused 0 _ hlimit rfl Script.parse w {} file _ hstat).mpr hbytes

end Run
end ContractAudit
