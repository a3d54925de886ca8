import ContractAudit.Proofs.Run.Contract
import ContractAudit.Proofs.Tree.Extraction
import ContractAudit.Proofs.Tree.Preorder

/-!
# Files that cannot be loaded leave no trace

A file that cannot be read, whose language is not supported or that cannot be
parsed fails before anything is counted, so the tally after the failure is the
one before it.  A caller may therefore note such failures and go on.  However
failing and succeeding files alternate, the rows are then those of the files
that succeeded, each with the counts of its own tree, and the total adds them
up.  Other failures, of counts too large for a double or of foreign values,
may come after the counting and end the sequence.

Main results:

- Theorem {lit}`attempted_unchanged`: a failure to load changes no tally.
- Theorem {lit}`yields_analyzeEach`: what a caller finds who goes on.
- Theorem {lit}`failing_files_leave_no_trace`: the law for single files and for
  all sequences of files.
-/

namespace ContractAudit

open Coverage (TallyError)

/-! ## Failures to load a file -/

/-- Whether a failure is that of loading a file: it cannot be read, its language is not
supported, or it cannot be parsed. -/
def Failure.isLoading : Failure → Bool
  | .fault f => [FaultKind.fileAccess, .unsupportedLanguage, .parsing].contains f.kind
  | .unexpected _ _ => false

/-- What a tally refuses is no failure to load a file. -/
theorem isLoading_toFailure (e : TallyError) : e.toFailure.isLoading = false := by
  cases e with
  | finalized label => rfl
  | totalRecorded => rfl
  | ratio cause => cases cause <;> rfl
  | notANode type => rfl

namespace Run

open Files (SourceFile World Pathname)
open Coverage (Row Tally Representable totalLabel)
open ContractAudit.Tree (Node)

variable {load : SourceFile → Loading} {p : Progress} {file : SourceFile}
  {files : List SourceFile} {row : Row} {e : Failure}

/-- A size that is not accepted is a failure to load. -/
theorem isLoading_of_checkSize {w : World} {path : Pathname} {limit : Option Int}
    (h : w.checkSize path limit = .error e) : e.isLoading = true := by
  cases limit with
  | none => cases h
  | some limit =>
      unfold World.checkSize at h
      dsimp only at h
      split at h
      next =>
        obtain rfl := Except.error.inj h
        rfl
      next =>
        split_ifs at h
        obtain rfl := Except.error.inj h
        rfl

/-- A text that cannot be read is a failure to load. -/
theorem isLoading_of_readText {w : World} {path : Pathname} {limit : Option Int}
    (h : w.readText path limit "utf-8" = .error e) : e.isLoading = true := by
  have hencoding : Text.Encoding.ofName? "utf-8" = some .utf8 := by decide +kernel
  unfold World.readText at h
  cases hsize : w.checkSize path limit with
  | error cause =>
      rw [hsize] at h
      obtain rfl : cause = e := Except.error.inj h
      exact isLoading_of_checkSize hsize
  | ok done =>
      rw [hsize, hencoding] at h
      dsimp only [bind, Except.bind] at h
      split at h
      next =>
        obtain rfl := Except.error.inj h
        rfl
      next =>
        split at h
        next => cases h
        next =>
          obtain rfl := Except.error.inj h
          rfl

/-- With any parser, a file of a file system is loaded as a tree without foreign values, or
it fails to load. -/
theorem loadBy_cases (parse : Parse) (w : World) (limit : Option Int) (file : SourceFile) :
    (∃ e, (loadBy parse w limit file).tree = .error e ∧ e.isLoading = true) ∨
      ∃ tree, (loadBy parse w limit file).tree = .ok tree ∧ tree.Whole := by
  cases htree : (loadBy parse w limit file).tree with
  | ok tree => exact .inr ⟨tree, rfl, whole_of_loadBy htree⟩
  | error e =>
      refine .inl ⟨e, rfl, ?_⟩
      unfold loadBy at htree
      split at htree
      next cause hread =>
        obtain rfl : cause = e := Except.error.inj htree
        exact isLoading_of_readText hread
      next =>
        split at htree
        next f hgrammar =>
          obtain rfl := Except.error.inj htree
          simp [Failure.isLoading, Tree.kind_of_grammarOf hgrammar]
        next =>
          dsimp only at htree
          split at htree
          next => cases htree
          next f hprogram =>
            obtain rfl := Except.error.inj htree
            simp [Failure.isLoading, Tree.kind_of_programWithin hprogram]

/-! ## One file -/

/-- A failure to load leaves every tally as it was. -/
theorem attempted_unchanged {t : Tally} (h : (attempted load t file).1 = .error e)
    (hloading : e.isLoading = true) : (attempted load t file).2 = t := by
  unfold attempted at h ⊢
  cases htree : (load file).tree with
  | error cause => rfl
  | ok tree =>
      rw [htree] at h
      dsimp only at h ⊢
      split at h
      next => cases h
      next t' cause happly =>
        -- What comes after loading fails for other reasons.
        obtain rfl : cause.toFailure = e := Except.error.inj h
        rw [isLoading_toFailure] at hloading
        cases hloading

/-- On an open tally the outcome of a file is that of the file on its own. -/
theorem attempted_fst {t : Tally} (hopen : t.finalized = false) :
    (attempted load t file).1 = ownRow load file := by
  cases hrow : ownRow load file with
  | ok row => rw [attempted_of_ownRow hopen hrow]
  | error e => exact attempted_of_ownRow_error hopen hrow

/-- Analysing a file fails exactly as the attempt at it does. -/
theorem analyzeFile_eq_error_iff (load : SourceFile → Loading) (p : Progress) (file : SourceFile)
    (j : Journal) (e : Failure) :
    ((analyzeFile load p file).run.run j).1 = .error e ↔
      ∃ p', ((attemptFile load p file).run.run j).1 = .ok (.error e, p') := by
  obtain ⟨grammars, hattempt⟩ := yields_attemptFile load p file
  rw [(yields_analyzeFile_of_attempt hattempt).result j, hattempt.result j]
  cases (attempted load p.tally file).1 with
  | ok row => simp [Except.map]
  | error cause => simp [Except.map]

/-- The tally after a failure to load is the one before it. -/
theorem tally_of_isLoading {j : Journal} {p' : Progress}
    (h : ((attemptFile load p file).run.run j).1 = .ok (.error e, p'))
    (hloading : e.isLoading = true) : p'.tally = p.tally := by
  obtain ⟨grammars, hattempt⟩ := yields_attemptFile load p file
  rw [hattempt.result j] at h
  obtain ⟨houtcome, rfl⟩ := Prod.mk.inj (Except.ok.inj h)
  exact attempted_unchanged houtcome hloading

/-! ## A caller who goes on -/

/-- What a caller lets pass who goes on after failures to load: such failures and rows. -/
def tolerated : Except Failure Row → Except Failure Unit
  | .ok _ => .ok ()
  | .error e => if e.isLoading then .ok () else .error e

/-- Analyses files in order and notes what comes of each.  A failure to load a file is noted
like a row; any other failure ends the sequence. -/
def analyzeEach (load : SourceFile → Loading) :
    Progress → List SourceFile → Task (List (SourceFile × Except Failure Row) × Progress)
  | p, [] => pure ([], p)
  | p, file :: rest => do
    let (outcome, p) ← attemptFile load p file
    Task.check (tolerated outcome)
    let (notes, p) ← analyzeEach load p rest
    return ((file, outcome) :: notes, p)

/-- The files that succeeded, with their rows. -/
def succeeded (notes : List (SourceFile × Except Failure Row)) : List (SourceFile × Row) :=
  notes.filterMap fun note => note.2.toOption.map (note.1, ·)

/-- What comes of each file on its own. -/
def ownOutcomes (load : SourceFile → Loading) (files : List SourceFile) :
    List (SourceFile × Except Failure Row) :=
  files.map fun file => (file, ownRow load file)

theorem succeeded_cons (note : SourceFile × Except Failure Row)
    (notes : List (SourceFile × Except Failure Row)) :
    succeeded (note :: notes) = succeeded [note] ++ succeeded notes := by
  simp only [succeeded, ← List.filterMap_append, List.singleton_append]

theorem ownOutcomes_cons (load : SourceFile → Loading) (file : SourceFile)
    (files : List SourceFile) :
    ownOutcomes load (file :: files) = (file, ownRow load file) :: ownOutcomes load files := rfl

theorem map_fst_ownOutcomes (load : SourceFile → Loading) (files : List SourceFile) :
    (ownOutcomes load files).map Prod.fst = files := by
  rw [ownOutcomes, List.map_map]
  exact List.map_id files

/-- An open tally takes in the row of a file, if there is one, and is not changed by a failure
to load it. -/
theorem attempted_of_tolerated {t : Tally} (hopen : t.finalized = false)
    (h : tolerated (ownRow load file) = .ok ()) :
    attempted load t file =
      (ownRow load file, absorb t ((succeeded [(file, ownRow load file)]).map Prod.snd)) := by
  refine Prod.ext (attempted_fst hopen) ?_
  cases hrow : ownRow load file with
  | ok row =>
      rw [attempted_of_ownRow hopen hrow]
      rfl
  | error e =>
      rw [hrow, tolerated] at h
      split_ifs at h with hloading
      rw [attempted_unchanged (attempted_of_ownRow_error hopen hrow) hloading]
      exact (absorb_nil t).symm

/-- Whoever goes on after failures to load finds what comes of each file on its own, and in the
tally the rows of the files that succeeded. -/
theorem yields_analyzeEach (hopen : p.tally.finalized = false)
    (h : ∀ file ∈ files, tolerated (ownRow load file) = .ok ()) :
    ∃ grammars, (analyzeEach load p files).Yields
      (.ok (ownOutcomes load files,
        { tally := absorb p.tally ((succeeded (ownOutcomes load files)).map Prod.snd),
          grammars := grammars })) [] := by
  induction files generalizing p with
  | nil =>
      have hnone : (succeeded (ownOutcomes load [])).map Prod.snd = [] := rfl
      refine ⟨p.grammars, ?_⟩
      rw [hnone, absorb_nil]
      exact .pure _
  | cons file files ih =>
      have hfile := h file List.mem_cons_self
      obtain ⟨grammars, hattempt⟩ := yields_attemptFile load p file
      rw [attempted_of_tolerated hopen hfile] at hattempt
      obtain ⟨grammars', hrest⟩ := @ih ⟨absorb p.tally _, grammars⟩ hopen
        fun f hf => h f (List.mem_cons_of_mem file hf)
      refine ⟨grammars', ?_⟩
      rw [ownOutcomes_cons, succeeded_cons, List.map_append, absorb_append]
      exact hattempt.bind_silent
        (Task.Yields.bind_silent (.check hfile) (hrest.bind_silent (.pure _)))

/-- Either all files have rows or fail to load, or another failure ends the sequence. -/
theorem tolerated_or_ended (load : SourceFile → Loading) (files : List SourceFile)
    (hopen : p.tally.finalized = false) :
    (∀ file ∈ files, tolerated (ownRow load file) = .ok ()) ∨
      ∃ e, (analyzeEach load p files).Yields (.error e) [] := by
  induction files generalizing p with
  | nil => exact .inl (by simp)
  | cons file files ih =>
      obtain ⟨grammars, hattempt⟩ := yields_attemptFile load p file
      cases hfile : tolerated (ownRow load file) with
      | error e =>
          rw [attempted_fst hopen] at hattempt
          have hcheck : (Task.check (tolerated (ownRow load file))).Yields (.error e) [] :=
            .check hfile
          exact .inr ⟨e, hattempt.bind_silent hcheck.bind_error⟩
      | ok passed =>
          rw [attempted_of_tolerated hopen hfile] at hattempt
          have hcheck : (Task.check (tolerated (ownRow load file))).Yields (.ok ()) [] :=
            .check hfile
          rcases @ih ⟨absorb p.tally _, grammars⟩ hopen with hrest | ⟨e, hended⟩
          · exact .inl (List.forall_mem_cons.2 ⟨hfile, hrest⟩)
          · exact .inr ⟨e, hattempt.bind_silent (hcheck.bind_silent hended.bind_error)⟩

/-- A caller who gets through has what comes of each file on its own, and in the tally the rows of
the files that succeeded. -/
theorem analyzeEach_eq_ok {notes : List (SourceFile × Except Failure Row)} {p : Progress}
    (h : (analyzeEach load {} files).start.1 = .ok (notes, p)) :
    notes = ownOutcomes load files ∧ p.tally = absorb {} ((succeeded notes).map Prod.snd) ∧
      ∀ file ∈ files, tolerated (ownRow load file) = .ok () := by
  rcases @tolerated_or_ended {} load files rfl with hall | ⟨e, hended⟩
  · obtain ⟨grammars, hyields⟩ := @yields_analyzeEach load {} files rfl hall
    rw [hyields.start.1] at h
    obtain ⟨rfl, rfl⟩ := Prod.mk.inj (Except.ok.inj h)
    exact ⟨rfl, rfl, hall⟩
  · rw [hended.start.1] at h
    cases h

/-! ## The files that succeeded -/

/-- A failure to load that a file has on its own comes from loading it. -/
theorem tree_of_isLoading (h : ownRow load file = .error e) (hloading : e.isLoading = true) :
    (load file).tree = .error e := by
  have hrefused (cause : TallyError) : cause.toFailure ≠ e := by
    rintro rfl
    rw [isLoading_toFailure] at hloading
    cases hloading
  unfold ownRow at h
  split at h
  next tree htree =>
    unfold treeRow at h
    split at h
    next => exact absurd (Except.error.inj h) (hrefused _)
    next =>
      split at h
      next => cases h
      next => exact absurd (Except.error.inj h) (hrefused _)
  next cause htree => rw [htree, ← Except.error.inj h]

/-- A file that fails to load, or that is loaded with counts that have a coverage. -/
def Passable (load : SourceFile → Loading) (file : SourceFile) : Prop :=
  (∃ e, (load file).tree = .error e ∧ e.isLoading = true) ∨
    ∃ tree, (load file).tree = .ok tree ∧ tree.Whole ∧
      Representable tree.functionCount tree.assertionCount

/-- What comes of a passable file is let pass. -/
theorem Passable.tolerated (h : Passable load file) :
    Run.tolerated (ownRow load file) = .ok () := by
  rcases h with ⟨e, htree, hloading⟩ | ⟨tree, htree, hwhole, hcounts⟩
  · rw [ownRow, htree]
    simp [Run.tolerated, hloading]
  · obtain ⟨row, hrow⟩ := Row.exists_ofCounts hcounts file.label
    rw [(ownRow_eq_ok_iff htree hwhole).2 hrow]
    rfl

/-- The files that succeeded have their own rows. -/
theorem haveRows_succeeded (load : SourceFile → Loading) (files : List SourceFile) :
    HaveRows load ((succeeded (ownOutcomes load files)).map Prod.fst)
      ((succeeded (ownOutcomes load files)).map Prod.snd) := by
  rw [HaveRows, List.forall₂_map_left_iff, List.forall₂_map_right_iff, List.forall₂_same]
  intro pair hpair
  obtain ⟨note, hnote, hsome⟩ := List.mem_filterMap.1 hpair
  obtain ⟨file, -, rfl⟩ := List.mem_map.1 hnote
  obtain ⟨row, hrow, rfl⟩ := Option.map_eq_some_iff.1 hsome
  cases hown : ownRow load file with
  | error e => simp [hown, Except.toOption] at hrow
  | ok row' => simpa [hown, Except.toOption] using hrow

/-- Files that have rows load as trees without foreign values. -/
theorem exists_loads_of_haveRows {rows : List Row} (h : HaveRows load files rows) :
    ∃ trees, Loads load files trees := by
  induction h with
  | nil => exact ⟨[], .nil⟩
  | @cons file row files rows hrow _ ih =>
      obtain ⟨trees, htrees⟩ := ih
      unfold ownRow at hrow
      split at hrow
      next tree htree =>
        have hwhole := Node.whole_of_stopped_eq_none (treeRow_eq_ok hrow).1
        exact ⟨tree :: trees, .cons ⟨htree, hwhole⟩ htrees⟩
      next => cases hrow

/-- The total row of a tally that has taken in rows is that of their sums. -/
theorem recordTotal_absorb_iff {rows : List Row} {total : Row} {t : Tally} :
    (absorb {} rows).recordTotal = .ok (total, t) ↔
      Row.ofCounts totalLabel (rows.map Row.functions).sum (rows.map Row.assertions).sum =
        .ok total ∧ t = (absorb {} rows).close total := by
  have hfunctions : (absorb {} rows).functions = (rows.map Row.functions).sum := by
    simp [absorb]
  have hassertions : (absorb {} rows).assertions = (rows.map Row.assertions).sum := by
    simp [absorb]
  constructor
  · intro h
    obtain ⟨-, rfl, hrow⟩ := Tally.recordTotal_eq_ok h
    rw [hfunctions, hassertions] at hrow
    exact ⟨hrow, rfl⟩
  · rintro ⟨hrow, rfl⟩
    rw [Tally.recordTotal_of_open rfl, hfunctions, hassertions, hrow]

/-- Every file is noted, and those noted with a failure could not be loaded. -/
theorem noted_of_analyzeEach {notes : List (SourceFile × Except Failure Row)}
    (h : (analyzeEach load {} files).start.1 = .ok (notes, p)) :
    notes.map Prod.fst = files ∧
      ∀ file e, (file, .error e) ∈ notes → (load file).tree = .error e ∧ e.isLoading = true := by
  obtain ⟨rfl, -, hall⟩ := analyzeEach_eq_ok h
  refine ⟨map_fst_ownOutcomes load files, fun file e hnote => ?_⟩
  obtain ⟨file', hfile, hpair⟩ := List.mem_map.1 hnote
  obtain ⟨rfl, hown⟩ := Prod.mk.inj hpair
  have hpassed := hall file' hfile
  rw [hown, tolerated] at hpassed
  split_ifs at hpassed with hloading
  exact ⟨tree_of_isLoading hown hloading, hloading⟩

/-- The files that succeeded are reported with the counts of their own trees, and a total row adds
them up. -/
theorem report_of_analyzeEach {notes : List (SourceFile × Except Failure Row)}
    (h : (analyzeEach load {} files).start.1 = .ok (notes, p)) :
    ∃ trees, Loads load ((succeeded notes).map Prod.fst) trees ∧
      p.tally.fileRows = (succeeded notes).map Prod.snd ∧
      ((∃ total t, p.tally.recordTotal = .ok (total, t)) ↔
        Representable (trees.map Node.functionCount).sum (trees.map Node.assertionCount).sum) ∧
      ∀ total t, p.tally.recordTotal = .ok (total, t) →
        t.fileRows = (succeeded notes).map Prod.snd ∧ t.totalRow = some total ∧
          Report ((succeeded notes).map Prod.fst) trees ((succeeded notes).map Prod.snd) total := by
  obtain ⟨rfl, htally, -⟩ := analyzeEach_eq_ok h
  have hrows := haveRows_succeeded load files
  obtain ⟨trees, hloads⟩ := exists_loads_of_haveRows hrows
  obtain ⟨-, hfunctions, hassertions, -⟩ := counts_of_rows hloads hrows
  rw [htally]
  refine ⟨trees, hloads, by simp [Tally.fileRows, absorb], ?_, ?_⟩
  · rw [← Row.exists_ofCounts_iff totalLabel, ← sum_counts hfunctions, ← sum_counts hassertions]
    constructor
    · rintro ⟨total, t, htotal⟩
      exact ⟨total, (recordTotal_absorb_iff.1 htotal).1⟩
    · rintro ⟨total, htotal⟩
      exact ⟨total, _, recordTotal_absorb_iff.2 ⟨htotal, rfl⟩⟩
  · intro total t htotal
    obtain ⟨hcounts, rfl⟩ := recordTotal_absorb_iff.1 htotal
    exact ⟨by simp [Tally.fileRows, absorb], by simp [Tally.totalRow, absorb],
      report_of_rows hloads hrows hcounts⟩

/-! ## The law -/

/-- What files leave behind that fail to load: nothing. -/
structure Traceless (load : SourceFile → Loading) : Prop where
  /-- Analysing a file fails exactly as the attempt at it does. -/
  raises : ∀ (p : Progress) (file : SourceFile) (j : Journal) (e : Failure),
    ((analyzeFile load p file).run.run j).1 = .error e ↔
      ∃ p', ((attemptFile load p file).run.run j).1 = .ok (.error e, p')
  /-- A file that fails to load changes neither the counters nor the rows nor the flag of a
  tally, whatever the tally. -/
  unchanged : ∀ (p : Progress) (file : SourceFile) (j : Journal) (e : Failure) (p' : Progress),
    ((attemptFile load p file).run.run j).1 = .ok (.error e, p') → e.isLoading = true →
      p'.tally = p.tally
  /-- A caller who goes on after failures to load, from a fresh tally, has noted every file; those
  noted with a failure could not be loaded. -/
  noted : ∀ files notes p, (analyzeEach load {} files).start.1 = .ok (notes, p) →
    notes.map Prod.fst = files ∧
      ∀ file e, (file, .error e) ∈ notes → (load file).tree = .error e ∧ e.isLoading = true
  /-- The rows are then those of the files that succeeded, in order, with the counts of their own
  trees, and the total row has the sums of these rows; there is a total row exactly if the sums
  have a coverage. -/
  reported : ∀ files notes p, (analyzeEach load {} files).start.1 = .ok (notes, p) →
    ∃ trees, Loads load ((succeeded notes).map Prod.fst) trees ∧
      p.tally.fileRows = (succeeded notes).map Prod.snd ∧
      ((∃ total t, p.tally.recordTotal = .ok (total, t)) ↔
        Representable (trees.map Node.functionCount).sum (trees.map Node.assertionCount).sum) ∧
      ∀ total t, p.tally.recordTotal = .ok (total, t) →
        t.fileRows = (succeeded notes).map Prod.snd ∧ t.totalRow = some total ∧
          Report ((succeeded notes).map Prod.fst) trees ((succeeded notes).map Prod.snd) total
  /-- Such a caller gets through all files if each of them fails to load or is loaded with counts
  that have a coverage. -/
  completes : ∀ files, (∀ file ∈ files, Passable load file) →
    ∃ notes p, (analyzeEach load {} files).start.1 = .ok (notes, p)

/-- Files that fail to load leave no trace, whatever loading gives; and loading from a file system,
with any parser, either gives a tree without foreign values or fails in one of these ways. -/
theorem failing_files_leave_no_trace (load : SourceFile → Loading) :
    Traceless load ∧ ∀ (parse : Parse) (w : World) (limit : Option Int) (file : SourceFile),
      (∃ e, (loadBy parse w limit file).tree = .error e ∧ e.isLoading = true) ∨
        ∃ tree, (loadBy parse w limit file).tree = .ok tree ∧ tree.Whole := by
  refine ⟨⟨analyzeFile_eq_error_iff load, ?_, ?_, ?_, ?_⟩, loadBy_cases⟩
  · intro p file j e p' hfailed hloading
    exact tally_of_isLoading hfailed hloading
  · intro files notes p h
    exact noted_of_analyzeEach h
  · intro files notes p h
    exact report_of_analyzeEach h
  · intro files hfiles
    obtain ⟨grammars, hyields⟩ :=
      @yields_analyzeEach load {} files rfl fun file hfile => (hfiles file hfile).tolerated
    exact ⟨_, _, hyields.start.1⟩

/-- Of three files the second cannot be parsed; the report has the rows of the others. -/
theorem failing_files_leave_no_trace_second :
    let bare (name : String) : Node := .program [.function name [] false false 1] 1
    let first : SourceFile := ⟨⟨.relative, ["a.js"]⟩, "a.js"⟩
    let second : SourceFile := ⟨⟨.relative, ["b.js"]⟩, "b.js"⟩
    let third : SourceFile := ⟨⟨.relative, ["c.js"]⟩, "c.js"⟩
    let unparsable : Failure :=
      .fault (.parsing second.path "javascript" "unexpected syntax" (some 1) (some 1))
    let load : SourceFile → Loading := fun file =>
      ⟨some .javascript, if file = second then .error unparsable else .ok (bare file.label)⟩
    ∃ notes p total t, (analyzeEach load {} [first, second, third]).start.1 = .ok (notes, p) ∧
      (succeeded notes).map Prod.fst = [first, third] ∧
      p.tally.recordTotal = .ok (total, t) ∧
      t.fileRows.map Row.label = ["a.js", "c.js"] ∧ total.functions = 2 := by
  intro bare first second third unparsable load
  have hfirst : (load first).tree = .ok (bare "a.js") := rfl
  have hthird : (load third).tree = .ok (bare "c.js") := rfl
  have hlaw := (failing_files_leave_no_trace load).1
  obtain ⟨notes, p, hrun⟩ := hlaw.completes [first, second, third] (by
    intro file hfile
    simp only [List.mem_cons, List.not_mem_nil, or_false] at hfile
    rcases hfile with rfl | rfl | rfl
    · exact .inr ⟨_, hfirst, by decide, by decide +kernel⟩
    · exact .inl ⟨unparsable, rfl, rfl⟩
    · exact .inr ⟨_, hthird, by decide, by decide +kernel⟩)
  obtain ⟨rfl, -, -⟩ := analyzeEach_eq_ok hrun
  have hsucceeded : (succeeded (ownOutcomes load [first, second, third])).map Prod.fst =
      [first, third] := by
    obtain ⟨row, hrow⟩ := @Row.exists_ofCounts 1 0 (by decide +kernel) "a.js"
    obtain ⟨row', hrow'⟩ := @Row.exists_ofCounts 1 0 (by decide +kernel) "c.js"
    have hown := (ownRow_eq_ok_iff hfirst (by decide)).2 hrow
    have hown' := (ownRow_eq_ok_iff hthird (by decide)).2 hrow'
    have hfailed : ownRow load second = .error unparsable := rfl
    simp [succeeded, ownOutcomes, hown, hown', hfailed, Except.toOption]
  obtain ⟨trees, hloads, -, hdefined, hreported⟩ := hlaw.reported _ _ _ hrun
  rw [hsucceeded] at hloads hreported
  obtain rfl : trees = [bare "a.js", bare "c.js"] := by
    cases hloads with
    | cons hhead htail =>
        cases htail with
        | cons hnext hnone =>
            cases hnone
            rw [Except.ok.inj (hfirst.symm.trans hhead.1),
              Except.ok.inj (hthird.symm.trans hnext.1)]
  obtain ⟨total, t, htotal⟩ := hdefined.2 (by decide +kernel)
  obtain ⟨hfileRows, -, hreport⟩ := hreported total t htotal
  refine ⟨_, p, total, t, hrun, hsucceeded, htotal, ?_, ?_⟩
  · rw [hfileRows, hreport.labels]
    rfl
  · rw [hreport.total_functions, hreport.functions]
    decide

end Run
end ContractAudit
