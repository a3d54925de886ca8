import Mathlib.Data.List.Sort
import Mathlib.Data.String.Basic
import ContractAudit.Run.Discovery
import ContractAudit.Proofs.Files.RelativePath
import ContractAudit.Proofs.Run.Journal

/-!
# Discovery is a sorted set

Patterns overlap, and nothing is known about the order in which the paths of a
pattern are enumerated.  The files found do not depend on either: they are the
regular files that some pattern selects and no pattern excludes, each once and
in the order of their labels.  A list of this kind is determined by its labels,
so that runs with the same patterns, the same exclusions and the same
enumerated paths, in any order and any number, find the same files.

Main results:

- Theorem {lit}`yields_siftAll`: the files that the patterns keep are added one
  by one.
- Theorem {lit}`Listing.unique`: a listing is determined by its labels.
- Theorem {lit}`discovery_is_sorted_set`: what discovery finds, and that another
  order of anything changes nothing.
-/

namespace ContractAudit
namespace Run

open Files
open Config (Value)

/-! ## Adding files one by one -/

section Adding

variable {files found : List SourceFile} {file : SourceFile}

/-- The labels after one more file. -/
theorem mem_labels_addFile (found : List SourceFile) (file : SourceFile) (label : String) :
    label ∈ (addFile found file).map SourceFile.label ↔
      label ∈ found.map SourceFile.label ∨ label = file.label := by
  unfold addFile
  split
  next hknown =>
    have hmem : file.label ∈ found.map SourceFile.label := by
      obtain ⟨other, hother, hlabel⟩ := List.any_eq_true.mp hknown
      exact List.mem_map.mpr ⟨other, hother, beq_iff_eq.mp hlabel⟩
    constructor
    · exact .inl
    · rintro (h | rfl)
      · exact h
      · exact hmem
  next => simp

/-- One more file leaves the labels different from each other. -/
theorem nodup_labels_addFile (h : (found.map SourceFile.label).Nodup) (file : SourceFile) :
    ((addFile found file).map SourceFile.label).Nodup := by
  unfold addFile
  split
  next => exact h
  next hnew =>
    have hnotMem : file.label ∉ found.map SourceFile.label := by
      intro hmem
      obtain ⟨other, hother, hlabel⟩ := List.mem_map.mp hmem
      exact hnew (List.any_eq_true.mpr ⟨other, hother, beq_iff_eq.mpr hlabel⟩)
    rw [List.map_append, List.map_singleton]
    exact List.Nodup.append h (List.nodup_singleton _) (by simpa using hnotMem)

/-- No other file is there after one more file. -/
theorem mem_of_mem_addFile {other : SourceFile} (h : other ∈ addFile found file) :
    other ∈ found ∨ other = file := by
  unfold addFile at h
  split at h
  next => exact .inl h
  next => simpa using h

/-- The labels after more files. -/
theorem mem_labels_foldl_addFile (files found : List SourceFile) (label : String) :
    label ∈ (files.foldl addFile found).map SourceFile.label ↔
      label ∈ found.map SourceFile.label ∨ label ∈ files.map SourceFile.label := by
  induction files generalizing found with
  | nil => simp
  | cons file files ih =>
      rw [List.foldl_cons, ih, mem_labels_addFile, List.map_cons, List.mem_cons, or_assoc]

/-- More files leave the labels different from each other. -/
theorem nodup_labels_foldl_addFile (h : (found.map SourceFile.label).Nodup)
    (files : List SourceFile) : ((files.foldl addFile found).map SourceFile.label).Nodup := by
  induction files generalizing found with
  | nil => exact h
  | cons file files ih => exact ih (nodup_labels_addFile h file)

/-- No other file is there after more files. -/
theorem mem_of_mem_foldl_addFile {other : SourceFile} (h : other ∈ files.foldl addFile found) :
    other ∈ found ∨ other ∈ files := by
  induction files generalizing found with
  | nil => exact .inl h
  | cons file files ih =>
      rcases ih h with hadded | hrest
      · rcases mem_of_mem_addFile hadded with hfound | rfl
        · exact .inl hfound
        · exact .inr List.mem_cons_self
      · exact .inr (List.mem_cons_of_mem file hrest)

end Adding

/-! ## The order of labels -/

/-- Files with different labels are put into strict order. -/
theorem pairwise_inLabelOrder {found : List SourceFile}
    (h : (found.map SourceFile.label).Nodup) :
    (inLabelOrder found).Pairwise fun a b => a.label < b.label := by
  have hsorted : (inLabelOrder found).Pairwise fun a b => a.label ≤ b.label := by
    have hmerge : (inLabelOrder found).Pairwise fun a b => decide (a.label ≤ b.label) = true :=
      List.pairwise_mergeSort
        (fun a b c hab hbc => by
          simpa using le_trans (of_decide_eq_true hab) (of_decide_eq_true hbc))
        (fun a b => by simpa using le_total a.label b.label) found
    exact hmerge.imp of_decide_eq_true
  have hnodup : ((inLabelOrder found).map SourceFile.label).Nodup :=
    ((List.mergeSort_perm found _).map SourceFile.label).nodup_iff.mpr h
  have hne : (inLabelOrder found).Pairwise fun a b => a.label ≠ b.label :=
    List.pairwise_map.mp hnodup
  exact hsorted.imp₂ (fun _ _ => lt_of_le_of_ne) hne

/-! ## One pattern after the other -/

section Sifting

variable {w : World} {root : Pathname} {excludes : List String}

/-- Whether a path below the root is kept: a regular file, no link and not excluded. -/
def isKept (w : World) (root : Pathname) (excludes : List String) (r : RelativePath) : Bool :=
  w.isFile (r.below root) && !w.isLink (r.below root) && !isExcluded r.text excludes

/-- The file at a path below the root. -/
def fileBelow (root : Pathname) (r : RelativePath) : SourceFile :=
  ⟨r.below root, r.text⟩

/-- The files that are kept of some paths below the root. -/
def keptFiles (w : World) (root : Pathname) (excludes : List String)
    (paths : List RelativePath) : List SourceFile :=
  (paths.filter (isKept w root excludes)).map (fileBelow root)

theorem keptFiles_cons_of_neg {r : RelativePath} (h : isKept w root excludes r = false)
    (paths : List RelativePath) :
    keptFiles w root excludes (r :: paths) = keptFiles w root excludes paths := by
  rw [keptFiles, List.filter_cons_of_neg (by simp [h]), keptFiles]

theorem keptFiles_cons_of_pos {r : RelativePath} (h : isKept w root excludes r = true)
    (paths : List RelativePath) :
    keptFiles w root excludes (r :: paths) =
      fileBelow root r :: keptFiles w root excludes paths := by
  rw [keptFiles, List.filter_cons_of_pos h, List.map_cons, keptFiles]

/-- The label of a path below the root is the text of the rest of the path. -/
theorem labelBelow_below (root : Pathname) (r : RelativePath) :
    labelBelow root (r.below root) = r.text := by
  rw [labelBelow, RelativePath.below_eq, List.drop_left]
  rfl

/-- With texts as exclusions every path below the root is ignored, excluded or kept. -/
theorem sight_below (w : World) (root : Pathname) (excludes : List String) (r : RelativePath) :
    sight w root (excludes.map Value.text) (r.below root) =
      .ok (if w.isLink (r.below root) || !w.isFile (r.below root) then .ignored
        else if isExcluded r.text excludes then .excluded r.text
        else .kept (fileBelow root r)) := by
  unfold sight
  split
  next => rfl
  next =>
    simp only [labelBelow_below, isExcludedBy_texts, bind, Except.bind]
    split <;> rfl

/-- The kept files of one pattern are added one by one. -/
theorem yields_sift (paths : List RelativePath) (found : List SourceFile) (count : Nat) :
    (sift w root (excludes.map Value.text) (paths.map (RelativePath.below root)) found count).Yields
      (.ok ((keptFiles w root excludes paths).foldl addFile found,
        count + (keptFiles w root excludes paths).length)) [] := by
  induction paths generalizing found count with
  | nil => exact .pure _
  | cons r paths ih =>
      refine Task.Yields.bind_silent (.check (sight_below w root excludes r)) ?_
      by_cases hignored : (w.isLink (r.below root) || !w.isFile (r.below root)) = true
      · have hkept : isKept w root excludes r = false := by
          rcases Bool.or_eq_true_iff.mp hignored with hlink | hfile
          · simp [isKept, hlink]
          · simp_all [isKept]
        rw [if_pos hignored, keptFiles_cons_of_neg hkept]
        exact ih found count
      · by_cases hexcluded : isExcluded r.text excludes = true
        · have hkept : isKept w root excludes r = false := by simp [isKept, hexcluded]
          rw [if_neg hignored, if_pos hexcluded, keptFiles_cons_of_neg hkept]
          exact Task.Yields.bind_silent (.tell _ _ _) (ih found count)
        · have hkept : isKept w root excludes r = true := by simp_all [isKept]
          have hcount : count + (fileBelow root r :: keptFiles w root excludes paths).length =
              count + 1 + (keptFiles w root excludes paths).length := by
            rw [List.length_cons]
            omega
          rw [if_neg hignored, if_neg hexcluded, keptFiles_cons_of_pos hkept, List.foldl_cons,
            hcount]
          exact ih (addFile found (fileBelow root r)) (count + 1)

/-- An expansion enumerates, for each of some patterns, paths below a root. -/
def Enumerates (root : Pathname) (expand : Expansion) (enumerate : String → List RelativePath)
    (patterns : List String) : Prop :=
  ∀ pattern ∈ patterns, expand pattern = .ok ((enumerate pattern).map (RelativePath.below root))

/-- The kept files of all patterns are added one by one. -/
theorem yields_siftAll {expand : Expansion} {enumerate : String → List RelativePath}
    {patterns : List String} (h : Enumerates root expand enumerate patterns)
    (found : List SourceFile) :
    (siftAll w root expand (excludes.map Value.text) patterns found).Yields
      (.ok ((patterns.flatMap fun p => keptFiles w root excludes (enumerate p)).foldl
        addFile found)) [] := by
  induction patterns generalizing found with
  | nil => exact .pure _
  | cons pattern patterns ih =>
      have ih := ih fun p hp => h p (List.mem_cons_of_mem pattern hp)
      rw [List.flatMap_cons, List.foldl_append]
      refine Task.Yields.bind_silent (.check (h pattern List.mem_cons_self)) ?_
      refine Task.Yields.bind_silent (yields_sift (enumerate pattern) found 0) ?_
      -- a pattern that keeps nothing only adds a warning to the log
      dsimp only
      split
      · exact Task.Yields.bind_silent (.tell _ _ _) (ih _)
      · exact ih _

/-- Below a directory, discovery puts the kept files of all patterns into order. -/
theorem yields_discoverBy (hroot : w.isDirectory root = true) {expand : Expansion}
    {enumerate : String → List RelativePath} {patterns : List String}
    (h : Enumerates root expand enumerate patterns) (excludes : List String) :
    (discoverBy expand w patterns root (.texts excludes)).Yields
      (.ok (inLabelOrder ((patterns.flatMap fun p => keptFiles w root excludes (enumerate p)).foldl
        addFile []))) [] := by
  unfold discoverBy
  rw [hroot]
  exact Task.Yields.bind_silent (.check rfl)
    (Task.Yields.bind_silent (yields_siftAll h []) (.pure _))

end Sifting

/-! ## Listings -/

/-- A listing of the files with some labels below a root: in strict order of the
labels, each file at the path that its label spells. -/
structure Listing (root : Pathname) (selected : String → Prop) (files : List SourceFile) :
    Prop where
  increasing : files.Pairwise fun a b => a.label < b.label
  path_eq : ∀ file ∈ files, file.path = root.join (Pathname.parse file.label)
  mem_iff : ∀ label, label ∈ files.map SourceFile.label ↔ selected label

/-- A listing is determined by its labels. -/
theorem Listing.unique {root : Pathname} {selected : String → Prop}
    {files files' : List SourceFile} (h : Listing root selected files)
    (h' : Listing root selected files') : files = files' := by
  have hasymm : ∀ a b : SourceFile, a.label < b.label → b.label < a.label → a = b :=
    fun a b hab hba => absurd hba (String.lt_asymm hab)
  have hnodup {fs : List SourceFile} (hfs : Listing root selected fs) : fs.Nodup := by
    refine hfs.increasing.imp fun {a b} hlt heq => ?_
    subst heq
    exact String.lt_irrefl _ hlt
  -- a file is its label, put below the root
  have hsubset {fs gs : List SourceFile} (hfs : Listing root selected fs)
      (hgs : Listing root selected gs) : ∀ file ∈ fs, file ∈ gs := by
    intro file hfile
    have hlabel : file.label ∈ gs.map SourceFile.label :=
      (hgs.mem_iff _).mpr ((hfs.mem_iff _).mp (List.mem_map_of_mem hfile))
    obtain ⟨other, hother, heq⟩ := List.mem_map.mp hlabel
    have hpath : other.path = file.path := by
      rw [hgs.path_eq other hother, hfs.path_eq file hfile, heq]
    obtain rfl : other = file := by
      cases other
      cases file
      simp_all
    exact hother
  have hperm : files.Perm files' :=
    (List.perm_ext_iff_of_nodup (hnodup h) (hnodup h')).mpr fun file =>
      ⟨hsubset h h' file, hsubset h' h file⟩
  exact hperm.eq_of_pairwise (fun a b _ _ => hasymm a b) h.increasing h'.increasing

/-- Whether discovery selects a label: it is the text of a path that some pattern
enumerates, at which there is a regular file, no link, and it is not excluded. -/
def Selects (w : World) (root : Pathname) (enumerate : String → List RelativePath)
    (patterns excludes : List String) (label : String) : Prop :=
  ∃ pattern ∈ patterns, ∃ r ∈ enumerate pattern, r.text = label ∧
    w.isFile (r.below root) = true ∧ w.isLink (r.below root) = false ∧
    isExcluded label excludes = false

/-- Discovery below a directory finds the listing of the selected labels. -/
theorem exists_listing {w : World} {root : Pathname} (hroot : w.isDirectory root = true)
    {expand : Expansion} {enumerate : String → List RelativePath} {patterns : List String}
    (h : Enumerates root expand enumerate patterns) (excludes : List String) :
    ∃ files, (discoverBy expand w patterns root (.texts excludes)).start.1 = .ok files ∧
      Listing root (Selects w root enumerate patterns excludes) files := by
  let kept := patterns.flatMap fun p => keptFiles w root excludes (enumerate p)
  have hkept : ∀ file, file ∈ kept ↔ ∃ pattern ∈ patterns, ∃ r ∈ enumerate pattern,
      isKept w root excludes r = true ∧ fileBelow root r = file := by
    intro file
    simp only [kept, keptFiles, List.mem_flatMap, List.mem_map, List.mem_filter, and_assoc]
  have hyields : (discoverBy expand w patterns root (.texts excludes)).Yields
      (.ok (inLabelOrder (kept.foldl addFile []))) [] := yields_discoverBy hroot h excludes
  have hperm : (inLabelOrder (kept.foldl addFile [])).Perm (kept.foldl addFile []) :=
    List.mergeSort_perm _ _
  refine ⟨_, hyields.start.1, ?_, ?_, ?_⟩
  · exact pairwise_inLabelOrder (nodup_labels_foldl_addFile (by simp) kept)
  · intro file hfile
    have hmem : file ∈ kept := by
      simpa using mem_of_mem_foldl_addFile (hperm.mem_iff.mp hfile)
    obtain ⟨pattern, -, r, -, -, rfl⟩ := (hkept file).mp hmem
    rw [fileBelow, r.parse_text]
    rfl
  · intro label
    rw [(hperm.map SourceFile.label).mem_iff, mem_labels_foldl_addFile]
    simp only [List.map_nil, List.not_mem_nil, false_or, List.mem_map, hkept]
    constructor
    · rintro ⟨file, ⟨pattern, hpattern, r, hr, hrkept, rfl⟩, rfl⟩
      simp only [isKept, Bool.and_eq_true, Bool.not_eq_true'] at hrkept
      exact ⟨pattern, hpattern, r, hr, rfl, hrkept.1.1, hrkept.1.2, hrkept.2⟩
    · rintro ⟨pattern, hpattern, r, hr, rfl, hfile, hlink, hexcluded⟩
      exact ⟨fileBelow root r, ⟨pattern, hpattern, r, hr,
        by simp [isKept, hfile, hlink, hexcluded], rfl⟩, rfl⟩

/-- What excludes a label depends on which patterns there are, not on their order. -/
theorem isExcluded_congr {excludes excludes' : List String}
    (h : ∀ e, e ∈ excludes' ↔ e ∈ excludes) (label : String) :
    isExcluded label excludes' = isExcluded label excludes := by
  rw [Bool.eq_iff_iff, isExcluded, isExcluded, List.any_eq_true, List.any_eq_true]
  simp only [h]

/-- What is selected depends on which patterns, paths and exclusions there are. -/
theorem selects_congr {w : World} {root : Pathname}
    {enumerate enumerate' : String → List RelativePath}
    {patterns patterns' excludes excludes' : List String}
    (hpatterns : ∀ p, p ∈ patterns' ↔ p ∈ patterns)
    (hpaths : ∀ p ∈ patterns, ∀ r, r ∈ enumerate' p ↔ r ∈ enumerate p)
    (hexcludes : ∀ e, e ∈ excludes' ↔ e ∈ excludes) :
    Selects w root enumerate' patterns' excludes' = Selects w root enumerate patterns excludes := by
  funext label
  rw [Selects, Selects, isExcluded_congr hexcludes]
  apply propext
  constructor
  · rintro ⟨p, hp, r, hr, hrest⟩
    have hp := (hpatterns p).mp hp
    exact ⟨p, hp, r, (hpaths p hp r).mp hr, hrest⟩
  · rintro ⟨p, hp, r, hr, hrest⟩
    exact ⟨p, (hpatterns p).mpr hp, r, (hpaths p hp r).mpr hr, hrest⟩

/-- Below a directory, discovery finds the listing of the selected labels, and it
finds the same files with the patterns, the exclusions and the enumerated paths
in any other order and number. -/
theorem discovery_is_sorted_set {w : World} {root : Pathname} (hroot : w.isDirectory root = true)
    {expand : Expansion} {enumerate : String → List RelativePath} {patterns : List String}
    (h : Enumerates root expand enumerate patterns) (excludes : List String) :
    ∃ files, (discoverBy expand w patterns root (.texts excludes)).start.1 = .ok files ∧
      Listing root (Selects w root enumerate patterns excludes) files ∧
      ∀ (expand' : Expansion) (enumerate' : String → List RelativePath)
        (patterns' excludes' : List String), Enumerates root expand' enumerate' patterns' →
        (∀ p, p ∈ patterns' ↔ p ∈ patterns) →
        (∀ p ∈ patterns, ∀ r, r ∈ enumerate' p ↔ r ∈ enumerate p) →
        (∀ e, e ∈ excludes' ↔ e ∈ excludes) →
        (discoverBy expand' w patterns' root (.texts excludes')).start.1 = .ok files := by
  obtain ⟨files, hfiles, hlisting⟩ := exists_listing hroot h excludes
  refine ⟨files, hfiles, hlisting, ?_⟩
  intro expand' enumerate' patterns' excludes' h' hpatterns hpaths hexcludes
  obtain ⟨files', hfiles', hlisting'⟩ := exists_listing hroot h' excludes'
  rw [selects_congr hpatterns hpaths hexcludes] at hlisting'
  rw [hfiles', hlisting'.unique hlisting]

/-- Two files and a link, which one of the patterns enumerates in another order than
that of their labels: the files are found in the order of their labels, also with
the patterns turned around and repeated. -/
theorem discovery_is_sorted_set_overlapping :
    let w : World := {
      cwd := []
      entries := [(["b"], .file []), (["a"], .file []), (["c"], .link "a")] }
    let first : SourceFile := ⟨⟨.relative, ["a"]⟩, "a"⟩
    let second : SourceFile := ⟨⟨.relative, ["b"]⟩, "b"⟩
    w.isDirectory .here = true ∧
      w.glob .here "*" = .ok [⟨.relative, ["b"]⟩, ⟨.relative, ["a"]⟩, ⟨.relative, ["c"]⟩] ∧
      (discover w ["*", "a"] .here (.texts [])).start.1 = .ok [first, second] ∧
      (discover w ["a", "*", "a"] .here (.texts [])).start.1 = .ok [first, second] := by
  intro w first second
  let a : RelativePath := ⟨["a"], by decide⟩
  let b : RelativePath := ⟨["b"], by decide⟩
  let c : RelativePath := ⟨["c"], by decide⟩
  let enumerate : String → List RelativePath := fun p => if p = "*" then [b, a, c] else [a]
  -- the world as far as the patterns lead
  have hroot : w.isDirectory .here = true := by
    simp [World.isDirectory, World.stat, World.locate, World.walk, World.entryAt, Pathname.here,
      Pathname.isAbsolute, w]
  have hlisting : w.listing .here = ["b", "a", "c"] := by
    simp [World.listing, World.locate, World.walk, World.entryAt, World.childName?, Pathname.here,
      Pathname.isAbsolute, w]
  have hstat : ∀ name ∈ ["a", "b"], w.stat ⟨.relative, [name]⟩ = .ok (.file []) ∧
      w.isLink ⟨.relative, [name]⟩ = false := by
    simp [World.stat, World.isLink, World.locate, World.walk, World.entryAt, Pathname.isAbsolute,
      List.lookup_cons, w]
  have hlink : w.isLink ⟨.relative, ["c"]⟩ = true := by
    simp [World.isLink, World.locate, World.walk, World.entryAt, Pathname.isAbsolute,
      List.lookup_cons, w]
  have hbelow : a.below .here = ⟨.relative, ["a"]⟩ ∧ b.below .here = ⟨.relative, ["b"]⟩ ∧
      c.below .here = ⟨.relative, ["c"]⟩ := by decide
  have hkept : isKept w .here [] a = true ∧ isKept w .here [] b = true ∧
      isKept w .here [] c = false := by
    simp [isKept, hbelow, World.isFile, hstat, hlink, isExcluded]
  -- what the two patterns enumerate
  have hall : w.glob .here "*" =
      .ok [⟨.relative, ["b"]⟩, ⟨.relative, ["a"]⟩, ⟨.relative, ["c"]⟩] := by
    have hparse : Selector.parse "*" = .ok [.wild [.star]] := by decide +kernel
    have haccepts : (["b", "a", "c"].filter fun name => Glob.accepts [.star] name.toList) =
        ["b", "a", "c"] := by decide
    simp only [World.glob, hparse, hroot, World.select, hlisting, haccepts]
    rfl
  have hone : w.glob .here "a" = .ok [⟨.relative, ["a"]⟩] := by
    have hparse : Selector.parse "a" = .ok [.exact "a"] := by decide +kernel
    have hhas : w.has (Pathname.here.child "a") = true := by
      have hfound : w.stat (Pathname.here.child "a") = .ok (.file []) := (hstat "a" (by simp)).1
      rw [World.has, hfound]
    simp only [World.glob, hparse, hroot, World.select, hhas]
    rfl
  have henumerates : ∀ patterns : List String, (∀ p ∈ patterns, p = "*" ∨ p = "a") →
      Enumerates .here (w.glob .here) enumerate patterns := by
    intro patterns hpatterns p hp
    rcases hpatterns p hp with rfl | rfl
    · exact hall
    · exact hone
  have hresult : (discover w ["*", "a"] .here (.texts [])).start.1 = .ok [first, second] := by
    have horder : ¬ "b" ≤ "a" := by decide +kernel
    have htexts : a.text = "a" ∧ b.text = "b" := by decide
    rw [discover, (yields_discoverBy hroot (henumerates ["*", "a"] (by simp)) []).start.1]
    simp [enumerate, keptFiles, hkept, addFile, fileBelow, hbelow, htexts, inLabelOrder,
      List.mergeSort, horder, first, second]
  obtain ⟨files, hfiles, -, hsame⟩ :=
    discovery_is_sorted_set hroot (henumerates ["*", "a"] (by simp)) []
  obtain rfl : files = [first, second] := Except.ok.inj (hfiles.symm.trans hresult)
  exact ⟨hroot, hall, hresult, hsame _ _ ["a", "*", "a"] [] (henumerates _ (by simp))
    (by simp [or_comm]) (fun _ _ _ => Iff.rfl) (fun _ => Iff.rfl)⟩

end Run
end ContractAudit
