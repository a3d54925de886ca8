import Mathlib.Data.List.Pairwise
import ContractAudit.Proofs.Config.Validation
import ContractAudit.Proofs.Files.Selection
import ContractAudit.Proofs.Run.Discovery

/-!
# How far discovery reaches

In a tree without links, patterns that never go up find files below the root
only, and no file twice.  A pattern may go up all the same: the check of the
settings refuses absolute patterns, not those with a double dot, and a double
dot stays in the label of what is found.  Labels are compared as texts, so that
a file is found again under every way of spelling it, also outside the root.
These files are the only exceptions.

Main results:

- Theorem {lit}`confined_iff_of_listing`: only a file whose label goes up can lie
  outside the root or be found twice.
- Theorem {lit}`discovery_confined_unless_climbing`: what discovery finds for
  patterns that the check accepts.
-/

namespace ContractAudit
namespace Run

open Files
open Config (Value)

/-! ## Files below a root -/

/-- A path goes down from another one by at least one name, after dots are resolved. -/
def LiesBelow (w : World) (root path : Pathname) : Prop :=
  ∃ names, names ≠ [] ∧ w.placeOf path = w.placeOf root ++ names

/-- The files lie below the root, and no two of them are the same file. -/
structure Confined (w : World) (root : Pathname) (files : List SourceFile) : Prop where
  below : ∀ file ∈ files, LiesBelow w root file.path
  apart : files.Pairwise fun a b => w.placeOf a.path ≠ w.placeOf b.path

/-- A path text goes up somewhere. -/
def Climbs (text : String) : Prop :=
  ".." ∈ (Pathname.parse text).names

/-- A file lies below the root, and no other of the files is the same file. -/
structure InPlace (w : World) (root : Pathname) (files : List SourceFile) (file : SourceFile) :
    Prop where
  below : LiesBelow w root file.path
  alone : ∀ other ∈ files, w.placeOf other.path = w.placeOf file.path → other = file

/-- The label of a path goes up where the path does. -/
theorem climbs_text_iff (r : RelativePath) : Climbs r.text ↔ ".." ∈ r.names := by
  rw [Climbs, r.parse_text]
  rfl

section Listings

variable {w : World} {root : Pathname} {enumerate : String → List RelativePath}
  {patterns excludes : List String} {files : List SourceFile}

/-- In a tree without links the files of a listing are the regular files that some pattern
enumerates and none excludes. -/
theorem mem_listing_iff (h : w.Plain)
    (hlisting : Listing root (Selects w root enumerate patterns excludes) files)
    {file : SourceFile} :
    file ∈ files ↔ ∃ pattern ∈ patterns, ∃ r ∈ enumerate pattern, file = fileBelow root r ∧
      w.isFile (r.below root) = true ∧ isExcluded r.text excludes = false := by
  have hpath : ∀ {r : RelativePath} {other : SourceFile}, other ∈ files → other.label = r.text →
      other = fileBelow root r := by
    intro r other hother hlabel
    have hother := hlisting.path_eq other hother
    rw [hlabel, r.parse_text] at hother
    obtain ⟨path, label⟩ := other
    obtain rfl : label = r.text := hlabel
    obtain rfl : path = r.below root := hother
    rfl
  constructor
  · intro hfile
    obtain ⟨pattern, hpattern, r, hr, hlabel, hregular, -, hexcluded⟩ :=
      (hlisting.mem_iff file.label).1 (List.mem_map_of_mem hfile)
    exact ⟨pattern, hpattern, r, hr, hpath hfile hlabel.symm, hregular, hlabel ▸ hexcluded⟩
  · rintro ⟨pattern, hpattern, r, hr, rfl, hregular, hexcluded⟩
    obtain ⟨other, hother, hlabel⟩ := List.mem_map.1 ((hlisting.mem_iff r.text).2
      ⟨pattern, hpattern, r, hr, rfl, hregular, h.isLink_eq_false _, hexcluded⟩)
    exact hpath hother hlabel ▸ hother

/-- A file found without going up lies below the root. -/
theorem liesBelow_of_not_mem (hroot : w.isDirectory root = true)
    {r : RelativePath} (hregular : w.isFile (r.below root) = true) (hlevel : ".." ∉ r.names) :
    LiesBelow w root (r.below root) := by
  refine ⟨r.names, ?_, World.placeOf_descend hlevel w root⟩
  intro hnil
  have hself : r.below root = root := by rw [RelativePath.below_eq, hnil, List.append_nil]
  obtain ⟨content, hfile⟩ := World.isFile_iff_stat.1 hregular
  rw [hself, World.isDirectory_iff_stat.1 hroot] at hfile
  cases hfile

/-- Two files that are found without going up are different files. -/
theorem label_eq_of_placeOf_eq {r r' : RelativePath} (hlevel : ".." ∉ r.names)
    (hlevel' : ".." ∉ r'.names) (hplace : w.placeOf (r.below root) = w.placeOf (r'.below root)) :
    r.text = r'.text := by
  have hnames : w.placeOf root ++ r.names = w.placeOf root ++ r'.names := by
    rw [← World.placeOf_descend hlevel, ← World.placeOf_descend hlevel']
    exact hplace
  rw [RelativePath.text, RelativePath.text, RelativePath.toPathname, RelativePath.toPathname,
    List.append_cancel_left hnames]

/-- Only a file whose label goes up can lie outside the root or be found twice. -/
theorem confined_iff_of_listing (h : w.Plain) (hroot : w.isDirectory root = true)
    (hlisting : Listing root (Selects w root enumerate patterns excludes) files) :
    Confined w root files ↔ ∀ file ∈ files, Climbs file.label → InPlace w root files file := by
  constructor
  · intro hconfined file hfile _
    refine ⟨hconfined.below file hfile, ?_⟩
    intro other hother hplace
    by_contra hne
    have hsymm : Std.Symm fun a b : SourceFile => w.placeOf a.path ≠ w.placeOf b.path :=
      ⟨fun _ _ => Ne.symm⟩
    exact hconfined.apart.forall hother hfile hne hplace
  · intro hclimbing
    refine ⟨?_, hlisting.increasing.imp_of_mem ?_⟩
    · intro file hfile
      by_cases hclimbs : Climbs file.label
      · exact (hclimbing file hfile hclimbs).below
      · obtain ⟨-, -, r, -, rfl, hregular, -⟩ := (mem_listing_iff h hlisting).1 hfile
        exact liesBelow_of_not_mem hroot hregular (mt (climbs_text_iff r).2 hclimbs)
    · intro a b ha hb hlt hplace
      -- if one of the two goes up it is alone at its place, else the place gives the label
      have hlabel : a.label = b.label := by
        by_cases hclimbs : Climbs a.label
        · rw [(hclimbing a ha hclimbs).alone b hb hplace.symm]
        by_cases hclimbs' : Climbs b.label
        · rw [(hclimbing b hb hclimbs').alone a ha hplace]
        obtain ⟨-, -, r, -, rfl, -, -⟩ := (mem_listing_iff h hlisting).1 ha
        obtain ⟨-, -, r', -, rfl, -, -⟩ := (mem_listing_iff h hlisting).1 hb
        exact label_eq_of_placeOf_eq (mt (climbs_text_iff r).2 hclimbs)
          (mt (climbs_text_iff r').2 hclimbs') hplace
      rw [hlabel] at hlt
      exact String.lt_irrefl _ hlt

end Listings

/-! ## Expansion of accepted patterns -/

section Expansions

variable {w : World} {root : Pathname} {patterns excludes : List String}

/-- Patterns that the check accepts are neither empty nor absolute. -/
theorem relative_of_accepted (h : Config.patternsDefect? (.texts patterns) = none)
    {pattern : String} (hpattern : pattern ∈ patterns) :
    pattern ≠ "" ∧ (Pathname.parse pattern).isAbsolute = false := by
  obtain ⟨items, hitems, -, husable⟩ := (Config.patternsDefect?_eq_none_iff _).1 h
  obtain rfl : patterns.map Value.text = items := Option.some.inj hitems
  obtain ⟨s, hs, ⟨c, hc, -⟩, hslash⟩ := husable _ (List.mem_map_of_mem hpattern)
  obtain rfl : pattern = s := Value.text.inj hs
  refine ⟨?_, ?_⟩
  · rintro rfl
    simp at hc
  · rw [← Bool.not_eq_true, Config.isAbsolute_parse_iff]
    exact hslash

/-- Paths that are each below the root are the paths of relative ones. -/
theorem exists_map_below {P : RelativePath → Prop} {paths : List Pathname}
    (h : ∀ p ∈ paths, ∃ r : RelativePath, r.below root = p ∧ P r) :
    ∃ found : List RelativePath,
      found.map (RelativePath.below root) = paths ∧ ∀ r ∈ found, P r := by
  induction paths with
  | nil => exact ⟨[], rfl, by simp⟩
  | cons p paths ih =>
      obtain ⟨⟨r, rfl, hr⟩, hpaths⟩ := List.forall_mem_cons.1 h
      obtain ⟨found, rfl, hfound⟩ := ih hpaths
      exact ⟨r :: found, rfl, List.forall_mem_cons.2 ⟨hr, hfound⟩⟩

/-- A pattern selects paths below the root, which go up only if the pattern does, or it is
refused for its shape. -/
inductive Expanded (w : World) (root : Pathname) (pattern : String) (paths : List RelativePath) :
    Prop where
  | selected (hglob : w.glob root pattern = .ok (paths.map (RelativePath.below root)))
      (hclimbs : ∀ r ∈ paths, ".." ∈ r.names → Climbs pattern)
  | refused {e : SelectorError} (hparse : Selector.parse pattern = .error e)
      (hshape : Selector.IsShapeError e) (hglob : w.glob root pattern = .error e.toFailure)

/-- In a tree without links every relative pattern is expanded in this way. -/
theorem exists_expanded (h : w.Plain) (root : Pathname) {pattern : String} (hne : pattern ≠ "")
    (hrelative : (Pathname.parse pattern).isAbsolute = false) :
    ∃ paths, Expanded w root pattern paths := by
  rcases Selector.parse_outcome hne hrelative with ⟨parts, hparts, hexact⟩ | ⟨e, he, hshape⟩
  · have hselected : ∀ p ∈ (if w.isDirectory root then w.select parts root else []),
        ∃ r : RelativePath, r.below root = p ∧ (".." ∈ r.names → Climbs pattern) := by
      intro p hp
      obtain ⟨names, rfl, hnames⟩ :=
        World.exists_names_of_mem_select h (List.mem_ite_nil_right.1 hp).2
      have hsegments : ∀ name ∈ names, IsSegment name := fun name hname =>
        (hnames name hname).elim (fun h => isSegment_of_mem_parse (hexact name h)) And.left
      have hclimbs : ".." ∈ names → Climbs pattern := fun hup =>
        (hnames ".." hup).elim (hexact "..") fun hlisted => absurd rfl hlisted.2
      exact ⟨⟨names, hsegments⟩, rfl, hclimbs⟩
    obtain ⟨found, hfound, hclimbs⟩ := exists_map_below hselected
    exact ⟨found, .selected (by rw [World.glob, hparts, hfound]) hclimbs⟩
  · exact ⟨[], .refused he hshape (by rw [World.glob, he])⟩

/-- The paths of all patterns that the check accepts. -/
theorem exists_enumerate (h : w.Plain) (root : Pathname)
    (haccepted : Config.patternsDefect? (.texts patterns) = none) :
    ∃ enumerate : String → List RelativePath,
      ∀ pattern ∈ patterns, Expanded w root pattern (enumerate pattern) := by
  have heach : ∀ pattern, ∃ paths, pattern ∈ patterns → Expanded w root pattern paths := by
    intro pattern
    by_cases hpattern : pattern ∈ patterns
    · obtain ⟨hne, hrelative⟩ := relative_of_accepted haccepted hpattern
      obtain ⟨paths, hpaths⟩ := exists_expanded h root hne hrelative
      exact ⟨paths, fun _ => hpaths⟩
    · exact ⟨[], fun hmem => absurd hmem hpattern⟩
  choose enumerate henumerate using heach
  exact ⟨enumerate, henumerate⟩

/-- Every pattern is expanded, or the search ends with one that is refused. -/
theorem enumerates_or_refused {enumerate : String → List RelativePath}
    (h : ∀ pattern ∈ patterns, Expanded w root pattern (enumerate pattern)) :
    Enumerates root (w.glob root) enumerate patterns ∨
      ∃ pattern ∈ patterns, ∃ e, Selector.parse pattern = .error e ∧ Selector.IsShapeError e ∧
        ∀ found, (siftAll w root (w.glob root) (excludes.map Value.text) patterns found).Yields
          (.error e.toFailure) [] := by
  induction patterns with
  | nil => exact .inl (by simp [Enumerates])
  | cons pattern patterns ih =>
      obtain ⟨hfirst, hrest⟩ := List.forall_mem_cons.1 h
      cases hfirst with
      | refused hparse hshape hglob =>
          refine .inr ⟨pattern, List.mem_cons_self, _, hparse, hshape, fun found => ?_⟩
          exact .bind_error (.check hglob)
      | selected hglob _ =>
          rcases ih hrest with hall | ⟨p, hp, e, hparse, hshape, hyields⟩
          · exact .inl (List.forall_mem_cons.2 ⟨hglob, hall⟩)
          · refine .inr ⟨p, List.mem_cons_of_mem pattern hp, e, hparse, hshape, fun found => ?_⟩
            refine Task.Yields.bind_silent (.check hglob) ?_
            refine Task.Yields.bind_silent (yields_sift (enumerate pattern) found 0) ?_
            dsimp only
            split
            · exact Task.Yields.bind_silent (.tell _ _ _) (hyields _)
            · exact hyields _

/-- Below a directory, discovery ends as the search does where that fails. -/
theorem yields_discoverBy_error (hroot : w.isDirectory root = true) {expand : Expansion}
    {e : Failure} (h : (siftAll w root expand (excludes.map Value.text) patterns []).Yields
      (.error e) []) :
    (discoverBy expand w patterns root (.texts excludes)).Yields (.error e) [] := by
  unfold discoverBy
  rw [hroot]
  exact Task.Yields.bind_silent (.check rfl) h.bind_error

end Expansions

/-! ## The reach of discovery -/

/-- How far the files reach that patterns find below a root: they are regular files at the
places that their labels spell, confined if no pattern goes up, and confined exactly if
those are in place whose label goes up.  Such a file comes from a pattern that goes up
itself; and a pattern that spells all its names finds the file they lead to, wherever
that is. -/
structure Reach (w : World) (root : Pathname) (patterns excludes : List String)
    (files : List SourceFile) : Prop where
  path_eq : ∀ file ∈ files, file.path = root.join (Pathname.parse file.label)
  regular : ∀ file ∈ files, ∃ content, w.entryAt (w.placeOf file.path) = some (.file content)
  level : (∀ pattern ∈ patterns, ¬ Climbs pattern) → Confined w root files
  confined_iff : Confined w root files ↔
    ∀ file ∈ files, Climbs file.label → InPlace w root files file
  climbing : ∀ file ∈ files, Climbs file.label → ∃ pattern ∈ patterns, Climbs pattern ∧
    ∃ paths, w.glob root pattern = .ok paths ∧ file.path ∈ paths
  spelled : ∀ pattern ∈ patterns, ∀ r : RelativePath,
    Selector.parse pattern = .ok (r.names.map .exact) → w.isFile (r.below root) = true →
    isExcluded r.text excludes = false → fileBelow root r ∈ files

/-- The reach of the listing of expanded patterns. -/
theorem reach_of_listing {w : World} (h : w.Plain) {root : Pathname}
    (hroot : w.isDirectory root = true) {enumerate : String → List RelativePath}
    {patterns excludes : List String}
    (hexpanded : ∀ pattern ∈ patterns, Expanded w root pattern (enumerate pattern))
    (henumerates : Enumerates root (w.glob root) enumerate patterns) {files : List SourceFile}
    (hlisting : Listing root (Selects w root enumerate patterns excludes) files) :
    Reach w root patterns excludes files := by
  have hclimbing : ∀ file ∈ files, Climbs file.label → ∃ pattern ∈ patterns, Climbs pattern ∧
      ∃ paths, w.glob root pattern = .ok paths ∧ file.path ∈ paths := by
    intro file hfile hup
    obtain ⟨pattern, hpattern, r, hr, rfl, -, -⟩ := (mem_listing_iff h hlisting).1 hfile
    cases hexpanded pattern hpattern with
    | selected hglob hclimbs =>
        exact ⟨pattern, hpattern, hclimbs r hr ((climbs_text_iff r).1 hup), _, hglob,
          List.mem_map_of_mem hr⟩
    | refused _ _ hglob => cases (henumerates pattern hpattern).symm.trans hglob
  have hconfined := confined_iff_of_listing h hroot hlisting
  refine ⟨hlisting.path_eq, ?_, ?_, hconfined, hclimbing, ?_⟩
  · intro file hfile
    obtain ⟨-, -, r, -, rfl, hregular, -⟩ := (mem_listing_iff h hlisting).1 hfile
    obtain ⟨content, hstat⟩ := World.isFile_iff_stat.1 hregular
    exact ⟨content, ((World.stat_eq_ok_iff h).1 hstat).2⟩
  · intro hlevel
    refine hconfined.2 fun file hfile hup => ?_
    obtain ⟨pattern, hpattern, hclimbs, -⟩ := hclimbing file hfile hup
    exact absurd hclimbs (hlevel pattern hpattern)
  · intro pattern hpattern r hparse hregular hexcluded
    have hselected : r.below root ∈ (enumerate pattern).map (RelativePath.below root) := by
      have hglob := henumerates pattern hpattern
      rw [World.glob, hparse, hroot] at hglob
      rw [← Except.ok.inj hglob]
      exact World.mem_select_of_isFile h hregular
    have hr := (List.mem_map_of_injective (RelativePath.below_injective root)).1 hselected
    exact (mem_listing_iff h hlisting).2 ⟨pattern, hpattern, r, hr, rfl, hregular, hexcluded⟩

/-- What discovery finds for patterns that the check accepts, in a tree without links; it
ends without files only where a pattern is refused for its shape. -/
theorem discovery_confined_unless_climbing {w : World} (h : w.Plain) {root : Pathname}
    (hroot : w.isDirectory root = true) {patterns : List String}
    (haccepted : Config.patternsDefect? (.texts patterns) = none) (excludes : List String) :
    (∃ files, (discover w patterns root (.texts excludes)).start.1 = .ok files ∧
      Reach w root patterns excludes files) ∨
    ∃ pattern ∈ patterns, ∃ e, Selector.parse pattern = .error e ∧ Selector.IsShapeError e ∧
      (discover w patterns root (.texts excludes)).start.1 = .error e.toFailure := by
  obtain ⟨enumerate, hexpanded⟩ := exists_enumerate h root haccepted
  rcases enumerates_or_refused hexpanded with henumerates | ⟨p, hp, e, hparse, hshape, hyields⟩
  · obtain ⟨files, hfiles, hlisting⟩ := exists_listing hroot henumerates excludes
    exact .inl ⟨files, hfiles, reach_of_listing h hroot hexpanded henumerates hlisting⟩
  · exact .inr ⟨p, hp, e, hparse, hshape, (yields_discoverBy_error hroot (hyields [])).start.1⟩

/-- A root with a file and a directory, and a file above the root.  The check accepts the
three patterns, and discovery finds the file above the root, and the one in it twice. -/
theorem discovery_confined_unless_climbing_two_spellings :
    let w : World := {
      cwd := []
      entries := [(["src"], .directory), (["src", "a.js"], .file []), (["src", "lib"], .directory),
        (["b.js"], .file [])] }
    let root : Pathname := ⟨.relative, ["src"]⟩
    let patterns := ["a.js", "lib/../a.js", "../b.js"]
    let once : SourceFile := ⟨⟨.relative, ["src", "a.js"]⟩, "a.js"⟩
    let again : SourceFile := ⟨⟨.relative, ["src", "lib", "..", "a.js"]⟩, "lib/../a.js"⟩
    let outside : SourceFile := ⟨⟨.relative, ["src", "..", "b.js"]⟩, "../b.js"⟩
    w.Plain ∧ w.isDirectory root = true ∧ Config.patternsDefect? (.texts patterns) = none ∧
      (w.placeOf once.path = ["src", "a.js"] ∧ w.placeOf again.path = ["src", "a.js"] ∧
        w.placeOf outside.path = ["b.js"] ∧ w.placeOf root = ["src"]) ∧
      ∃ files, (discover w patterns root (.texts [])).start.1 = .ok files ∧
        Reach w root patterns [] files ∧ once ∈ files ∧ again ∈ files ∧ outside ∈ files ∧
        ¬ Confined w root files := by
  intro w root patterns once again outside
  have hplain : w.Plain := ⟨by simp [w], by decide⟩
  have hroot : w.isDirectory root = true :=
    World.isDirectory_iff_stat.2 ((World.stat_eq_ok_iff hplain).2 (by decide))
  have hregular (r : RelativePath)
      (hpass : w.Passable (w.startOf (r.below root)) (r.below root).names)
      (hentry : w.entryAt (w.placeOf (r.below root)) = some (.file [])) :
      w.isFile (r.below root) = true :=
    World.isFile_iff_stat.2 ⟨[], (World.stat_eq_ok_iff hplain).2 ⟨hpass, hentry⟩⟩
  have haccepted : Config.patternsDefect? (.texts patterns) = none := by decide
  have hplaces : w.placeOf once.path = ["src", "a.js"] ∧ w.placeOf again.path = ["src", "a.js"] ∧
      w.placeOf outside.path = ["b.js"] ∧ w.placeOf root = ["src"] := by decide
  refine ⟨hplain, hroot, haccepted, hplaces, ?_⟩
  have honce : Selector.parse "a.js" = .ok [.exact "a.js"] := by decide +kernel
  have hagain : Selector.parse "lib/../a.js" = .ok [.exact "lib", .exact "..", .exact "a.js"] := by
    decide +kernel
  have houtside : Selector.parse "../b.js" = .ok [.exact "..", .exact "b.js"] := by decide +kernel
  rcases discovery_confined_unless_climbing hplain hroot haccepted [] with
    ⟨files, hfiles, hreach⟩ | ⟨pattern, hpattern, e, he, -, -⟩
  · have hspelled := fun pattern hpattern r hr hfile =>
      hreach.spelled pattern hpattern r hr hfile rfl
    have hfirst : once ∈ files :=
      hspelled "a.js" (by simp [patterns]) ⟨["a.js"], by decide⟩ honce
        (hregular _ (by decide) (by decide))
    have hsecond : again ∈ files :=
      hspelled "lib/../a.js" (by simp [patterns]) ⟨["lib", "..", "a.js"], by decide⟩ hagain
        (hregular _ (by decide) (by decide))
    have hthird : outside ∈ files :=
      hspelled "../b.js" (by simp [patterns]) ⟨["..", "b.js"], by decide⟩ houtside
        (hregular _ (by decide) (by decide))
    refine ⟨files, hfiles, hreach, hfirst, hsecond, hthird, ?_⟩
    rintro ⟨hbelow, -⟩
    obtain ⟨names, -, hplace⟩ := hbelow outside hthird
    rw [hplaces.2.2.1, hplaces.2.2.2] at hplace
    simp at hplace
  · have hparsed : pattern = "a.js" ∨ pattern = "lib/../a.js" ∨ pattern = "../b.js" := by
      simpa [patterns] using hpattern
    rcases hparsed with rfl | rfl | rfl
    · cases honce.symm.trans he
    · cases hagain.symm.trans he
    · cases houtside.symm.trans he

end Run
end ContractAudit
