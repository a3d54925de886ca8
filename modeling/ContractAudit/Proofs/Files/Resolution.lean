import ContractAudit.Proofs.Files.Frame
import ContractAudit.Proofs.Files.RelativePath

/-!
# Resolution of paths without links

In a tree without links a path can be resolved without a look at the tree: a
double dot takes the last name away, every other name is added.  What a path
leads to is then what stands at the resolved place, provided that there are
directories all the way.  Two paths lead to the same file exactly if they are
resolved to the same place.

Main results:

- Theorem {lit}`World.walk_eq_ok_iff`: a way through a tree without links leads
  to the resolved place.
- Theorem {lit}`World.stat_eq_ok_iff`: what a path leads to.
- Theorem {lit}`World.placeOf_descend`: names without double dots lead below.
-/

namespace ContractAudit
namespace Files

/-! ## Resolving names -/

/-- The place one name further: a double dot leads one level up. -/
def enter (place : Place) (name : String) : Place :=
  if name = ".." then place.dropLast else place ++ [name]

/-- The place that names lead to from a place, if there are no links. -/
def resolve (start : Place) (names : List String) : Place :=
  names.foldl enter start

@[simp]
theorem resolve_nil (start : Place) : resolve start [] = start := rfl

@[simp]
theorem resolve_cons (start : Place) (name : String) (names : List String) :
    resolve start (name :: names) = resolve (enter start name) names := rfl

theorem resolve_append (start : Place) (before after : List String) :
    resolve start (before ++ after) = resolve (resolve start before) after :=
  List.foldl_append

/-- Names without double dots are added one after the other. -/
theorem resolve_of_not_mem {names : List String} (h : ".." ∉ names) (start : Place) :
    resolve start names = start ++ names := by
  induction names generalizing start with
  | nil => simp
  | cons name names ih =>
      have hdown : name ≠ ".." := fun heq => h (heq ▸ List.mem_cons_self)
      have hrest : ".." ∉ names := fun hmem => h (List.mem_cons_of_mem name hmem)
      rw [resolve_cons, enter, if_neg hdown, ih hrest, List.append_assoc, List.singleton_append]

/-- The path with more names. -/
def Pathname.descend (path : Pathname) (names : List String) : Pathname :=
  ⟨path.root, path.names ++ names⟩

@[simp]
theorem Pathname.descend_nil (path : Pathname) : path.descend [] = path := by
  rw [Pathname.descend, List.append_nil]

theorem Pathname.descend_cons (path : Pathname) (name : String) (names : List String) :
    path.descend (name :: names) = (path.child name).descend names := by
  simp [Pathname.descend, Pathname.child]

namespace World

/-- Where the names of a path are followed from. -/
def startOf (w : World) (path : Pathname) : Place :=
  if path.isAbsolute then [] else w.cwd

/-- The place of a path after its dots are resolved. -/
def placeOf (w : World) (path : Pathname) : Place :=
  resolve (w.startOf path) path.names

/-- More names are resolved from the place of a path. -/
theorem placeOf_descend_eq_resolve (w : World) (path : Pathname) (names : List String) :
    w.placeOf (path.descend names) = resolve (w.placeOf path) names :=
  resolve_append _ _ _

/-- Names without double dots lead below the place of a path. -/
theorem placeOf_descend {names : List String} (h : ".." ∉ names) (w : World) (path : Pathname) :
    w.placeOf (path.descend names) = w.placeOf path ++ names := by
  rw [placeOf_descend_eq_resolve, resolve_of_not_mem h]

/-! ## Ways without links -/

/-- A name that an entry of a directory can have: the double dot is none. -/
def IsListable (name : String) : Prop :=
  IsSegment name ∧ name ≠ ".."

instance (name : String) : Decidable (IsListable name) :=
  inferInstanceAs (Decidable (IsSegment name ∧ name ≠ ".."))

/-- A tree of files without links, in which every name is one that an entry can have. -/
structure Plain (w : World) : Prop where
  noLinks : ∀ e ∈ w.entries, ∀ target, e.2 ≠ .link target
  names : ∀ e ∈ w.entries, ∀ name ∈ e.1, IsListable name

/-- From a place there are directories all the way along some names. -/
def Passable (w : World) : Place → List String → Prop
  | _, [] => True
  | start, name :: rest =>
    w.entryAt start = some .directory ∧ w.Passable (enter start name) rest

instance decidablePassable (w : World) :
    (start : Place) → (names : List String) → Decidable (w.Passable start names)
  | _, [] => isTrue trivial
  | start, name :: rest =>
    have := decidablePassable w (enter start name) rest
    inferInstanceAs (Decidable (w.entryAt start = some .directory ∧ _))

/-- A way can be taken piece by piece. -/
theorem passable_append {w : World} {start : Place} {before after : List String} :
    w.Passable start (before ++ after) ↔
      w.Passable start before ∧ w.Passable (resolve start before) after := by
  induction before generalizing start with
  | nil => simp [Passable]
  | cons name before ih => simp [Passable, ih, and_assoc]

section Plain

variable {w : World}

/-- No link stands at any place. -/
theorem Plain.entryAt_ne_link (h : w.Plain) (place : Place) (target : String) :
    w.entryAt place ≠ some (.link target) := by
  unfold entryAt
  split
  · simp
  · intro hlookup
    obtain ⟨before, after, hentries, -⟩ := List.lookup_eq_some_iff.1 hlookup
    exact h.noLinks (place, .link target) (by simp [hentries]) target rfl

/-- A way through a tree without links leads to the resolved place, where there are
directories all the way. -/
theorem walk_eq_ok_iff (h : w.Plain) {follow : Bool} {links : Nat} {start place : Place}
    {names : List String} {entry : Entry} :
    w.walk follow links start names = .ok ⟨place, some entry⟩ ↔
      w.Passable start names ∧ resolve start names = place ∧ w.entryAt place = some entry := by
  fun_induction World.walk w follow links start names with
  | case1 links start =>
      simp only [Except.ok.injEq, Spot.mk.injEq, Passable, resolve_nil, true_and]
      constructor
      · rintro ⟨rfl, hentry⟩
        exact ⟨rfl, hentry⟩
      · rintro ⟨rfl, hentry⟩
        exact ⟨rfl, hentry⟩
  | case2 links start name rest hmissing => simp [Passable, hmissing]
  | case3 links start name rest target hlink => simp [Passable, hlink]
  | case4 links start name rest content hfile => simp [Passable, hfile]
  | case5 links start name rest hstart hup ih =>
      have henter : enter start name = start.dropLast := if_pos (by simpa using hup)
      simp only [Passable, resolve_cons, henter, hstart, true_and]
      exact ih
  | case6 links start name rest hstart hdown hmissing hlast =>
      have henter : enter start name = start ++ [name] := if_neg (by simpa using hdown)
      obtain rfl := List.isEmpty_iff.1 hlast
      simp only [Passable, resolve_cons, resolve_nil, henter]
      constructor
      · intro heq
        simp at heq
      · rintro ⟨-, rfl, hentry⟩
        simp [hmissing] at hentry
  | case7 links start name rest hstart hdown hmissing hmore =>
      have henter : enter start name = start ++ [name] := if_neg (by simpa using hdown)
      cases rest with
      | nil => simp at hmore
      | cons next rest => simp [Passable, henter, hmissing]
  | case8 links start name rest hstart hdown target hlink =>
      exact absurd hlink (h.entryAt_ne_link _ target)
  | case9 start name rest hstart hdown target hlink =>
      exact absurd hlink (h.entryAt_ne_link _ target)
  | case10 start name rest hstart hdown target hlink =>
      exact absurd hlink (h.entryAt_ne_link _ target)
  | case11 links start name rest hstart hdown entry hnolink hentry ih =>
      have henter : enter start name = start ++ [name] := if_neg (by simpa using hdown)
      simp only [Passable, resolve_cons, henter, hstart, true_and]
      exact ih

/-- What a path leads to is what stands at its place, where there are directories all
the way. -/
theorem stat_eq_ok_iff (h : w.Plain) {path : Pathname} {entry : Entry} :
    w.stat path = .ok entry ↔
      w.Passable (w.startOf path) path.names ∧ w.entryAt (w.placeOf path) = some entry := by
  have hlocate : w.stat path = .ok entry ↔
      ∃ place, w.locate true path = .ok ⟨place, some entry⟩ := by
    unfold stat
    split <;> simp_all
  simp only [hlocate, locate, walk_eq_ok_iff h]
  constructor
  · rintro ⟨place, hpass, rfl, hentry⟩
    exact ⟨hpass, hentry⟩
  · rintro ⟨hpass, hentry⟩
    exact ⟨_, hpass, rfl, hentry⟩

/-- Nothing is found at a path if nothing stands at its place. -/
theorem has_eq_false_of_entryAt (h : w.Plain) {path : Pathname}
    (hmissing : w.entryAt (w.placeOf path) = none) : w.has path = false := by
  unfold has
  split
  next entry hstat =>
    have hentry := ((stat_eq_ok_iff h).1 hstat).2
    simp [hmissing] at hentry
  next => rfl

theorem isDirectory_iff_stat {path : Pathname} :
    w.isDirectory path = true ↔ w.stat path = .ok .directory := by
  unfold isDirectory
  split <;> simp_all

theorem isFile_iff_stat {path : Pathname} :
    w.isFile path = true ↔ ∃ content, w.stat path = .ok (.file content) := by
  unfold isFile
  split <;> simp_all

/-- No path is a link. -/
theorem Plain.isLink_eq_false (h : w.Plain) (path : Pathname) : w.isLink path = false := by
  unfold isLink
  split
  next place target hlocate =>
    exact absurd (entry_of_walk hlocate).symm (h.entryAt_ne_link place target)
  next => rfl

/-- On the way to a file there are directories only. -/
theorem isDirectory_of_isFile_descend (h : w.Plain) {path : Pathname} {name : String}
    {names : List String} (hfile : w.isFile (path.descend (name :: names)) = true) :
    w.isDirectory path = true := by
  obtain ⟨content, hstat⟩ := isFile_iff_stat.1 hfile
  obtain ⟨hpass, -⟩ := (stat_eq_ok_iff h).1 hstat
  obtain ⟨hbefore, hdirectory, -⟩ := passable_append.1 hpass
  exact isDirectory_iff_stat.2 ((stat_eq_ok_iff h).2 ⟨hbefore, hdirectory⟩)

/-- The names in a directory are names that entries can have. -/
theorem Plain.isListable_of_mem_listing (h : w.Plain) {path : Pathname} {name : String}
    (hname : name ∈ w.listing path) : IsListable name := by
  unfold listing at hname
  split at hname
  next place _ =>
    obtain ⟨e, he, hchild⟩ := List.mem_filterMap.1 hname
    refine h.names e he name ?_
    unfold childName? at hchild
    split at hchild
    next last hlast =>
      split at hchild
      · obtain rfl := Option.some.inj hchild
        exact List.mem_of_getLast? hlast
      · cases hchild
    next => cases hchild
  next => simp at hname

end Plain

end World
end Files
end ContractAudit
