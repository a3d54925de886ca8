import Mathlib.Tactic.SplitIfs
import ContractAudit.Files.Selection
import ContractAudit.Proofs.Files.Resolution

/-!
# What a pattern selects

A pattern goes down from a directory along names of its own and names that it
finds in directories.  No directory lists a double dot, so that a selected path
holds one only where the pattern spells it.  A pattern that spells all its names
selects the file that they lead to, wherever that is.

Main results:

- Theorem {lit}`Selector.parse_outcome`: the names of the parts are those of the
  pattern, and what can be wrong with a pattern.
- Theorem {lit}`World.exists_names_of_mem_select`: where the names of a selected
  path come from.
- Theorem {lit}`World.mem_select_of_isFile`: names that lead to a file select it.
-/

namespace ContractAudit
namespace Files

/-! ## Parts of a pattern -/

namespace Selector

/-- A part is read from its own name, or a double star stands next to something else. -/
theorem part_outcome (text : String) :
    (∃ p, part text = .ok p ∧ ∀ name, .exact name = p → name = text) ∨
      part text = .error .mixedDepth := by
  unfold part
  split_ifs
  · exact .inl ⟨_, rfl, by simp⟩
  · exact .inr rfl
  · exact .inl ⟨_, rfl, by simp⟩
  · exact .inl ⟨_, rfl, by simp⟩

/-- The names among the parts are names that they are read from. -/
theorem mapM_part_outcome (names : List String) :
    (∃ parts, names.mapM part = .ok parts ∧ ∀ name, .exact name ∈ parts → name ∈ names) ∨
      names.mapM part = .error .mixedDepth := by
  induction names with
  | nil => exact .inl ⟨[], rfl, by simp⟩
  | cons first names ih =>
      rw [List.mapM_cons]
      rcases part_outcome first with ⟨p, hp, hexact⟩ | hfirst
      · rcases ih with ⟨parts, hparts, hnames⟩ | hrest
        · refine .inl ⟨p :: parts, by rw [hp, hparts]; rfl, ?_⟩
          intro name hname
          rcases List.mem_cons.1 hname with heq | hmem
          · exact List.mem_cons.2 (.inl (hexact name heq))
          · exact List.mem_cons_of_mem first (hnames name hmem)
        · exact .inr (by rw [hp, hrest]; rfl)
      · exact .inr (by rw [hfirst]; rfl)

/-- Why a pattern that is not empty and not absolute is refused. -/
def IsShapeError (e : SelectorError) : Prop :=
  e = .noParts ∨ e = .onlyHere ∨ e = .mixedDepth

/-- The names among the parts of a pattern are names of the pattern, and a pattern that is
neither empty nor absolute is only refused for its shape. -/
theorem parse_outcome {pattern : String} (hne : pattern ≠ "")
    (hrelative : (Pathname.parse pattern).isAbsolute = false) :
    (∃ parts, parse pattern = .ok parts ∧
      ∀ name, .exact name ∈ parts → name ∈ (Pathname.parse pattern).names) ∨
      ∃ e, parse pattern = .error e ∧ IsShapeError e := by
  have hempty : (pattern == "") = false := beq_eq_false_iff_ne.2 hne
  simp only [parse, hempty, hrelative, Bool.false_eq_true, if_false]
  rcases mapM_part_outcome (Pathname.parse pattern).names with ⟨parts, hparts, hnames⟩ | hparts
  · simp only [hparts, bind, Except.bind, pure, Except.pure, throw, throwThe, MonadExceptOf.throw]
    split_ifs
    · exact .inr ⟨_, rfl, .inr (.inl rfl)⟩
    · exact .inl ⟨_, rfl, fun name hname => hnames name (by simpa using hname)⟩
    · exact .inr ⟨_, rfl, .inl rfl⟩
    · exact .inl ⟨_, rfl, hnames⟩
  · exact .inr ⟨.mixedDepth, by rw [hparts]; rfl, .inr (.inr rfl)⟩

end Selector

/-! ## Selected paths -/

namespace World

variable {w : World}

/-- Of equal paths one was there before. -/
theorem mem_of_mem_firstOfEach {paths : List Pathname} {p : Pathname}
    (h : p ∈ firstOfEach paths) : p ∈ paths := by
  have hkept : ∀ acc : List Pathname,
      p ∈ paths.foldl (fun acc q => if acc.contains q then acc else q :: acc) acc →
        p ∈ acc ∨ p ∈ paths := by
    clear h
    induction paths with
    | nil => exact fun acc hp => .inl hp
    | cons q paths ih =>
        intro acc hp
        rcases ih _ hp with hacc | hrest
        · dsimp only at hacc
          split_ifs at hacc
          · exact .inl hacc
          · rcases List.mem_cons.1 hacc with rfl | hacc
            · exact .inr List.mem_cons_self
            · exact .inl hacc
        · exact .inr (List.mem_cons_of_mem q hrest)
  simpa using hkept [] (List.mem_reverse.1 h)

/-- The directories below a directory are reached along names that directories list. -/
theorem exists_names_of_mem_directoriesBelow (h : w.Plain) {depth : Nat} {path p : Pathname}
    (hp : p ∈ w.directoriesBelow depth path) :
    ∃ names, p = path.descend names ∧ ∀ name ∈ names, IsListable name := by
  induction depth generalizing path with
  | zero => exact ⟨[], by simpa [directoriesBelow] using hp, by simp⟩
  | succ depth ih =>
      rcases List.mem_cons.1 hp with rfl | hbelow
      · exact ⟨[], by simp, by simp⟩
      · obtain ⟨next, hnext, hp⟩ := List.mem_flatMap.1 hbelow
        obtain ⟨name, hname, rfl⟩ := List.mem_map.1 (List.mem_filter.1 hnext).1
        obtain ⟨names, rfl, hnames⟩ := ih hp
        refine ⟨name :: names, (Pathname.descend_cons path name names).symm, ?_⟩
        exact List.forall_mem_cons.2 ⟨h.isListable_of_mem_listing hname, hnames⟩

/-- A selected path goes down from the directory, along names of the parts and names that
directories list. -/
theorem exists_names_of_mem_select (h : w.Plain) {parts : List SelectorPart} {path p : Pathname}
    (hp : p ∈ w.select parts path) :
    ∃ names, p = path.descend names ∧ ∀ name ∈ names, .exact name ∈ parts ∨ IsListable name := by
  induction parts generalizing path p with
  | nil => exact ⟨[], by simpa [select] using hp, by simp⟩
  | cons part rest ih =>
      -- the names of the other parts stay names of the parts
      have hlater : ∀ {names : List String}, (∀ n ∈ names, .exact n ∈ rest ∨ IsListable n) →
          ∀ n ∈ names, .exact n ∈ part :: rest ∨ IsListable n :=
        fun hnames n hn => (hnames n hn).imp_left (List.mem_cons_of_mem part)
      cases part with
      | here => exact ⟨[], by simpa [select] using hp, by simp⟩
      | exact name =>
          obtain ⟨names, rfl, hnames⟩ := ih (List.mem_ite_nil_right.1 hp).2
          refine ⟨name :: names, (Pathname.descend_cons path name names).symm, ?_⟩
          exact List.forall_mem_cons.2 ⟨.inl List.mem_cons_self, hlater hnames⟩
      | wild tokens =>
          obtain ⟨next, hnext, hp⟩ := List.mem_flatMap.1 hp
          obtain ⟨name, hname, rfl⟩ := List.mem_map.1 (List.mem_filter.1 hnext).1
          obtain ⟨names, rfl, hnames⟩ := ih hp
          have hlisted := h.isListable_of_mem_listing (List.mem_filter.1 hname).1
          refine ⟨name :: names, (Pathname.descend_cons path name names).symm, ?_⟩
          exact List.forall_mem_cons.2 ⟨.inr hlisted, hlater hnames⟩
      | anyDepth =>
          obtain ⟨directory, hdirectory, hp⟩ := List.mem_flatMap.1 (mem_of_mem_firstOfEach hp)
          obtain ⟨above, rfl, habove⟩ := exists_names_of_mem_directoriesBelow h hdirectory
          obtain ⟨names, rfl, hnames⟩ := ih hp
          refine ⟨above ++ names, by simp [Pathname.descend], ?_⟩
          exact List.forall_mem_append.2 ⟨fun n hn => .inr (habove n hn), hlater hnames⟩

/-- Names that lead to a file select it, wherever they lead to. -/
theorem mem_select_of_isFile (h : w.Plain) {names : List String} {path : Pathname}
    (hfile : w.isFile (path.descend names) = true) :
    path.descend names ∈ w.select (names.map .exact) path := by
  induction names generalizing path with
  | nil => simp [select]
  | cons name names ih =>
      rw [Pathname.descend_cons] at hfile ⊢
      have hthere : (if (names.map SelectorPart.exact).isEmpty then w.has (path.child name)
          else w.isDirectory (path.child name)) = true := by
        cases names with
        | nil =>
            rw [Pathname.descend_nil] at hfile
            obtain ⟨content, hstat⟩ := isFile_iff_stat.1 hfile
            simp [has, hstat]
        | cons next names => simpa using isDirectory_of_isFile_descend h hfile
      rw [List.map_cons, select, if_pos hthere]
      exact ih hfile

end World
end Files
end ContractAudit
