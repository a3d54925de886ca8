import ContractAudit.Run.Journal
import ContractAudit.Config.Value
import ContractAudit.Files.Selection

/-!
# Discovery of source files

Patterns below a root directory are expanded to the files that are analysed:
regular files, no links, without the excluded ones, each once and in the order
of their labels.

Main definitions:

- {lit}`isExcluded`: whether a pattern stands for a label or one of its segments.
- {lit}`sight`: what is to be done with one selected path.
- {lit}`discoverBy`: the files of all patterns, whatever order they are enumerated in.
- {lit}`discover`: the same, where the world expands the patterns.
-/

namespace ContractAudit
namespace Run

open Files
open Config (Value)

/-- The name under which discovery logs. -/
def discoverySpeaker : String := "contract_coverage.file_ops"

/-- Whether a pattern stands for a whole label or for one of its segments. -/
def excludes (pattern label : String) : Bool :=
  Glob.matchesText pattern label || (Pathname.cutSlashes label).any (Glob.matchesText pattern ·)

/-- Whether one of the patterns excludes a label. -/
def isExcluded (label : String) (patterns : List String) : Bool :=
  patterns.any (excludes · label)

/-- Whether one of the given values excludes a label; a value that is no text is an
error if no value before it does. -/
def isExcludedBy (label : String) : List Value → Except Failure Bool
  | [] => .ok false
  | v :: rest => do
    let pattern ← v.pathText
    if excludes pattern label then .ok true else isExcludedBy label rest

/-- For texts the two exclusion tests agree. -/
theorem isExcludedBy_texts (label : String) (patterns : List String) :
    isExcludedBy label (patterns.map Value.text) = .ok (isExcluded label patterns) := by
  induction patterns with
  | nil => rfl
  | cons p rest ih =>
    simp only [List.map_cons, isExcludedBy, Value.pathText, isExcluded, List.any_cons,
      bind, Except.bind]
    by_cases h : excludes p label = true
    · simp [h]
    · simpa [h, isExcluded] using ih

/-- The label of a path below a root: the names after those of the root. -/
def labelBelow (root path : Pathname) : String :=
  (Pathname.mk .relative (path.names.drop root.names.length)).text

/-- What is to be done with a selected path. -/
inductive Sighting where
  | ignored
  | excluded (label : String)
  | kept (file : SourceFile)
  deriving DecidableEq, Repr

/-- Links and what is no regular file are ignored; the rest is excluded or kept. -/
def sight (w : World) (root : Pathname) (exclude : List Value) (path : Pathname) :
    Except Failure Sighting :=
  if w.isLink path || !w.isFile path then .ok .ignored
  else do
    let label := labelBelow root path
    if ← isExcludedBy label exclude then .ok (.excluded label) else .ok (.kept ⟨path, label⟩)

/-- Adds a file unless its label is there already. -/
def addFile (found : List SourceFile) (file : SourceFile) : List SourceFile :=
  if found.any (·.label == file.label) then found else found ++ [file]

/-- Goes through the paths of one pattern: the files found and how many were kept. -/
def sift (w : World) (root : Pathname) (exclude : List Value) :
    List Pathname → List SourceFile → Nat → Task (List SourceFile × Nat)
  | [], found, count => pure (found, count)
  | path :: rest, found, count => do
    match ← Task.check (sight w root exclude path) with
    | .ignored => sift w root exclude rest found count
    | .excluded label =>
      Task.tell .debug discoverySpeaker ("Excluded " ++ label)
      sift w root exclude rest found count
    | .kept file => sift w root exclude rest (addFile found file) (count + 1)

/-- How the paths of a pattern are enumerated. -/
abbrev Expansion := String → Except Failure (List Pathname)

/-- Goes through the patterns; one that keeps no file is reported. -/
def siftAll (w : World) (root : Pathname) (expand : Expansion) (exclude : List Value) :
    List String → List SourceFile → Task (List SourceFile)
  | [], found => pure found
  | pattern :: rest, found => do
    let paths ← Task.check (expand pattern)
    let (found, count) ← sift w root exclude paths found 0
    if count = 0 then
      Task.tell .warning discoverySpeaker
        ("Pattern '" ++ pattern ++ "' matched no files under " ++ root.text)
    siftAll w root expand exclude rest found

/-- The files in the order of their labels. -/
def inLabelOrder (found : List SourceFile) : List SourceFile :=
  found.mergeSort fun a b => a.label ≤ b.label

/-- The fault of a root that is no directory. -/
def rootFault (root : Pathname) : Failure :=
  .fault (.fileAccess root "Analysis root is not a directory")

/-- The files that patterns select below a root, given how patterns are expanded. -/
def discoverBy (expand : Expansion) (w : World) (patterns : List String) (root : Pathname)
    (exclude : Value) : Task (List SourceFile) := do
  if !w.isDirectory root then throw (rootFault root)
  let exclude ← Task.check exclude.items
  let found ← siftAll w root expand exclude patterns []
  return inLabelOrder found

/-- The files that patterns select below a root. -/
def discover (w : World) (patterns : List String) (root : Pathname) (exclude : Value) :
    Task (List SourceFile) :=
  discoverBy (w.glob root) w patterns root exclude

end Run
end ContractAudit
