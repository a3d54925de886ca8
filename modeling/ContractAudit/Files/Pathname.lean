import ContractAudit.Number.Rounding
import ContractAudit.Text.Segments

/-!
# Pathnames

A path is a root and a list of names.  Empty segments and single dots are
dropped when a path is read; double dots stay, because they can only be
resolved against links.
-/

namespace ContractAudit
namespace Files

/-- Where a path starts: below the working directory, at the root directory, or
at the root directory written with two slashes. -/
inductive Root where
  | relative
  | single
  | double
  deriving DecidableEq, Repr

/-- The text of a root. -/
def Root.text : Root → String
  | relative => ""
  | single => "/"
  | double => "//"

/-- A path in normal form. -/
structure Pathname where
  root : Root
  names : List String
  deriving DecidableEq, Repr

namespace Pathname

/-- Cuts a text at every slash. -/
def cutSlashes (s : String) : List String :=
  Text.cutAt '/' s

/-- Whether a segment names something: it is neither empty nor a single dot. -/
def isName (s : String) : Bool :=
  s != "" && s != "."

/-- The root of a path text: exactly two slashes at the front are kept. -/
def rootOf (s : String) : Root :=
  match s.toList with
  | '/' :: '/' :: '/' :: _ => .single
  | '/' :: '/' :: _ => .double
  | '/' :: _ => .single
  | _ => .relative

/-- Reads a path. -/
def parse (s : String) : Pathname :=
  ⟨rootOf s, (cutSlashes s).filter isName⟩

/-- The empty relative path. -/
def here : Pathname := ⟨.relative, []⟩

/-- Whether the path starts at a root directory. -/
def isAbsolute (p : Pathname) : Bool :=
  p.root != .relative

/-- The names joined by slashes. -/
def body (p : Pathname) : String :=
  "/".intercalate p.names

/-- The text of a path; the empty relative path is a dot. -/
def text (p : Pathname) : String :=
  if p.root == .relative && p.names.isEmpty then "." else p.root.text ++ p.body

/-- The last name, empty where there is none. -/
def name (p : Pathname) : String :=
  p.names.getLast?.getD ""

/-- The path one level up. -/
def parent (p : Pathname) : Pathname :=
  ⟨p.root, p.names.dropLast⟩

/-- A path below another; an absolute path stands for itself. -/
def join (p q : Pathname) : Pathname :=
  if q.isAbsolute then q else ⟨p.root, p.names ++ q.names⟩

/-- The path with one more name. -/
def child (p : Pathname) (name : String) : Pathname :=
  ⟨p.root, p.names ++ [name]⟩

/-- The suffix of a name: its last dot and what follows, if something stands on
both sides of that dot. -/
def suffixOf (name : String) : String :=
  let back := name.toList.reverse
  let tail := back.takeWhile (· != '.')
  let stem := (back.dropWhile (· != '.')).drop 1
  if tail.length < back.length && !tail.isEmpty && !stem.isEmpty then
    String.ofList ('.' :: tail.reverse)
  else ""

/-- The suffix of the last name. -/
def suffix (p : Pathname) : String :=
  suffixOf p.name

end Pathname

end Files
end ContractAudit
