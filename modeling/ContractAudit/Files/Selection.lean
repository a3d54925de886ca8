import ContractAudit.Files.Match
import ContractAudit.Files.World
import ContractAudit.Failure

/-!
# Selection of paths

A pattern with slashes selects paths below a directory.  Each of its parts is a
name, a wildcard pattern for one name, or a double star for any chain of
directories.  A double star does not go through links; the other parts do.

Main definitions:

- {lit}`Selector.parse`: the parts of a pattern, or why it is refused.
- {lit}`World.select`: the paths that parts lead to.
-/

namespace ContractAudit
namespace Files

/-- A part of a pattern with slashes. -/
inductive SelectorPart where
  | here
  | anyDepth
  | exact (name : String)
  | wild (tokens : List GlobToken)
  deriving DecidableEq, Repr

/-- Why a pattern is refused. -/
inductive SelectorError where
  | empty
  | absolute
  | noParts
  | onlyHere
  | mixedDepth
  deriving DecidableEq, Repr

/-- The failure of a refused pattern. -/
def SelectorError.toFailure : SelectorError → Failure
  | empty => .unexpected .badValue "Unacceptable pattern: ''"
  | absolute => .unexpected .unsupported "Non-relative patterns are unsupported"
  | noParts => .unexpected .outOfRange "tuple index out of range"
  | onlyHere =>
    .unexpected .noAttribute "'_TerminatingSelector' object has no attribute 'select_from'"
  | mixedDepth =>
    .unexpected .badValue "Invalid pattern: '**' can only be an entire path component"

namespace Selector

/-- Whether a list has two stars in a row. -/
def hasDoubleStar : List Char → Bool
  | '*' :: '*' :: _ => true
  | _ :: rest => hasDoubleStar rest
  | [] => false

/-- The part that a name between slashes stands for. -/
def part (name : String) : Except SelectorError SelectorPart :=
  if name == "**" then .ok .anyDepth
  else if hasDoubleStar name.toList then .error .mixedDepth
  else if Glob.isWildcard name then .ok (.wild (Glob.parse name.toList))
  else .ok (.exact name)

/-- The parts of a pattern.  A slash at its end asks for directories. -/
def parse (pattern : String) : Except SelectorError (List SelectorPart) := do
  if pattern == "" then throw .empty
  let path := Pathname.parse pattern
  if path.isAbsolute then throw .absolute
  let parts ← path.names.mapM part
  if pattern.endsWith "/" then
    if parts.isEmpty then throw .onlyHere
    return parts ++ [.here]
  if parts.isEmpty then throw .noParts
  return parts

end Selector

namespace World

/-- A directory and the directories below it, down to a depth; links are not followed. -/
def directoriesBelow (w : World) : Nat → Pathname → List Pathname
  | 0, path => [path]
  | depth + 1, path =>
    let below := ((w.listing path).map path.child).filter fun p => !w.isLink p && w.isDirectory p
    path :: below.flatMap (w.directoriesBelow depth)

/-- Keeps the first of equal paths. -/
def firstOfEach (paths : List Pathname) : List Pathname :=
  (paths.foldl (fun acc p => if acc.contains p then acc else p :: acc) []).reverse

/-- The paths below a directory that parts lead to.  What is not the last part must
lead to a directory. -/
def select (w : World) : List SelectorPart → Pathname → List Pathname
  | [], path => [path]
  | .here :: _, path => [path]
  | .exact name :: rest, path =>
    let next := path.child name
    if (if rest.isEmpty then w.has next else w.isDirectory next) then w.select rest next else []
  | .wild tokens :: rest, path =>
    let names := (w.listing path).filter fun name => Glob.accepts tokens name.toList
    let next := (names.map path.child).filter fun p => rest.isEmpty || w.isDirectory p
    next.flatMap (w.select rest)
  | .anyDepth :: rest, path =>
    firstOfEach ((w.directoriesBelow w.entries.length path).flatMap (w.select rest))

/-- The paths below a directory that a pattern selects. -/
def glob (w : World) (root : Pathname) (pattern : String) : Except Failure (List Pathname) :=
  match Selector.parse pattern with
  | .ok parts => .ok (if w.isDirectory root then w.select parts root else [])
  | .error e => .error e.toFailure

end World

end Files
end ContractAudit
