import ContractAudit.Files.Pathname
import ContractAudit.Text.Quoted

/-!
# The tree of files

A world is a working directory and the entries of the tree of files, each at
its place: the list of names from the root directory on.  Paths are resolved
name by name; links are followed, at most {lit}`linkLimit` of them.

Main definitions:

- {lit}`World.walk`: from a place along names to another place.
- {lit}`World.stat`, {lit}`World.read`, {lit}`World.listing`: what a path leads to.
- {lit}`World.write`, {lit}`World.makeDirectories`: the world after a change.
-/

namespace ContractAudit
namespace Files

/-- The names from the root directory to an entry. -/
abbrev Place := List String

/-- What stands at a place. -/
inductive Entry where
  | file (content : List UInt8)
  | directory
  | link (target : String)
  deriving DecidableEq, Repr

/-- Why the system refuses to use a path. -/
inductive AccessError where
  | missing
  | alreadyThere
  | notDirectory
  | isDirectory
  | linkLoop
  deriving DecidableEq, Repr

namespace AccessError

/-- The number of an error. -/
def number : AccessError → Nat
  | missing => 2
  | alreadyThere => 17
  | notDirectory => 20
  | isDirectory => 21
  | linkLoop => 40

/-- The explanation of an error. -/
def reason : AccessError → String
  | missing => "No such file or directory"
  | alreadyThere => "File exists"
  | notDirectory => "Not a directory"
  | isDirectory => "Is a directory"
  | linkLoop => "Too many levels of symbolic links"

/-- The message of an error at a path. -/
def message (e : AccessError) (path : Pathname) : String :=
  "[Errno " ++ Number.natText e.number ++ "] " ++ e.reason ++ ": " ++ Text.quoted path.text

end AccessError

/-- The size that the system reports for a directory. -/
def directorySize : Nat := 4096

/-- The size of an entry in bytes. -/
def Entry.size : Entry → Nat
  | file content => content.length
  | directory => directorySize
  | link target => target.utf8ByteSize

/-- The working directory and the entries of the tree of files. -/
structure World where
  cwd : Place
  entries : List (Place × Entry)
  deriving Repr

/-- A place that a path leads to, and what stands there. -/
structure Spot where
  place : Place
  entry : Option Entry
  deriving Repr

namespace World

/-- The most links that one path is followed through. -/
def linkLimit : Nat := 40

/-- The entry at a place; the root directory is always there. -/
def entryAt (w : World) (place : Place) : Option Entry :=
  if place.isEmpty then some .directory else w.entries.lookup place

/-- Follows names from a place.  A link is followed unless it is the last name and
`follow` is false; only the last name may be missing. -/
def walk (w : World) (follow : Bool) (links : Nat) (place : Place) (names : List String) :
    Except AccessError Spot :=
  match names with
  | [] => .ok ⟨place, w.entryAt place⟩
  | name :: rest =>
    match w.entryAt place with
    | none => .error .missing
    | some (.link _) => .error .notDirectory
    | some (.file _) => .error .notDirectory
    | some .directory =>
      if name == ".." then w.walk follow links place.dropLast rest
      else
        match w.entryAt (place ++ [name]) with
        | none => if rest.isEmpty then .ok ⟨place ++ [name], none⟩ else .error .missing
        | some (.link target) =>
          if rest.isEmpty && !follow then .ok ⟨place ++ [name], some (.link target)⟩
          else match links with
            | 0 => .error .linkLoop
            | links + 1 =>
              let path := Pathname.parse target
              w.walk follow links (if path.isAbsolute then [] else place) (path.names ++ rest)
        | some _ => w.walk follow links (place ++ [name]) rest
termination_by (links, names.length)

/-- The place that a path leads to. -/
def locate (w : World) (follow : Bool) (path : Pathname) : Except AccessError Spot :=
  w.walk follow linkLimit (if path.isAbsolute then [] else w.cwd) path.names

/-- What a path leads to, through all links. -/
def stat (w : World) (path : Pathname) : Except AccessError Entry :=
  match w.locate true path with
  | .error e => .error e
  | .ok ⟨_, none⟩ => .error .missing
  | .ok ⟨_, some entry⟩ => .ok entry

/-- Whether a path leads to something. -/
def has (w : World) (path : Pathname) : Bool :=
  match w.stat path with
  | .ok _ => true
  | .error _ => false

/-- Whether a path leads to a directory. -/
def isDirectory (w : World) (path : Pathname) : Bool :=
  match w.stat path with
  | .ok .directory => true
  | _ => false

/-- Whether a path leads to a file. -/
def isFile (w : World) (path : Pathname) : Bool :=
  match w.stat path with
  | .ok (.file _) => true
  | _ => false

/-- Whether a path itself is a link. -/
def isLink (w : World) (path : Pathname) : Bool :=
  match w.locate false path with
  | .ok ⟨_, some (.link _)⟩ => true
  | _ => false

/-- The bytes of a file. -/
def read (w : World) (path : Pathname) : Except AccessError (List UInt8) :=
  match w.stat path with
  | .ok (.file content) => .ok content
  | .ok _ => .error .isDirectory
  | .error e => .error e

/-- The name of an entry directly below a place. -/
def childName? (place : Place) (other : Place) : Option String :=
  match other.getLast? with
  | some name => if other.dropLast == place then some name else none
  | none => none

/-- The names in a directory, none where a path leads to something else. -/
def listing (w : World) (path : Pathname) : List String :=
  match w.locate true path with
  | .ok ⟨place, some .directory⟩ => w.entries.filterMap fun e => childName? place e.1
  | _ => []

/-- Puts an entry at a place. -/
def put (w : World) (place : Place) (entry : Entry) : World :=
  if (w.entries.lookup place).isSome then
    { w with entries := w.entries.map fun e => if e.1 == place then (place, entry) else e }
  else { w with entries := w.entries ++ [(place, entry)] }

/-- Puts an entry at a place, with the directories above it. -/
def plant (w : World) (place : Place) (entry : Entry) : World :=
  let above := (List.range place.length).map place.take
  let missing := above.filter fun p => (w.entryAt p).isNone
  (missing.foldl (fun w p => w.put p .directory) w).put place entry

/-- The world after bytes are written to a file, which is made if it is missing. -/
def write (w : World) (path : Pathname) (content : List UInt8) : Except AccessError World :=
  match w.locate true path with
  | .error e => .error e
  | .ok ⟨place, none⟩ => .ok (w.put place (.file content))
  | .ok ⟨place, some (.file _)⟩ => .ok (w.put place (.file content))
  | .ok ⟨_, some _⟩ => .error .isDirectory

/-- The world after bytes are added to the end of a file, which is made if it is missing. -/
def append (w : World) (path : Pathname) (content : List UInt8) : Except AccessError World :=
  match w.locate true path with
  | .error e => .error e
  | .ok ⟨place, none⟩ => .ok (w.put place (.file content))
  | .ok ⟨place, some (.file before)⟩ => .ok (w.put place (.file (before ++ content)))
  | .ok ⟨_, some _⟩ => .error .isDirectory

/-- The world with one more directory. -/
def makeDirectory (w : World) (path : Pathname) : Except AccessError World :=
  match w.locate false path with
  | .error e => .error e
  | .ok ⟨place, none⟩ => .ok (w.put place .directory)
  | .ok ⟨_, some _⟩ => .error .alreadyThere

/-- The world with a directory; where something is there already it must be one.  An error
comes with the path that it is about, and leaves the world as it was. -/
def ensureDirectory (w : World) (path : Pathname) : World × Except (AccessError × Pathname) Unit :=
  match w.makeDirectory path with
  | .ok made => (made, .ok ())
  | .error e =>
    (w, if e != .missing && w.isDirectory path then .ok () else .error (e, path))

/-- The world with a directory and all those above it, `depth` of them at most.  The
directories that are made before one is refused stay. -/
def makeDirectoriesUpTo :
    Nat → World → Pathname → World × Except (AccessError × Pathname) Unit
  | 0, w, path => w.ensureDirectory path
  | depth + 1, w, path =>
    match w.makeDirectory path with
    | .ok made => (made, .ok ())
    | .error .missing =>
      match makeDirectoriesUpTo depth w path.parent with
      | (above, .ok ()) => above.ensureDirectory path
      | (above, .error e) => (above, .error e)
    | .error e => (w, if w.isDirectory path then .ok () else .error (e, path))

/-- The world with a directory and all those above it. -/
def makeDirectories (w : World) (path : Pathname) :
    World × Except (AccessError × Pathname) Unit :=
  makeDirectoriesUpTo path.names.length w path

end World

end Files
end ContractAudit
