import ContractAudit.Command.Execution

/-!
# The program

Takes a picture of the tree of files, executes the command line on it, prints
what that gives and makes the changes to the files.  The picture holds what the
command line, the settings and the patterns lead to, inside the working
directory or elsewhere, and nothing else is read.
-/

namespace ContractAudit
namespace Program

open Files (Place Entry Pathname SelectorPart World)

/-! ## Reading -/

/-- The text of a place. -/
def textOf (place : Place) : String :=
  (Pathname.mk .single place).text

/-- The content of a file, empty where it cannot be read. -/
def readContent (e : IO.FS.DirEntry) : IO (List UInt8) := do
  let .ok content ← (IO.FS.readBinFile e.path).toBaseIO | return []
  return content.toList

/-- The place a link leads to, or its own name where it leads nowhere. -/
def readTarget (e : IO.FS.DirEntry) : IO String := do
  let .ok target ← (IO.FS.realPath e.path).toBaseIO | return e.fileName
  return target.toString

/-- What stands under a name in a directory; a device stands for nothing. -/
def readEntry? (place : Place) (name : String) : IO (Option Entry) := do
  let e : IO.FS.DirEntry := { root := textOf place, fileName := name }
  let .ok data ← e.path.symlinkMetadata.toBaseIO | return none
  match data.type with
  | .file => return some (.file (← readContent e))
  | .symlink => return some (.link (← readTarget e))
  | .dir => return some .directory
  | .other => return none

/-- The entries of a directory, none where they cannot be listed. -/
def readEntries (place : Place) : IO (List IO.FS.DirEntry) := do
  let .ok path ← (IO.FS.realPath (textOf place)).toBaseIO | return []
  let .ok entries ← path.readDir.toBaseIO | return []
  return entries.toList

/-- Whether an entry is a directory itself, and no link to one. -/
def isDirectory (e : IO.FS.DirEntry) : IO Bool := do
  let .ok data ← e.path.symlinkMetadata.toBaseIO | return false
  return data.type == .dir

/-! ## The picture -/

/-- Puts what stands along some names into a picture.  Gives the directory that the names
lead to, if it is one. -/
partial def follow (w : World) (place : Place) : List String → IO (World × Option Place)
  | [] => return (w, some place)
  | ".." :: rest => follow w place.dropLast rest
  | name :: rest => do
    let next := place ++ [name]
    let known := w.entryAt next
    let some entry ← if known.isSome then pure known else readEntry? place name
      | return (w, none)
    let w := if known.isSome then w else w.put next entry
    match entry with
    | .file _ => return (w, none)
    | .directory => follow w next rest
    | .link target =>
      -- the system has resolved the target, so that no link is on the way to it
      let path := Pathname.parse target
      if path.isAbsolute then follow w [] (path.names ++ rest) else return (w, none)

/-- Puts what stands along a path into a picture. -/
def see (w : World) (path : Pathname) : IO (World × Option Place) :=
  follow w (if path.isAbsolute then [] else w.cwd) path.names

/-- Puts everything that the parts of a pattern can select below a directory into a
picture. -/
partial def gather (w : World) (place : Place) : List SelectorPart → IO World
  | [] => return w
  | .here :: _ => return w
  | .exact name :: rest => enter rest w name
  | .wild tokens :: rest => do
    let names := (← readEntries place).map (·.fileName)
    (names.filter fun name => Files.Glob.accepts tokens name.toList).foldlM (enter rest) w
  | .anyDepth :: rest => do
    let below ← (← readEntries place).filterM isDirectory
    (below.map (·.fileName)).foldlM (enter (.anyDepth :: rest)) (← gather w place rest)
where
  enter (rest : List SelectorPart) (w : World) (name : String) : IO World := do
    match ← follow w place [name] with
    | (w, none) => return w
    | (w, some next) => gather w next rest

/-- The paths that a command line names. -/
def namedPaths (w : World) (args : List String) : List Pathname :=
  match Command.scan Command.Opt.all false none args with
  | .error _ => []
  | .ok (given, _) => given.flatMap fun g =>
    let path := Pathname.parse g.value
    match g.opt with
    | .path => [path]
    | .config => [path]
    | .output => [path]
    | .logFile => [path, Command.fullPath w path]
    | _ => []

/-- Puts what the settings of a run lead to into a picture: the output file, and what the
patterns can select below the root. -/
def seeRun (w : World) (s : Config.Settings) : IO World := do
  let w ← match s.outputFile.path with
    | .ok path => Prod.fst <$> see w path
    | .error _ => pure w
  let .ok root := s.rootPath | return w
  let (w, some place) ← see w root | return w
  s.patternTexts.foldlM (fun w pattern => match Files.Selector.parse pattern with
    | .ok parts => gather w place parts
    | .error _ => pure w) w

/-- A picture of the tree of files, as far as a command line leads. -/
def readWorld (environment : Config.Environment) (args : List String) : IO World := do
  let cwd := (Pathname.parse (← IO.currentDir).toString).names
  let bare : World := World.plant ⟨cwd, []⟩ cwd .directory
  let files := [Config.projectFileName, Config.packageFileName]
  let paths := files.map (Config.inWorkingDirectory bare) ++ namedPaths bare args
  let w ← paths.foldlM (fun w path => Prod.fst <$> see w path) bare
  -- the settings follow from what the picture holds by now, and lead to the rest
  let .ok (.analysis o) := Command.interpret w args | return w
  let .ok opened := Command.openLog w o.logFile | return w
  let .ok s := Config.load opened environment o.config o.settings | return w
  seeRun w s

/-- The variables that can set something. -/
def readEnvironment : IO Config.Environment := do
  let values ← Config.Field.all.mapM fun f => do
    return (← IO.getEnv f.variableName).map fun v => (f.variableName, v)
  return values.filterMap id

/-! ## Writing -/

/-- Makes the changes between two pictures of the tree of files. -/
def writeChanges (before after : World) : IO Unit := do
  for (place, entry) in after.entries do
    let path := textOf place
    match entry with
    | .directory => if before.entryAt place != some .directory then IO.FS.createDirAll path
    | .file content =>
      if before.entryAt place != some (.file content) then
        IO.FS.writeBinFile path ⟨content.toArray⟩
    | .link _ => pure ()

end Program
end ContractAudit

/-- Executes the command line. -/
def main (args : List String) : IO UInt32 := do
  let environment ← ContractAudit.Program.readEnvironment
  let world ← ContractAudit.Program.readWorld environment args
  let outcome := ContractAudit.Command.execute world environment args false
  ContractAudit.Program.writeChanges world outcome.world
  IO.print outcome.stdout
  IO.eprint outcome.stderr
  return outcome.status.toUInt32
