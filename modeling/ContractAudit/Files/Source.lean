import ContractAudit.Files.World
import ContractAudit.Text.Decoding
import ContractAudit.Failure

/-!
# Source texts

A source file is read as a whole.  It is refused if it is larger than a limit,
if the system refuses it, or if its bytes are no text in its encoding.
-/

namespace ContractAudit
namespace Files

/-- A file selected for analysis: its path and its label in the report. -/
structure SourceFile where
  path : Pathname
  label : String
  deriving DecidableEq, Repr

/-- The fault of a file that the system refuses. -/
def accessFault (path : Pathname) (e : AccessError) : Failure :=
  .fault (.fileAccess path ("OS error: " ++ e.message path))

/-- The fault of a file that is larger than the limit. -/
def sizeFault (path : Pathname) (size : Nat) (limit : Int) : Failure :=
  .fault (.fileAccess path ("File size " ++ Number.natText size ++ " bytes exceeds limit of "
    ++ Number.intText limit ++ " bytes"))

namespace World

/-- Refuses a file that is larger than a limit, if there is one. -/
def checkSize (w : World) (path : Pathname) : Option Int → Except Failure Unit
  | none => .ok ()
  | some limit =>
    match w.stat path with
    | .error e => .error (accessFault path e)
    | .ok entry => if limit < entry.size then .error (sizeFault path entry.size limit) else .ok ()

/-- The text of a file; all line ends are line feeds. -/
def readText (w : World) (path : Pathname) (limit : Option Int) (encoding : String) :
    Except Failure (List Char) := do
  w.checkSize path limit
  match w.read path with
  | .error e => .error (accessFault path e)
  | .ok bytes =>
    match Text.Encoding.ofName? encoding with
    | none => .error (.unexpected .unknownName ("unknown encoding: " ++ encoding))
    | some e =>
      match e.decode bytes with
      | .ok cs => .ok (Text.normalizeNewlines cs)
      | .error bad => .error (.fault (.fileAccess path ("Encoding error: " ++ bad.message)))

end World

end Files
end ContractAudit
