import ContractAudit.Text.Quoted

/-!
# Flaws of settings documents

A document that cannot be read has a flaw at one of its characters.  A flaw
keeps the number of characters that were still to be read, so that no position
has to be carried through the reading.
-/

namespace ContractAudit
namespace Toml

open Number (natText)

/-- A key with its dotted parts. -/
abbrev Key := List String

/-- The parts of a key between brackets. -/
def keyText : Key → String
  | [part] => "(" ++ Text.quoted part ++ ",)"
  | parts => "(" ++ ", ".intercalate (parts.map Text.quoted) ++ ")"

/-- What is wrong with a document. -/
inductive Flaw where
  | statement
  | lineEnd
  | declaredTwice (key : Key)
  | immutableSpace (key : Key)
  | redefined (key : Key)
  | overwritten
  | duplicate (key : String)
  | tableEnd
  | arrayTableEnd
  | equalsSign
  | keyStart
  | unclosedArray
  | unclosedTable
  | badEscape
  | badHex
  | noScalar
  | unterminated
  | illegalChar (c : Char)
  | invalidChar (c : Char)
  | expected (delimiter : String)
  | noDate
  | value
  deriving DecidableEq, Repr

/-- The explanation of a flaw. -/
def Flaw.message : Flaw → String
  | statement => "Invalid statement"
  | lineEnd => "Expected newline or end of document after a statement"
  | declaredTwice key => "Cannot declare " ++ keyText key ++ " twice"
  | immutableSpace key => "Cannot mutate immutable namespace " ++ keyText key
  | redefined key => "Cannot redefine namespace " ++ keyText key
  | overwritten => "Cannot overwrite a value"
  | duplicate key => "Duplicate inline table key " ++ Text.quoted key
  | tableEnd => "Expected ']' at the end of a table declaration"
  | arrayTableEnd => "Expected ']]' at the end of an array declaration"
  | equalsSign => "Expected '=' after a key in a key/value pair"
  | keyStart => "Invalid initial character for a key part"
  | unclosedArray => "Unclosed array"
  | unclosedTable => "Unclosed inline table"
  | badEscape => "Unescaped '\\' in a string"
  | badHex => "Invalid hex value"
  | noScalar => "Escaped character is not a Unicode scalar value"
  | unterminated => "Unterminated string"
  | illegalChar c => "Illegal character " ++ Text.quoted (String.ofList [c])
  | invalidChar c => "Found invalid character " ++ Text.quoted (String.ofList [c])
  | expected delimiter => "Expected " ++ Text.quoted delimiter
  | noDate => "Invalid date or datetime"
  | value => "Invalid value"

/-- Why a document is not read: a flaw before the last `rest` characters, or an
integer of more digits than are read. -/
inductive Refusal where
  | flaw (what : Flaw) (rest : Nat)
  | longInteger (digits : Nat)
  deriving DecidableEq, Repr

/-- Line and column, counted from one, after the given characters. -/
def positionAfter (before : List Char) : Nat × Nat :=
  before.foldl (fun p c => if c == '\n' then (p.1 + 1, 1) else (p.1, p.2 + 1)) (1, 1)

/-- The explanation of a flaw and its place in the document. -/
def Flaw.located (f : Flaw) (source : List Char) (rest : Nat) : String :=
  let place :=
    if rest == 0 then "end of document"
    else
      let (line, column) := positionAfter (source.take (source.length - rest))
      "line " ++ natText line ++ ", column " ++ natText column
  f.message ++ " (at " ++ place ++ ")"

/-- The outcome of reading a part of a document: the part and what follows it. -/
abbrev Reading (α : Type) := Except Refusal (α × List Char)

/-- Refuses a document at the given remaining characters. -/
def fail {α : Type} (f : Flaw) (rest : List Char) : Except Refusal α :=
  .error (.flaw f rest.length)

end Toml
end ContractAudit
