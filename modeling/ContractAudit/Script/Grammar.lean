import ContractAudit.Script.Statement

/-!
# The grammar

Every goal has its parser; the depth to which goals may contain each other is
bounded by the length of the text, which no text exceeds.  A text that is not a
list of statements up to its end gets a concrete tree with an error node where
the first statement that cannot be read starts.
-/

namespace ContractAudit
namespace Script

open ContractAudit.Tree (Concrete Label)

/-- The parser of a goal. -/
def goalParser : Goal → Parser Concrete
  | .statement => statement
  | .block => block
  | .expression m => expression m
  | .operand m => operand m
  | .chain m => chain m
  | .newCallee m => newChain m
  | .pattern binding => pattern binding
  | .classBody => classBody
  | .element => element
  | .type => fullType
  | .plainType => plainType
  | .objectType => objectType

/-- Parses a goal with a bound on the depth. -/
def descend (source : Source) : Nat → Goal → Nat → Option (Concrete × Nat)
  | 0, _, _ => none
  | depth + 1, g, pos => (goalParser g).run ⟨source, descend source depth⟩ pos

/-- A depth that suffices: no character opens more goals than this many. -/
def depthBound (source : Source) : Nat :=
  16 * (source.chars.size + 4)

/-- The position behind a first line that names an interpreter. -/
def skipInterpreter (source : Source) : Nat :=
  if source.startsWith 0 "#!" then source.skipWhile (fun c => !isLineEnd c) 0 else 0

/-- The concrete tree of a text. -/
def parse (grammar : Tree.Grammar) (text : List Char) : Concrete :=
  let source := Source.ofText grammar text
  let env : Env := ⟨source, descend source (depthBound source)⟩
  let (statements, stop) :=
    Parser.repeatFrom (Parser.goal .statement) env (source.chars.size + 1)
      (skipInterpreter source) []
  let rest := source.skipLead stop
  let errors :=
    if source.atEnd rest then []
    else [Concrete.mk { kind := "ERROR", row := source.row rest, column := source.column rest } []]
  .mk { kind := "program" } (statements ++ errors)

end Script
end ContractAudit
