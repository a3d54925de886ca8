import ContractAudit.Script.Linkage

/-!
# Statements

Blocks, branches, loops and the other statements.  Each statement is known by
its first word or mark; what has none of its own is a labelled statement or an
expression.
-/

namespace ContractAudit
namespace Script

open ContractAudit.Tree (Concrete)
open ContractAudit.Script.Parser

/-- A list of statements in braces. -/
def block : Parser Concrete :=
  construct "statement_block" do
    mark "\x7b"
    let body ← many (goal .statement)
    lead
    mark "\x7d"
    return body

/-- A statement that is an expression. -/
def expressionStatement : Parser Concrete := do
  lead
  let start ← here
  let e ← expressions .statement
  statementEnd true
  return .mk (← labelAt "expression_statement" start) [e]

/-- A block, or an object where a name and a colon open the braces and the whole
reads as an object. -/
def bracedStatement : Parser Concrete := do
  require (mark "\x7b")
  if ← labelAhead then expressionStatement <|> goal .block
  else goal .block <|> expressionStatement

/-- A lone semicolon. -/
def emptyStatement : Parser Concrete :=
  construct "empty_statement" do
    mark ";"
    return []

/-! ## Branches -/

/-- A condition in parentheses. -/
def condition : Parser Concrete := do
  return inField "condition" (← parenthesized)

/-- A choice between two statements. -/
def ifStatement : Parser Concrete :=
  construct "if_statement" do
    word "if"
    let c ← condition
    let yes ← goal .statement
    let no ← optional <| construct "else_clause" do
      word "else"
      return [← goal .statement]
    return c :: inField "consequence" yes :: no.toList.map (inField "alternative")

/-- A branch of a choice by value. -/
def switchCase : Parser Concrete :=
  let body := many (goal .statement)
  (construct "switch_case" do
    word "case"
    let value ← expressions .enclosed
    mark ":"
    return inField "value" value :: (← body).map (inField "body")) <|>
  construct "switch_default" do
    word "default"
    mark ":"
    return (← body).map (inField "body")

/-- A choice by value. -/
def switchStatement : Parser Concrete :=
  construct "switch_statement" do
    word "switch"
    let value ← parenthesized
    let body ← construct "switch_body" do
      mark "\x7b"
      let cases ← many switchCase
      lead
      mark "\x7d"
      return cases
    return [inField "value" value, inField "body" body]

/-! ## Loops -/

/-- The mode of the start of a loop, where membership is not an operator. -/
def loopMode : Mode := ⟨false, false, true⟩

/-- The head of a loop over the members of something. -/
def eachHead : Parser (List Concrete) := do
  let declared := do
    let keyword ← wordOf ["var", "let", "const", "using"]
    let target ← goal (.pattern true)
    let value ← if keyword == "var" then optional (initializer loopMode) else pure none
    return inField "left" target :: value.toList.map (inField "value")
  let plain := do
    let target ← parenthesized <|> goal (.pattern false)
    return [inField "left" target]
  let withEach (p : Parser (List Concrete)) := do
    let left ← p
    let _ ← wordOf ["in", "of"]
    let right ← expressions .enclosed
    mark ")"
    return left ++ [inField "right" right]
  withEach declared <|> withEach plain

/-- The head of a loop with a start, a condition and a step. -/
def countedHead : Parser (List Concrete) := do
  let ended (_ : Bool) := mark ";"
  let start ← emptyStatement <|> variableList loopMode ended <|> do
    let e ← expressions loopMode
    mark ";"
    return e
  let test ← emptyStatement <|> do
    let e ← expressions .enclosed
    mark ";"
    return e
  let step ← optional (expressions .enclosed)
  mark ")"
  return inField "initializer" start :: inField "condition" test
    :: step.toList.map (inField "increment")

/-- A loop with a head. -/
def forStatement : Parser Concrete := do
  trivia
  let start ← here
  word "for"
  let _ ← optional (word "await")
  mark "("
  let (kind, head) ← (do return ("for_in_statement", ← eachHead)) <|>
    (do return ("for_statement", ← countedHead))
  let body ← goal .statement
  return .mk (← labelAt kind start) (head ++ [inField "body" body])

/-- A loop that tests first. -/
def whileStatement : Parser Concrete :=
  construct "while_statement" do
    word "while"
    let c ← condition
    return [c, inField "body" (← goal .statement)]

/-- A loop that tests last. -/
def doStatement : Parser Concrete :=
  construct "do_statement" do
    word "do"
    let body ← goal .statement
    word "while"
    let c ← condition
    let _ ← optional (mark ";")
    return [inField "body" body, c]

/-! ## Leaving and failing -/

/-- A jump, maybe to a label. -/
def jumpStatement (keyword kind : String) : Parser Concrete :=
  construct kind do
    word keyword
    if ← endsHere false then return []
    else
      let target ← optional (valueName "statement_identifier")
      statementEnd false
      return target.toList.map (inField "label")

/-- The end of a function. -/
def returnStatement : Parser Concrete :=
  construct "return_statement" do
    word "return"
    if ← endsHere false then return []
    else
      let value ← optional (expressions .statement)
      statementEnd true
      return value.toList

/-- The start of a failure. -/
def throwStatement : Parser Concrete :=
  construct "throw_statement" do
    word "throw"
    let value ← expressions .statement
    statementEnd true
    return [value]

/-- A block with handlers for failures. -/
def tryStatement : Parser Concrete :=
  construct "try_statement" do
    word "try"
    let body ← goal .block
    let handler ← optional <| construct "catch_clause" do
      word "catch"
      let parameter ← optional (do
        mark "("
        let target ← goal (.pattern true)
        let annotation ← optional typeAnnotation
        mark ")"
        return inField "parameter" target :: annotation.toList.map (inField "type"))
      return parameter.getD [] ++ [inField "body" (← goal .block)]
    let finalizer ← optional <| construct "finally_clause" do
      word "finally"
      return [inField "body" (← goal .block)]
    return inField "body" body :: handler.toList.map (inField "handler")
      ++ finalizer.toList.map (inField "finalizer")

/-- A statement in the scope of an object. -/
def withStatement : Parser Concrete :=
  construct "with_statement" do
    word "with"
    let target ← parenthesized
    return [inField "object" target, inField "body" (← goal .statement)]

/-- A stop for an inspecting tool. -/
def debuggerStatement : Parser Concrete :=
  construct "debugger_statement" do
    word "debugger"
    statementEnd false
    return []

/-- A statement with a label. -/
def labeledStatement : Parser Concrete :=
  construct "labeled_statement" do
    let name ← valueName "statement_identifier"
    mark ":"
    return [inField "label" name, inField "body" (← goal .statement)]

/-- A group of declarations as a statement. -/
def moduleStatement : Parser Concrete := do
  let group ← moduleDeclaration "namespace" "internal_module"
  return around "expression_statement" [group]

/-- A statement that is known by its first word. -/
def wordStatement (text : String) : Parser Concrete :=
  match text with
  | "if" => ifStatement
  | "switch" => switchStatement
  | "for" => forStatement
  | "while" => whileStatement
  | "do" => doStatement
  | "try" => tryStatement
  | "with" => withStatement
  | "break" => jumpStatement "break" "break_statement"
  | "continue" => jumpStatement "continue" "continue_statement"
  | "return" => returnStatement
  | "throw" => throwStatement
  | "debugger" => debuggerStatement
  | "import" => importStatement <|> importAlias
  | "export" => exportStatement
  | "namespace" => moduleStatement
  | _ => declaration

/-- Words that open statements and never expressions. -/
def statementWords : List String :=
  [ "if", "switch", "for", "while", "do", "try", "with", "break", "continue", "return", "throw",
    "debugger", "export", "var", "const" ]

/-- Words that open declarations, and never expressions, in languages with types. -/
def typedStatementWords : List String :=
  ["interface", "enum", "abstract"]

/-- Words that open a declaration, or an expression where no name follows them or
an operator needs their value. -/
def callableWords : List String :=
  ["function", "async", "class"]

/-- Something that needs a left side and so cannot start a statement. -/
def leftSeeker : Parser Unit :=
  (do
    mark "."
    refuse (charOf Char.isDigit)) <|>
  mark "?" <|> mark "," <|>
  (do
    let _ ← wordOf ["in", "instanceof"]) <|>
  (do
    trivia
    refuse (charOf "<+-/".toList.contains)
    let _ ← markOperator) <|>
  mark "<<" <|> mark "<="

/-- A statement that starts with a name. -/
def namedStatement (text : String) : Parser Concrete := do
  let declares := (← isTyped) && typedStatementWords.contains text
  if declares || statementWords.contains text then wordStatement text
  else
    let known := do
      let s ← wordStatement text
      if callableWords.contains text then refuse leftSeeker
      return s
    known <|> labeledStatement <|> expressionStatement

/-- A statement. -/
def statement : Parser Concrete := do
  lead
  let name ← optional (do
    let pos ← here
    let (_, text) ← anyName
    goto pos
    return text)
  match name with
  | some text => namedStatement text
  | none =>
    bracedStatement <|> emptyStatement <|> exportStatement <|> classDeclaration
      <|> expressionStatement

end Script
end ContractAudit
