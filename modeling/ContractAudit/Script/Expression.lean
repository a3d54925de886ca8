import ContractAudit.Script.Callable
import ContractAudit.Script.Element

/-!
# Expressions

Operands are read first, with everything that clings to them: members, calls,
templates and assignments.  A row of operands with operators between them is
then put together by {lit}`climb` according to the rank of the operators.
-/

namespace ContractAudit
namespace Script

open ContractAudit.Tree (Concrete)
open ContractAudit.Script.Parser

/-! ## Operators -/

/-- An operator between two operands. -/
structure Operator where
  rank : Nat
  kind : String := "binary_expression"
  /-- Equal operators are put together from the right. -/
  rightward : Bool := false

/-- The marks that can follow an operand, longer ones before their beginnings, with
their rank; marks of rank zero are not operators between operands. -/
def operatorMarks : List (String × Nat) :=
  [ (">>>=", 0), (">>>", 10), (">>=", 0), (">>", 10), ("<<=", 0), ("<<", 10), ("**=", 0),
    ("**", 13), ("===", 8), ("!==", 8), ("==", 8), ("!=", 8), ("<=", 9), (">=", 9), ("&&=", 0),
    ("&&", 4), ("||=", 0), ("||", 3), ("??=", 0), ("??", 2), ("=>", 0), ("+=", 0), ("++", 0),
    ("-=", 0), ("--", 0), ("*=", 0), ("/=", 0), ("%=", 0), ("&=", 0), ("^=", 0), ("|=", 0),
    ("<", 9), (">", 9), ("+", 11), ("-", 11), ("*", 12), ("/", 12), ("%", 12), ("&", 7), ("^", 6),
    ("|", 5) ]

/-- The marks that assign and compute at once. -/
def updatingMarks : List String :=
  [">>>=", ">>=", "<<=", "**=", "&&=", "||=", "??=", "+=", "-=", "*=", "/=", "%=", "&=", "^=", "|="]

/-- The operator mark at a position. -/
def operatorAt? (s : Source) (pos : Nat) : Option (String × Nat) :=
  operatorMarks.find? fun o => s.startsWith pos o.1

/-- An operator of marks. -/
def markOperator : Parser Operator := do
  trivia
  match operatorAt? (← source) (← here) with
  | some (text, rank + 1) =>
    exactly text
    return { rank := rank + 1, rightward := text == "**" }
  | _ => fail

/-- An operator that is a word. -/
def wordOperator (m : Mode) : Parser Operator := do
  let _ ← wordOf (if m.membership then ["in", "instanceof"] else ["instanceof"])
  return { rank := 9 }

/-- An operand with the operator before it. -/
structure Link where
  operator : Operator
  right : Option Concrete

/-- An operator and its right side; with types this may be a type. -/
def link (m : Mode) : Parser Link := do
  continues m
  let typeLink := do
    typed
    let text ← wordOf ["as", "satisfies"]
    let operator : Operator := { rank := 9, kind := text ++ "_expression" }
    if text == "as" && (← accept (word "const")) then return ⟨operator, none⟩
    else return ⟨operator, some (← goal .type)⟩
  let valueLink := do
    let operator ← markOperator <|> wordOperator m
    return ⟨operator, some (← goal (.operand m))⟩
  typeLink <|> valueLink

/-- A left side that waits for its right side. -/
structure Waiting where
  left : Concrete
  operator : Operator

/-- Puts waiting left sides together with a right side as long as their operators
bind at least as strongly as the next one. -/
def settle (next : Operator) : List Waiting → Concrete → List Waiting × Concrete
  | [], right => ([], right)
  | w :: ws, right =>
    if next.rank < w.operator.rank || (next.rank == w.operator.rank && !next.rightward) then
      settle next ws (around w.operator.kind [inField "left" w.left, inField "right" right])
    else (w :: ws, right)

/-- Puts all waiting left sides together. -/
def settleAll (stack : List Waiting) (right : Concrete) : Concrete :=
  stack.foldl (fun r w => around w.operator.kind [inField "left" w.left, inField "right" r]) right

/-- Puts a row of operands together. -/
def climb : List Waiting → Concrete → List Link → Concrete
  | stack, e, [] => settleAll stack e
  | stack, e, l :: ls =>
    let (stack, left) := settle l.operator stack e
    match l.right with
    | some right => climb (⟨left, l.operator⟩ :: stack) right ls
    | none => climb stack (around l.operator.kind [left]) ls

/-! ## Arrow functions -/

/-- Whether a brace is followed by a name and a colon, so that it may open an
object as well as a block with a labelled statement. -/
def labelAhead : Parser Bool :=
  ahead (do
    mark "\x7b"
    let _ ← identifier
    mark ":")

/-- The body of an arrow function. -/
def arrowBody (m : Mode) : Parser Concrete := do
  let value := goal (.expression m)
  let body ← if ← markAhead "\x7b" then
      if ← labelAhead then value <|> goal .block else goal .block <|> value
    else value
  return inField "body" body

/-- The parameters of an arrow function: one name, or a list with more around it. -/
def arrowParameters (m : Mode) : Parser (List Concrete) :=
  (do
    let name ← identifier
    require (mark "=>")
    return [inField "parameter" name]) <|> do
  trivia
  require (charOf fun c => c == '(' || c == '<')
  let hasTypes ← isTyped
  let generics ← optional typeParameters
  let parameters ← formalParameters
  let result ← if hasTypes && m.arrowTypes then optional resultAnnotation else pure none
  return generics.toList ++ [inField "parameters" parameters]
    ++ result.toList.map (inField "return_type")

/-- An arrow function. -/
def arrowFunction (m : Mode) : Parser Concrete :=
  construct "arrow_function" do
    let isAsync ← optional (do
      trivia
      let start ← here
      word "async"
      let l ← labelAt "async" start
      continues m
      refuse (mark "=>")
      return Concrete.mk { l with named := false } [])
    let parameters ← arrowParameters m
    mark "=>"
    return isAsync.toList ++ parameters ++ [← arrowBody m]

/-! ## Literals with parts -/

/-- A spread list of values. -/
def spreadElement : Parser Concrete :=
  construct "spread_element" do
    mark "..."
    return [← goal (.expression .enclosed)]

/-- The arguments of a call. -/
def callArguments : Parser Concrete := do
  let list ← construct "arguments"
    (sparseList "(" ")" (spreadElement <|> goal (.expression .enclosed)))
  return inField "arguments" list

/-- An array. -/
def arrayLiteral : Parser Concrete :=
  construct "array" (sparseList "[" "]" (spreadElement <|> goal (.expression .enclosed)))

/-- A property with its value. -/
def pair : Parser Concrete :=
  construct "pair" do
    let key ← propertyName
    mark ":"
    return [inField "key" key, inField "value" (← goal (.expression .enclosed))]

/-- A property with the value of the variable of its name. -/
def shorthandProperty : Parser Concrete := do
  let name ← valueName "shorthand_property_identifier"
  require (mark "," <|> mark "\x7d")
  return name

/-- An object. -/
def objectLiteral : Parser Concrete :=
  construct "object" do
    sparseList "\x7b" "\x7d" (spreadElement <|> pair <|> shorthandProperty <|> methodDefinition)

/-- Expressions between parentheses; with types, an annotation may follow. -/
def parenthesized : Parser Concrete :=
  construct "parenthesized_expression" do
    mark "("
    let e ← expressions .enclosed
    let annotation ← optional typeAnnotation
    mark ")"
    return e :: annotation.toList

/-! ## Primary expressions -/

/-- Words that are expressions of their own. -/
def constantWords : List String := ["this", "super", "null", "true", "false", "undefined"]

/-- A word that is an expression of its own. -/
def constant : Parser Concrete := do
  let (start, text) ← anyName
  guard (constantWords.contains text)
  leafFrom text start

/-- What belongs to the place of a call rather than to a value. -/
def metaProperty : Parser Concrete := do
  trivia
  let start ← here
  (do word "new"; mark "."; word "target") <|> (do word "import"; mark "."; word "meta")
  leafFrom "meta_property" start

/-- A loaded module as a callee. -/
def importCallee : Parser Concrete := do
  let i ← wordLeaf "import" "import"
  require (mark "(" <|> mark ".")
  return i

/-- A construction of a value; the callee takes no arguments of its own. -/
def newExpression (inner : Parser Concrete) : Parser Concrete :=
  construct "new_expression" do
    word "new"
    let callee ← inner
    let generics ← optional (do
      let g ← typeArguments
      require (mark "(")
      return g)
    let arguments ← optional callArguments
    return inField "constructor" callee :: generics.toList ++ arguments.toList

/-- An expression without anything that clings to it. -/
def plainPrimary (m : Mode) : Parser Concrete :=
  arrowFunction m <|> parenthesized <|> functionExpression m <|> constant <|> metaProperty <|>
    importCallee <|> classExpression <|> number <|> string <|> (do trivia; templateString) <|>
    arrayLiteral <|> objectLiteral <|> regex <|> identifier

/-- A member access step: a name, an index or an optional one of them. -/
def memberStep (e : Concrete) : Parser Concrete := do
  let name := privateName <|> freeName "property_identifier"
  let indexed (chain : List Concrete) := do
    mark "["
    let i ← expressions .enclosed
    mark "]"
    return around "subscript_expression" (inField "object" e :: chain ++ [inField "index" i])
  let optionalStep := do
    trivia
    let start ← here
    exactly "?."
    refuse (charOf Char.isDigit)
    let chain := inField "optional_chain" (.mk (← labelAt "optional_chain" start) [])
    indexed [chain] <|> do
      let p ← name
      return around "member_expression" [inField "object" e, chain, inField "property" p]
  let plainStep := do
    mark "."
    refuse (exactly ".")
    let p ← name
    return around "member_expression" [inField "object" e, inField "property" p]
  optionalStep <|> plainStep <|> indexed []

/-- A template after a callee. -/
def templateStep (e : Concrete) : Parser Concrete := do
  trivia
  let t ← templateString
  return around "call_expression" [inField "function" e, inField "arguments" t]

/-- The claim that a value is there. -/
def nonNullStep (e : Concrete) : Parser Concrete := do
  typed
  mark "!"
  refuse (exactly "=")
  return around "non_null_expression" [e]

/-- The optional call mark: a field of the call, or with types a bare token. -/
def optionalCallMark : Parser Concrete := do
  trivia
  let start ← here
  exactly "?."
  refuse (charOf Char.isDigit)
  let l ← labelAt "optional_chain" start
  if ← isTyped then return .mk { l with kind := "?.", named := false } []
  else return inField "optional_chain" (.mk l [])

/-- A call. -/
def callStep (e : Concrete) : Parser Concrete := do
  let chain ← optional optionalCallMark
  let generics ← optional typeArguments
  let arguments ← callArguments
  return around "call_expression" (inField "function" e :: chain.toList
    ++ generics.toList.map (inField "type_arguments") ++ [arguments])

/-- A generic name whose arguments are given without a call. -/
def instantiationStep (e : Concrete) : Parser Concrete := do
  let arguments ← typeArguments
  trivia
  let closes ← test fun s pos =>
    s.atEnd pos || s.charIs pos (fun c => ";,.)]\x7d=:".toList.contains c)
  let ends ← endsHere true
  guard (closes || ends)
  return around "instantiation_expression" [e, inField "type_arguments" arguments]

/-- Constructions without arguments of the callee, as deep as the text is long. -/
def newChain (m : Mode) : Parser Concrete := do
  let head ← metaProperty <|> newExpression (goal (.newCallee m)) <|> plainPrimary m
  extend (fun e => memberStep e <|> templateStep e <|> nonNullStep e) head

/-- An expression with the members and calls that cling to it. -/
def chain (m : Mode) : Parser Concrete := do
  let head ← metaProperty <|> newExpression (goal (.newCallee m)) <|> plainPrimary m
  extend (fun e => do
    continues m
    memberStep e <|> callStep e <|> templateStep e <|> nonNullStep e <|> instantiationStep e) head

/-! ## Operands -/

/-- An operator in front of its operand. -/
def unaryExpression (m : Mode) : Parser Concrete :=
  let signMark := markNot "+" "+" <|> markNot "-" "-" <|> mark "!" <|> mark "~"
  let signWord := do
    let _ ← wordOf ["typeof", "void", "delete"]
  construct "unary_expression" do
    signMark <|> signWord
    return [inField "argument" (← goal (.operand m))]

/-- A counter that is stepped before it is read. -/
def steppedBefore (m : Mode) : Parser Concrete :=
  construct "update_expression" do
    mark "++" <|> mark "--"
    return [inField "argument" (← goal (.operand m))]

/-- A value that is waited for. -/
def awaitExpression (m : Mode) : Parser Concrete :=
  construct "await_expression" do
    word "await"
    return [← goal (.operand m)]

/-- A value that is handed out. -/
def yieldExpression (m : Mode) : Parser Concrete :=
  construct "yield_expression" do
    word "yield"
    if m.open_ && (← endsHere true) then return []
    else if ← accept (mark "*") then return [← goal (.expression m)]
    else return (← optional (goal (.expression m))).toList

/-- A value that is taken to be of a type. -/
def typeAssertion (m : Mode) : Parser Concrete :=
  construct "type_assertion" do
    guard ((← source).grammar == .typescript)
    let arguments ← typeArguments
    return [arguments, ← goal (.operand m)]

/-- An element as an operand. -/
def elementOperand : Parser Concrete := do
  guard (← source).hasElements
  require (mark "<")
  goal .element

/-- A private name that is looked for in an object. -/
def privateOperand : Parser Concrete := do
  let name ← privateName
  require (word "in")
  return name

/-- An assignment to a left side that is read already. -/
def assignTo (m : Mode) (left : Concrete) : Parser Concrete :=
  (do
    assignMark
    let right ← goal (.expression m)
    return around "assignment_expression" [inField "left" left, inField "right" right]) <|> do
  trivia
  match operatorAt? (← source) (← here) with
  | some (text, _) =>
    guard (updatingMarks.contains text && left.label.kind != "object_pattern"
      && left.label.kind != "array_pattern")
    exactly text
    let right ← goal (.expression m)
    return around "augmented_assignment_expression" [inField "left" left, inField "right" right]
  | none => fail

/-- An assignment to the parts of an object or an array. -/
def patternAssignment (m : Mode) : Parser Concrete := do
  trivia
  require (charOf fun c => c == '\x7b' || c == '[')
  let left ← goal (.pattern false)
  assignMark
  let right ← goal (.expression m)
  return around "assignment_expression" [inField "left" left, inField "right" right]

/-- A counter that is stepped after it is read, or an assignment. -/
def afterChain (m : Mode) (e : Concrete) : Parser Concrete :=
  (do
    continues m
    mark "++" <|> mark "--"
    return around "update_expression" [inField "argument" e]) <|>
  (do
    guard ((assignableKinds ++ ["parenthesized_expression"]).contains e.label.kind)
    assignTo m e) <|>
  pure e

/-- An operand that starts with a name, a literal or a bracket. -/
def chainOperand (m : Mode) : Parser Concrete := do
  let e ← goal (.chain m)
  if ["object", "array"].contains e.label.kind then refuse assignMark
  afterChain m e

/-- An operand. -/
def operand (m : Mode) : Parser Concrete := do
  lead
  steppedBefore m <|> unaryExpression m <|> awaitExpression m <|> yieldExpression m <|>
    privateOperand <|> chainOperand m <|> patternAssignment m <|> typeAssertion m <|>
    elementOperand

/-! ## Expressions -/

/-- The question mark of a condition. -/
def conditionMark : Parser Unit := do
  mark "?"
  refuse (exactly "?")
  let dot ← ahead (exactly ".")
  let digit ← ahead (do exactly "."; charOf Char.isDigit)
  guard (!dot || digit)

/-- The two branches of a condition that is read already. -/
def branches (m : Mode) (condition : Concrete) : Parser Concrete := do
  continues m
  conditionMark
  let branch (arrowTypes : Bool) := do
    let yes ← goal (.expression ⟨false, true, arrowTypes⟩)
    mark ":"
    return yes
  let yes ← branch true <|> branch false
  let no ← goal (.expression m)
  return around "ternary_expression"
    [inField "condition" condition, inField "consequence" yes, inField "alternative" no]

/-- An expression without commas. -/
def expression (m : Mode) : Parser Concrete := do
  let first ← goal (.operand m)
  let links ← many (link m)
  let e := climb [] first links
  branches m e <|> pure e

end Script
end ContractAudit
