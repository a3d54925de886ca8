import ContractAudit.Script.Type

/-!
# Functions, methods and classes

What functions, methods and classes have in common wherever they stand: names,
signatures, bodies and members.
-/

namespace ContractAudit
namespace Script

open ContractAudit.Tree (Concrete)
open ContractAudit.Script.Parser

/-! ## Functions -/

/-- The signature of a function: its parameters and, with types, more. -/
def signature : Parser (List Concrete) := do
  if ← isTyped then callSignature
  else return [inField "parameters" (← formalParameters)]

/-- The body of a function. -/
def functionBody : Parser Concrete := do
  return inField "body" (← goal .block)

/-- The words that open a function: whether it is asynchronous, as a node, and
whether it is a generator. -/
def functionHead (m : Mode) : Parser (List Concrete × Bool) := do
  let isAsync ← optional (do
    trivia
    let start ← here
    word "async"
    let label ← labelAt "async" start
    continues m
    require (word "function")
    return Concrete.mk { label with named := false } [])
  word "function"
  let generator ← accept (mark "*")
  return (isAsync.toList, generator)

/-- A function as a value. -/
def functionExpression (m : Mode) : Parser Concrete := do
  trivia
  let start ← here
  let (isAsync, generator) ← functionHead m
  let name ← optional identifier
  let parts ← signature
  let body ← functionBody
  let kind := if generator then "generator_function" else "function_expression"
  return .mk (← labelAt kind start) (isAsync ++ name.toList.map (inField "name") ++ parts ++ [body])

/-! ## Members -/

/-- Words that may stand in front of the name of a member. -/
def memberWords (isTyped : Bool) : List String :=
  ["static", "async", "get", "set", "accessor"] ++
    if isTyped then accessWords ++ ["override", "readonly", "abstract", "declare"] else []

/-- A word in front of the name of a member: it is one only if a name follows. -/
def memberWord : Parser (String × List Concrete) := do
  trivia
  let start ← here
  let text ← wordOf (memberWords (← isTyped))
  let node ← leafFrom "accessibility_modifier" start
  trivia
  require (charOf fun c =>
    inName c || c == '[' || c == '#' || c == '*' || c == '\x22' || c == '\x27' || c == '\x5c')
  let children :=
    if accessWords.contains text then [node]
    else if text == "override" then [ofKind "override_modifier" node]
    else if text == "async" then
      match node with
      | .mk l cs => [Concrete.mk { l with kind := "async", named := false } cs]
    else []
  return (text, children)

/-- The start of a member up to its name: the words in front, their nodes, and
the name. -/
def memberHead : Parser (List String × List Concrete × Concrete) := do
  let decorators ← many decorator
  let words ← many memberWord
  let generator ← accept (mark "*")
  let _ := generator
  let name ← propertyName
  return (words.map (·.1), decorators ++ words.flatMap (·.2), inField "name" name)

/-- A method with its body. -/
def methodDefinition : Parser Concrete :=
  construct "method_definition" do
    let (_, before, name) ← memberHead
    if ← isTyped then
      let _ ← optional (mark "?")
    let parts ← signature
    let body ← functionBody
    return before ++ [name] ++ parts ++ [body]

/-- A method without a body. -/
def methodSignature : Parser Concrete := do
  trivia
  let start ← here
  typed
  let (words, before, name) ← memberHead
  let _ ← optional (mark "?")
  let parts ← callSignature
  let ends ← test fun s pos => s.impliedEnd false true pos
  if !ends then mark ";"
  let kind := if words.contains "abstract" then "abstract_method_signature" else "method_signature"
  return .mk (← labelAt kind start) (before ++ [name] ++ parts)

/-- A field of a class. -/
def fieldDefinition : Parser Concrete := do
  trivia
  let start ← here
  let hasTypes ← isTyped
  let (_, before, name) ← memberHead
  if hasTypes then
    let _ ← optional (mark "?" <|> markNot "!" "=")
  let annotation ← optional typeAnnotation
  let value ← optional (initializer .statement)
  statementEnd value.isSome
  let kind := if hasTypes then "public_field_definition" else "field_definition"
  let name := if hasTypes then name else inField "property" name
  return .mk (← labelAt kind start)
    (before ++ [name] ++ annotation.toList.map (inField "type")
      ++ value.toList.map (inField "value"))

/-- Statements that run once for a class. -/
def staticBlock : Parser Concrete :=
  construct "class_static_block" do
    word "static"
    return [← functionBody]

/-- An index signature of a class. -/
def classIndex : Parser Concrete := do
  typed
  let _ ← optional (word "static")
  let i ← indexSignature
  statementEnd false
  return i

/-- The members of a class between braces. -/
def classBody : Parser Concrete :=
  construct "class_body" do
    mark "\x7b"
    let _ ← many (mark ";")
    let members ← many (do
      refuse (mark "\x7d")
      let m ← staticBlock <|> methodDefinition <|> methodSignature <|> classIndex
        <|> fieldDefinition
      let _ ← many (mark ";")
      return m)
    mark "\x7d"
    return members

/-! ## Classes -/

/-- What a class extends, and with types also what it implements. -/
def classHeritage : Parser Concrete :=
  construct "class_heritage" do
    if ← isTyped then
      let extended ← optional <| construct "extends_clause" do
        word "extends"
        let parents ← commaList (do
          let value ← goal (.chain .enclosed)
          let arguments ← optional typeArguments
          return inField "value" value :: arguments.toList.map (inField "type_arguments"))
        return parents.flatten
      let implemented ← optional <| construct "implements_clause" do
        word "implements"
        commaList (goal .type)
      guard (extended.isSome || implemented.isSome)
      return extended.toList ++ implemented.toList
    else
      word "extends"
      return [← goal (.chain .enclosed)]

/-- A class from its keyword on; `named` says whether it must have a name. -/
def classFrom (named : Bool) : Parser (List Concrete) := do
  word "class"
  let hasTypes ← isTyped
  let nameKind := if hasTypes then "type_identifier" else "identifier"
  let name ← optional (do
    if hasTypes then refuse (word "implements")
    valueName nameKind)
  guard (name.isSome || !named)
  let generics ← optional typeParameters
  let heritage ← optional classHeritage
  let body ← goal .classBody
  return name.toList.map (inField "name") ++ generics.toList.map (inField "type_parameters")
    ++ heritage.toList ++ [inField "body" body]

/-- A class as a value. -/
def classExpression : Parser Concrete :=
  construct "class" do
    let decorators ← many decorator
    return decorators ++ (← classFrom false)

end Script
end ContractAudit
