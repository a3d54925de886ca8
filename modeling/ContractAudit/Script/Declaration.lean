import ContractAudit.Script.Expression

/-!
# Declarations

Variables, functions, classes and the declarations of types.
-/

namespace ContractAudit
namespace Script

open ContractAudit.Tree (Concrete)
open ContractAudit.Script.Parser

/-! ## Variables -/

/-- A variable with its type and its first value; the flag says that an operand
came last. -/
def declarator (m : Mode) : Parser (Concrete × Bool) := do
  let target ← goal (.pattern true)
  let hasTypes ← isTyped
  if hasTypes then
    let _ ← optional (do
      mark "!"
      require (mark ":"))
  let annotation ← optional typeAnnotation
  let value ← optional (initializer m)
  return (around "variable_declarator" (inField "name" target
    :: annotation.toList.map (inField "type") ++ value.toList.map (inField "value")),
    value.isSome)

/-- Declarators separated by commas. -/
def declarators (m : Mode) : Parser (List Concrete × Bool) := do
  let items ← commaList (declarator m)
  return (items.map (·.1), (items.getLast?.map (·.2)).getD false)

/-- A declaration of variables, up to the end that is given. -/
def variableList (m : Mode) (ending : Bool → Parser Unit) : Parser Concrete := do
  trivia
  let start ← here
  let keyword ← wordOf ["var", "let", "const"]
  if keyword == "let" then guard (!(← endsHere true))
  let (items, afterOperand) ← declarators m
  ending afterOperand
  let kind := if keyword == "var" then "variable_declaration" else "lexical_declaration"
  return .mk (← labelAt kind start) items

/-- A declaration of variables as a statement. -/
def variableStatement : Parser Concrete :=
  variableList .statement statementEnd

/-- A declaration of resources that are released at the end of their scope. -/
def usingStatement : Parser Concrete :=
  construct "using_declaration" do
    guard (!(← isTyped))
    let _ ← optional (do
      word "await"
      require (word "using"))
    word "using"
    guard (!(← endsHere true))
    require identifier
    let (items, afterOperand) ← declarators .statement
    statementEnd afterOperand
    return items

/-! ## Functions and classes -/

/-- The name of a declared function. -/
def functionName : Parser Concrete := do
  return inField "name" (← identifier)

/-- A function with a body. -/
def functionDeclaration : Parser Concrete := do
  trivia
  let start ← here
  let (isAsync, generator) ← functionHead .statement
  let name ← functionName
  let parts ← signature
  let body ← functionBody
  let kind := if generator then "generator_function_declaration" else "function_declaration"
  return .mk (← labelAt kind start) (isAsync ++ [name] ++ parts ++ [body])

/-- A function without a body, in a language with types. -/
def functionSignature : Parser Concrete :=
  construct "function_signature" do
    typed
    let (isAsync, _) ← functionHead .statement
    let name ← functionName
    let parts ← callSignature
    if !(← test fun s pos => s.impliedEnd false true pos) then mark ";"
    return isAsync ++ [name] ++ parts

/-- A class with a name. -/
def classDeclaration : Parser Concrete := do
  trivia
  let start ← here
  let decorators ← many decorator
  let isAbstract ← accept (do
    typed
    word "abstract"
    require (word "class"))
  let parts ← classFrom true
  let kind := if isAbstract then "abstract_class_declaration" else "class_declaration"
  return .mk (← labelAt kind start) (decorators ++ parts)

/-! ## Types -/

/-- The name of a declared type. -/
def typeName : Parser Concrete := do
  return inField "name" (← valueName "type_identifier")

/-- An interface. -/
def interfaceDeclaration : Parser Concrete :=
  construct "interface_declaration" do
    typed
    word "interface"
    let name ← typeName
    let generics ← optional typeParameters
    let extended ← optional <| construct "extends_type_clause" do
      word "extends"
      commaList (goal .type)
    let body ← goal .objectType
    return name :: generics.toList ++ extended.toList
      ++ [inField "body" (ofKind "interface_body" body)]

/-- A name for a type. -/
def typeAlias : Parser Concrete :=
  construct "type_alias_declaration" do
    typed
    word "type"
    guard (!(← endsHere true))
    let name ← typeName
    let generics ← optional typeParameters
    assignMark
    let value ← goal .type
    statementEnd false
    return name :: generics.toList ++ [inField "value" value]

/-- A type with a fixed list of values. -/
def enumDeclaration : Parser Concrete :=
  construct "enum_declaration" do
    typed
    let _ ← optional (do
      word "const"
      require (word "enum"))
    word "enum"
    let name ← identifier
    let member := do
      let key ← propertyName
      match ← optional (initializer .enclosed) with
      | some value => return around "enum_assignment" [inField "name" key, inField "value" value]
      | none => return key
    let body ← construct "enum_body" (closedList "\x7b" "\x7d" member)
    return [inField "name" name, inField "body" body]

/-- The name of a module: a string or a path of names. -/
def moduleName : Parser Concrete :=
  string <|> do
    let head ← identifier
    extend (fun e => do
      mark "."
      let name ← freeName "property_identifier"
      return around "nested_identifier" [inField "object" e, inField "property" name]) head

/-- A named group of declarations. -/
def moduleDeclaration (keyword kind : String) : Parser Concrete :=
  construct kind do
    typed
    word keyword
    guard (!(← endsHere true))
    let name ← moduleName
    let body ← optional (goal .block)
    return inField "name" name :: body.toList.map (inField "body")

/-- Another name for a part of a module. -/
def importAlias : Parser Concrete :=
  construct "import_alias" do
    typed
    word "import"
    let _ ← optional (do
      word "type"
      require identifier)
    let name ← identifier
    assignMark
    let target ← moduleName
    statementEnd true
    return [name, target]

/-! ## All declarations -/

/-- A declaration other than an ambient one. -/
def plainDeclaration : Parser Concrete :=
  functionDeclaration <|> functionSignature <|> classDeclaration <|> enumDeclaration <|>
    variableStatement <|> usingStatement <|> interfaceDeclaration <|> typeAlias <|>
    moduleDeclaration "module" "module" <|> moduleDeclaration "namespace" "internal_module" <|>
    importAlias

/-- A declaration of something that is defined elsewhere. -/
def ambientDeclaration : Parser Concrete :=
  construct "ambient_declaration" do
    typed
    word "declare"
    guard (!(← endsHere true))
    let global := do
      word "global"
      goal .block
    return [← global <|> plainDeclaration]

/-- A declaration. -/
def declaration : Parser Concrete :=
  plainDeclaration <|> ambientDeclaration

end Script
end ContractAudit
