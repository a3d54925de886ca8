import ContractAudit.Script.Pattern

/-!
# Types

The types of annotations, aliases and interfaces.  A type is read from the
outside in: conditional types, functions, unions, intersections, operators,
and primary types with their index suffixes.
-/

namespace ContractAudit
namespace Script

open ContractAudit.Tree (Concrete)
open ContractAudit.Script.Parser

/-! ## Parts of signatures -/

/-- The parameters of a generic declaration. -/
def typeParameters : Parser Concrete :=
  construct "type_parameters" do
    typed
    closedList "<" ">" <| construct "type_parameter" do
      let modifiers ← many (do
        let _ ← wordOf ["const", "in", "out"]
        modifiesNext)
      let _ := modifiers
      let name ← valueName "type_identifier"
      let bound ← optional <| construct "constraint" do
        word "extends"
        return [← goal .type]
      let fallback ← optional <| construct "default_type" do
        assignMark
        return [← goal .type]
      return inField "name" name :: bound.toList.map (inField "constraint")
        ++ fallback.toList.map (inField "value")

/-- The arguments of a generic name. -/
def typeArguments : Parser Concrete :=
  construct "type_arguments" do
    typed
    mark "<"
    let items ← commaList (goal .type)
    let _ ← optional (mark ",")
    mark ">"
    return items

/-- A statement that a value is of a type. -/
def typePredicate : Parser Concrete :=
  construct "type_predicate" do
    let name ← identifier <|> wordLeaf "this" "this"
    word "is"
    return [inField "name" name, inField "type" (← goal .type)]

/-- A statement that a condition holds on return. -/
def assertsClause : Parser Concrete :=
  construct "asserts" do
    word "asserts"
    return [← typePredicate <|> identifier <|> wordLeaf "this" "this"]

/-- What stands for the result of a function type. -/
def resultType : Parser Concrete :=
  assertsClause <|> typePredicate <|> goal .type

/-- The result type of a function after a colon. -/
def resultAnnotation : Parser Concrete := do
  typed
  trivia
  let start ← here
  mark ":"
  match ← optional (assertsClause <|> typePredicate) with
  | some c =>
    let kind := if c.label.kind == "asserts" then "asserts_annotation"
      else "type_predicate_annotation"
    return .mk (← labelAt kind start) [c]
  | none => return .mk (← labelAt "type_annotation" start) [← goal .type]

/-- The parameters of a function with its type parameters and its result type. -/
def callSignature : Parser (List Concrete) := do
  let generics ← optional typeParameters
  let parameters ← formalParameters
  let result ← optional resultAnnotation
  return generics.toList.map (inField "type_parameters") ++ [inField "parameters" parameters]
    ++ result.toList.map (inField "return_type")

/-! ## Primary types -/

/-- Names of the built-in types. -/
def builtinTypes : List String :=
  ["any", "number", "boolean", "string", "symbol", "void", "unknown", "never", "object"]

/-- A built-in type. -/
def predefinedType : Parser Concrete := do
  trivia
  let start ← here
  let two := do
    word "unique"
    word "symbol"
  let one := do
    let _ ← wordOf builtinTypes
    refuse (exactly ".")
  two <|> one
  leafFrom "predefined_type" start

/-- A type that is one value. -/
def literalType : Parser Concrete :=
  construct "literal_type" do
    let negative := construct "unary_expression" do
      mark "-" <|> mark "+"
      return [← number]
    let constant := do
      let (start, text) ← anyName
      guard (["true", "false", "null", "undefined"].contains text)
      leafFrom text start
    return [← negative <|> number <|> string <|> constant]

/-- A qualified name. -/
def qualifiedTypeName : Parser Concrete := do
  let head ← valueName "type_identifier"
  extend (fun e => do
    mark "."
    let name ← freeName "type_identifier"
    let kind := if e.label.kind == "type_identifier" then "identifier" else "nested_identifier"
    return around "nested_type_identifier" [inField "module" (ofKind kind e), inField "name" name])
    head

/-- A named type, maybe with arguments. -/
def namedType : Parser Concrete := do
  let name ← qualifiedTypeName
  match ← optional typeArguments with
  | some arguments =>
    return around "generic_type" [inField "name" name, inField "type_arguments" arguments]
  | none => return name

/-- The type of a value that is named. -/
def typeQuery : Parser Concrete :=
  construct "type_query" do
    word "typeof"
    let imported := construct "call_expression" do
      let callee ← wordLeaf "import" "import"
      let arguments ← construct "arguments" (closedList "(" ")" string)
      return [inField "function" callee, inField "arguments" arguments]
    let head ← imported <|> wordLeaf "this" "this" <|> identifier
    let path ← extend (fun e => (do
        let _ ← optional (mark "?")
        mark "."
        let name ← privateName <|> freeName "property_identifier"
        return around "member_expression" [inField "object" e, inField "property" name])
      <|> (do
        mark "["
        let index ← number <|> string
        mark "]"
        return around "subscript_expression" [inField "object" e, inField "index" index])) head
    let arguments ← optional typeArguments
    return path :: arguments.toList

/-- A type from another module. -/
def importType : Parser Concrete := do
  let callee ← wordLeaf "import" "import"
  let arguments ← construct "arguments" (closedList "(" ")" string)
  let call := around "call_expression" [inField "function" callee, inField "arguments" arguments]
  let path ← extend (fun e => do
    mark "."
    let name ← freeName "property_identifier"
    return around "member_expression" [inField "object" e, inField "property" name]) call
  match ← optional typeArguments with
  | some arguments => return around "generic_type" [inField "name" path, arguments]
  | none => return path

/-- A member of a tuple, which may have a name. -/
def tupleMember : Parser Concrete :=
  let named := do
    trivia
    let start ← here
    let rest ← optional (mark "...")
    let name ← freeName "identifier"
    let optionalMark ← accept (mark "?")
    let annotation ← typeAnnotation
    let target := if rest.isSome then around "rest_pattern" [name] else name
    let kind := if optionalMark then "optional_parameter" else "required_parameter"
    return .mk (← labelAt kind start) [inField "name" target, inField "type" annotation]
  let rest := construct "rest_type" do
    mark "..."
    return [← goal .type]
  let plain := do
    let t ← goal .type
    if ← accept (mark "?") then return around "optional_type" [t] else return t
  named <|> rest <|> plain

/-- A list type with a type for each place. -/
def tupleType : Parser Concrete :=
  construct "tuple_type" (closedList "[" "]" tupleMember)

/-- A text type with holes. -/
def templateType : Parser Concrete := do
  trivia
  templateOf "template_literal_type" <| construct "template_type" do
    exactly "$\x7b"
    let t ← goal .type
    mark "\x7d"
    return [t]

/-- The type of a value that never changes, which adds no node of its own. -/
def constType : Parser Concrete := do
  let c ← wordLeaf "const" "const"
  return .mk { c.label with named := false } []

/-- A type without suffixes. -/
def baseType : Parser Concrete :=
  predefinedType <|> literalType <|> templateType <|> typeQuery <|> importType <|> tupleType <|>
    goal .objectType <|> wordLeaf "this_type" "this" <|> constType <|>
    (construct "parenthesized_type" do
      mark "("
      let t ← goal .type
      mark ")"
      return [t]) <|>
    (construct "existential_type" do
      mark "*"
      return []) <|>
    namedType

/-- A suffix of a type: an array of it, or what an index gives. -/
def typeSuffix (t : Concrete) : Parser Concrete := do
  let s ← source
  let pos ← here
  guard (s.row pos == s.row (s.skipTrivia pos))
  mark "["
  if ← accept (mark "]") then return around "array_type" [t]
  else
    let index ← goal .type
    mark "]"
    return around "lookup_type" [t, index]

/-- A type with its suffixes. -/
def primaryType : Parser Concrete := do
  extend typeSuffix (← baseType)

/-! ## Types with operators -/

/-- A type that is to be found by matching. -/
def inferType : Parser Concrete :=
  construct "infer_type" do
    word "infer"
    let name ← valueName "type_identifier"
    let bound ← optional do
      word "extends"
      goal .plainType
    return name :: bound.toList

/-- A type with operators in front of it. -/
def operatorType : Parser Concrete := do
  let operators ← many (do
    trivia
    let start ← here
    let text ← wordOf ["keyof", "readonly"]
    require (do
      trivia
      charOf fun c => !",;=)]>\x7d|&:".toList.contains c)
    return (start, text))
  let inner ← inferType <|> primaryType
  let wrap (t : Concrete) (op : Nat × String) : Parser Concrete := do
    let kind := if op.2 == "keyof" then "index_type_query" else "readonly_type"
    return .mk (← labelAt kind op.1) [t]
  operators.reverse.foldlM wrap inner

/-- Types joined by a mark, which may also stand in front of the first one. -/
def joinedType (kind text next : String) (inner : Parser Concrete) : Parser Concrete := do
  let lead ← accept (markNot text next)
  let first ← inner
  let first := if lead then around kind [first] else first
  let rest ← many (do
    markNot text next
    inner)
  return rest.foldl (fun left right => around kind [left, right]) first

/-- A type without a condition. -/
def unionType : Parser Concrete :=
  joinedType "union_type" "|" "|=" (joinedType "intersection_type" "&" "&=" operatorType)

/-- The type of a function. -/
def functionType : Parser Concrete :=
  construct "function_type" do
    let generics ← optional typeParameters
    let parameters ← formalParameters
    mark "=>"
    let result ← resultType
    return generics.toList ++ [inField "parameters" parameters, inField "return_type" result]

/-- The type of a constructor. -/
def constructorType : Parser Concrete :=
  construct "constructor_type" do
    let _ ← optional (word "abstract")
    word "new"
    let generics ← optional typeParameters
    let parameters ← formalParameters
    mark "=>"
    let result ← goal .type
    return generics.toList ++ [inField "parameters" parameters, inField "type" result]

/-- A type that is not conditional at its top. -/
def plainType : Parser Concrete :=
  functionType <|> constructorType <|> unionType

/-- A type. -/
def fullType : Parser Concrete := do
  let left ← plainType
  let condition := do
    word "extends"
    let right ← goal .plainType
    mark "?"
    let yes ← goal .type
    mark ":"
    let no ← goal .type
    return around "conditional_type"
      [inField "left" left, inField "right" right, inField "consequence" yes,
        inField "alternative" no]
  condition <|> pure left

/-! ## Members of object types -/

/-- Words in front of a member. -/
def memberModifiers : Parser Unit := do
  let _ ← many (do
    let _ ← wordOf (accessWords ++ ["static", "override", "readonly", "async"])
    trivia
    require (charOf fun c =>
      startsName c || c == '[' || c == '#' || c == '*' || c == '\x22' || c == '\x27'))
  return ()

/-- An index of any name, or a type for each name of a union. -/
def indexSignature : Parser Concrete :=
  construct "index_signature" do
    let _ ← optional (do
      let _ ← optional (mark "-" <|> mark "+")
      word "readonly")
    mark "["
    let mapped := construct "mapped_type_clause" do
      let name ← valueName "type_identifier"
      word "in"
      let t ← goal .type
      let alias_ ← optional do
        word "as"
        goal .type
      return [inField "name" name, inField "type" t] ++ alias_.toList.map (inField "alias")
    let plain := do
      let name ← identifier
      mark ":"
      return [inField "name" name, inField "index_type" (← goal .type)]
    let inside ← (do return [← mapped]) <|> plain
    mark "]"
    let _ ← optional (do
      let _ ← optional (mark "-" <|> mark "+")
      mark "?")
    let annotation ← optional typeAnnotation
    return inside ++ annotation.toList.map (inField "type")

/-- A way to call a value of the type, or to construct one. -/
def callMember : Parser Concrete :=
  (construct "construct_signature" do
    let _ ← optional (word "abstract")
    word "new"
    require (mark "(" <|> mark "<")
    callSignature) <|>
  construct "call_signature" callSignature

/-- A method or a property of an object type. -/
def namedMember : Parser Concrete := do
  trivia
  let start ← here
  memberModifiers
  let getter := do
    let _ ← wordOf ["get", "set"]
    require propertyName
  let _ ← optional getter
  let _ ← optional (mark "*")
  let name ← propertyName
  let _ ← optional (mark "?")
  if (← markAhead "(") || (← markAhead "<") then
    let signature ← callSignature
    return .mk (← labelAt "method_signature" start) (inField "name" name :: signature)
  else
    let annotation ← optional typeAnnotation
    return .mk (← labelAt "property_signature" start)
      (inField "name" name :: annotation.toList.map (inField "type"))

/-- What separates members of an object type. -/
def memberEnd : Parser Unit := do
  mark "," <|> mark ";" <|> statementEnd false

/-- An object type. -/
def objectType : Parser Concrete :=
  construct "object_type" do
    typed
    let exact ← accept (mark "\x7b|")
    guard exact <|> mark "\x7b"
    let _ ← many (mark "," <|> mark ";")
    let members ← many (do
      refuse (mark "\x7d" <|> mark "|\x7d")
      let m ← indexSignature <|> callMember <|> namedMember
      require (memberEnd <|> mark "\x7d" <|> mark "|\x7d")
      let _ ← many (mark "," <|> mark ";")
      return m)
    if exact then mark "|\x7d" else mark "\x7d"
    return members

end Script
end ContractAudit
