import ContractAudit.Script.Literal

/-!
# Patterns and parameters

A pattern names what a declaration or an assignment binds: a variable, a
member, or the parts of an object or an array.
-/

namespace ContractAudit
namespace Script

open ContractAudit.Tree (Concrete)
open ContractAudit.Script.Parser

/-- The mark of an assignment, which is not the start of a comparison or an arrow. -/
def assignMark : Parser Unit :=
  markNot "=" "=>"

/-- An assigned value. -/
def initializer (m : Mode) : Parser Concrete := do
  assignMark
  goal (.expression m)

/-- A pattern that may have a default value. -/
def patternWithDefault (binding : Bool) : Parser Concrete := do
  let left ← goal (.pattern binding)
  match ← optional (initializer .enclosed) with
  | some value =>
    return around "assignment_pattern" [inField "left" left, inField "right" value]
  | none => return left

/-- The rest of a list of parts. -/
def restPattern (binding : Bool) : Parser Concrete :=
  construct "rest_pattern" do
    mark "..."
    return [← goal (.pattern binding)]

/-- The parts of an array. -/
def arrayPattern (binding : Bool) : Parser Concrete :=
  construct "array_pattern" do
    sparseList "[" "]" (restPattern binding <|> patternWithDefault binding)

/-- A part of an object under its name, with a pattern of its own. -/
def pairPattern (binding : Bool) : Parser Concrete :=
  construct "pair_pattern" do
    let key ← propertyName
    mark ":"
    let value ← patternWithDefault binding
    return [inField "key" key, inField "value" value]

/-- A part of an object that is bound to its own name, maybe with a default. -/
def shorthandPattern : Parser Concrete := do
  let name ← valueName "shorthand_property_identifier_pattern"
  match ← optional (initializer .enclosed) with
  | some value =>
    return around "object_assignment_pattern" [inField "left" name, inField "right" value]
  | none => return name

/-- The parts of an object. -/
def objectPattern (binding : Bool) : Parser Concrete :=
  construct "object_pattern" do
    sparseList "\x7b" "\x7d" (restPattern binding <|> pairPattern binding <|> shorthandPattern)

/-- The kinds of expressions that can be assigned to. -/
def assignableKinds : List String :=
  [ "identifier", "undefined", "member_expression", "subscript_expression",
    "non_null_expression" ]

/-- A member or a name that can be assigned to. -/
def assignable : Parser Concrete := do
  refuse (mark "[" <|> mark "\x7b")
  let e ← goal (.chain .enclosed)
  guard (assignableKinds.contains e.label.kind)
  return e

/-- A pattern; in a binding the leaves are plain names. -/
def pattern (binding : Bool) : Parser Concrete :=
  objectPattern binding <|> arrayPattern binding <|> if binding then identifier else assignable

/-! ## Type annotations and decorators -/

/-- A type after a colon. -/
def typeAnnotation : Parser Concrete :=
  construct "type_annotation" do
    typed
    mark ":"
    return [← goal .type]

/-- A decorator in front of a declaration. -/
def decorator : Parser Concrete :=
  construct "decorator" do
    mark "@"
    if ← markAhead "(" then
      mark "("
      let e ← expressions .enclosed
      mark ")"
      return [around "parenthesized_expression" [e]]
    else
      let head ← identifier
      let path ← extend (fun e => do
        mark "."
        let name ← freeName "property_identifier"
        return around "member_expression" [inField "object" e, inField "property" name]) head
      let generics ← if ← isTyped then
          optional (construct "type_arguments" (closedList "<" ">" (goal .type)))
        else pure none
      if ← markAhead "(" then
        let item := construct "spread_element" (do
            mark "..."
            return [← goal (.expression .enclosed)])
          <|> goal (.expression .enclosed)
        let arguments ← construct "arguments" (sparseList "(" ")" item)
        return [around "call_expression"
          (inField "function" path :: generics.toList ++ [inField "arguments" arguments])]
      else return [path]

/-! ## Parameters -/

/-- Words that may stand in front of a parameter and make it a member. -/
def accessWords : List String := ["public", "private", "protected"]

/-- Whether what follows a modifier is what it modifies. -/
def modifiesNext : Parser Unit := do
  trivia
  require (charOf fun c => startsName c || c == '\x7b' || c == '[' || c == '\x5c')

/-- A modifier in front of a parameter. -/
def parameterModifier : Parser (Option Concrete) := do
  trivia
  let start ← here
  let text ← wordOf (accessWords ++ ["override", "readonly"])
  let node ← leafFrom
    (if text == "override" then "override_modifier" else "accessibility_modifier") start
  modifiesNext
  return if text == "readonly" then none else some node

/-- A parameter of a function without types. -/
def plainParameter : Parser Concrete :=
  restPattern true <|> patternWithDefault true

/-- A parameter of a function with types. -/
def typedParameter : Parser Concrete := do
  trivia
  let start ← here
  let decorators ← many decorator
  let modifiers ← many parameterModifier
  let target ← restPattern true <|> goal (.pattern true) <|> wordLeaf "this" "this"
  let optionalMark ← accept (mark "?")
  let annotation ← optional typeAnnotation
  let value ← optional (initializer .enclosed)
  let kind := if optionalMark then "optional_parameter" else "required_parameter"
  return .mk (← labelAt kind start)
    (decorators ++ modifiers.filterMap id ++ [inField "pattern" target]
      ++ annotation.toList.map (inField "type") ++ value.toList.map (inField "value"))

/-- The parameters of a function. -/
def formalParameters : Parser Concrete :=
  construct "formal_parameters" do
    if ← isTyped then closedList "(" ")" typedParameter
    else closedList "(" ")" plainParameter

end Script
end ContractAudit
