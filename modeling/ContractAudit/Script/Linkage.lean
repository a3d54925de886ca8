import ContractAudit.Script.Declaration

/-!
# Imports and exports

How a source file is linked with others.
-/

namespace ContractAudit
namespace Script

open ContractAudit.Tree (Concrete)
open ContractAudit.Script.Parser

/-- The place where something comes from. -/
def fromClause : Parser (List Concrete) := do
  word "from"
  return [inField "source" (← string)]

/-- Conditions on a linked file. -/
def importAttribute : Parser Concrete :=
  construct "import_attribute" do
    let _ ← wordOf ["with", "assert"]
    return [← objectLiteral]

/-- A name of something that is linked. -/
def linkedName : Parser Concrete :=
  freeName "identifier" <|> string

/-- A name with the name it gets on the other side. -/
def specifier (kind : String) : Parser Concrete :=
  construct kind do
    let _ ← optional (do
      typed
      let _ ← wordOf ["type", "typeof"]
      require (do
        let (_, text) ← anyName
        guard (text != "as"))
      return ())
    let name ← linkedName
    let alias_ ← optional do
      word "as"
      linkedName
    return inField "name" name :: alias_.toList.map (inField "alias")

/-- A list of linked names in braces. -/
def specifiers (kind item : String) : Parser Concrete :=
  construct kind (closedList "\x7b" "\x7d" (specifier item))

/-! ## Imports -/

/-- All of a file under one name. -/
def namespaceImport : Parser Concrete :=
  construct "namespace_import" do
    mark "*"
    word "as"
    return [← identifier]

/-- What is imported. -/
def importClause : Parser Concrete :=
  construct "import_clause" do
    let named := namespaceImport <|> specifiers "named_imports" "import_specifier"
    let both := do
      let name ← identifier
      let more ← optional do
        mark ","
        named
      return name :: more.toList
    (do return [← named]) <|> both

/-- An import of a file that is loaded by a call. -/
def requireClause : Parser Concrete :=
  construct "import_require_clause" do
    typed
    let name ← identifier
    assignMark
    word "require"
    mark "("
    let file ← string
    mark ")"
    return [name, inField "source" file]

/-- An import. -/
def importStatement : Parser Concrete :=
  construct "import_statement" do
    word "import"
    let _ ← optional (do
      typed
      let _ ← wordOf ["type", "typeof"]
      let other := do
        let (_, text) ← anyName
        guard (text != "from")
      require (other <|> mark "\x7b" <|> mark "*"))
    let required := do return [← requireClause]
    let clause := do
      let c ← importClause
      return c :: (← fromClause)
    let bare := do return [inField "source" (← string)]
    let parts ← required <|> clause <|> bare
    let conditions ← optional importAttribute
    statementEnd false
    return parts ++ conditions.toList

/-! ## Exports -/

/-- An export of names, from here or from another file. -/
def namesExport : Parser (List Concrete) := do
  let _ ← optional (do
    typed
    word "type"
    require (mark "\x7b" <|> mark "*"))
  let whole := do
    mark "*"
    let name ← optional <| construct "namespace_export" do
      word "as"
      return [← linkedName]
    let source_ ← fromClause
    return name.toList ++ source_
  let listed := do
    let clause ← specifiers "export_clause" "export_specifier"
    let source_ ← optional fromClause
    return clause :: source_.getD []
  let parts ← whole <|> listed
  let conditions ← optional importAttribute
  statementEnd false
  return parts ++ conditions.toList

/-- An export of one value that a file stands for. -/
def defaultExport : Parser (List Concrete) := do
  word "default"
  (do return [inField "declaration" (← declaration)]) <|> do
  let value ← expressions .statement
  statementEnd true
  return [inField "value" value]

/-- The exports that only languages with types have. -/
def typedExport : Parser (List Concrete) := do
  typed
  (do
    assignMark
    let value ← expressions .statement
    statementEnd true
    return [value]) <|> do
  word "as"
  word "namespace"
  let name ← identifier
  statementEnd false
  return [name]

/-- An export. -/
def exportStatement : Parser Concrete :=
  construct "export_statement" do
    let decorators ← many decorator
    word "export"
    let parts ← namesExport <|> defaultExport <|> typedExport <|>
      (do return [inField "declaration" (← declaration)])
    return decorators.map (inField "decorator") ++ parts

end Script
end ContractAudit
