import ContractAudit.Script.Type

/-!
# Elements

Elements in angle brackets, as they stand in component files: tags with
attributes around text, expressions in braces and other elements.
-/

namespace ContractAudit
namespace Script

open ContractAudit.Tree (Concrete)
open ContractAudit.Script.Parser

/-- A name that may have hyphens. -/
def hyphenName (kind : String) : Parser Concrete := do
  trivia
  let start ← here
  let s ← source
  guard (s.charIs start startsName)
  goto (s.skipWhile (fun c => inName c || c == '-') start)
  leafFrom kind start

/-- The name of a tag. -/
def tagName : Parser Concrete := do
  let head ← hyphenName "identifier"
  if ← accept (mark ":") then
    return around "jsx_namespace_name" [head, ← hyphenName "identifier"]
  else extend (fun e => do
    mark "."
    let name ← freeName "property_identifier"
    return around "member_expression" [inField "object" e, inField "property" name]) head

/-- An expression in braces, which may be empty. -/
def bracedExpression : Parser Concrete :=
  construct "jsx_expression" do
    mark "\x7b"
    let spread := construct "spread_element" do
      mark "..."
      return [← goal (.expression .enclosed)]
    let e ← optional (spread <|> expressions .enclosed)
    mark "\x7d"
    return e.toList

/-- The end of a character reference at a position: a number or a name between an
ampersand and a semicolon. -/
def referenceEnd? (s : Source) (pos : Nat) : Option Nat :=
  let closed (p : Char → Bool) (most start : Nat) :=
    let stop := s.advance p most start
    if start < stop && s.charIs stop (· == ';') then some (stop + 1) else none
  if s.startsWith pos "&#x" || s.startsWith pos "&#X" then closed isHexDigit 6 (pos + 3)
  else if s.startsWith pos "&#" then closed Char.isDigit 5 (pos + 2)
  else if s.startsWith pos "&" then closed Char.isAlpha 30 (pos + 1)
  else none

/-- A character reference. -/
def characterReference : Parser Concrete := do
  let start ← here
  match referenceEnd? (← source) start with
  | some stop =>
    goto stop
    leafFrom "html_character_reference" start
  | none => fail

/-- The end of plain attribute text: the quote, or an ampersand that opens a
character reference. -/
def attributeTextEnd (s : Source) (quote : Char) : Nat → Nat → Nat
  | 0, pos => pos
  | fuel + 1, pos =>
    match s.char? pos with
    | none => pos
    | some c =>
      if c == quote then pos
      else if c == '&' then
        match s.char? (pos + 1) with
        | none => pos
        | some d =>
          if d == '#' || d.isAlpha then pos else attributeTextEnd s quote fuel (pos + 2)
      else attributeTextEnd s quote fuel (pos + 1)

/-- Plain attribute text. -/
def attributeText (quote : Char) : Parser Concrete := do
  let start ← here
  let s ← source
  let stop := attributeTextEnd s quote (s.chars.size - start) start
  guard (start < stop)
  goto stop
  leafFrom "string_fragment" start

/-- A string of an attribute, which has no escapes but character references. -/
def attributeString (quote : Char) : Parser Concrete :=
  construct "string" do
    let _ ← charOf (· == quote)
    let parts ← many (attributeText quote <|> characterReference)
    let _ ← charOf (· == quote)
    return parts

/-- An attribute of a tag. -/
def tagAttribute : Parser Concrete :=
  bracedExpression <|> construct "jsx_attribute" do
    let head ← hyphenName "property_identifier"
    let name ← (do
      mark ":"
      return around "jsx_namespace_name" [head, ← hyphenName "identifier"]) <|> pure head
    let value ← optional (do
      mark "="
      attributeString '\x22' <|> attributeString '\x27' <|> bracedExpression <|> goal .element)
    return name :: value.toList

/-- The name and the attributes of a tag. -/
def tagInside : Parser (List Concrete) := do
  let name ← tagName
  let arguments ← optional typeArguments
  let attributes ← many tagAttribute
  return inField "name" name :: arguments.toList ++ attributes.map (inField "attribute")

/-- Text between tags. -/
def elementText : Parser Concrete := do
  let start ← here
  let s ← source
  let stop := s.skipWhile (fun c => !"<>\x7b\x7d&".toList.contains c) start
  guard (start < stop)
  goto stop
  leafFrom "jsx_text" start

/-- What stands between an opening and a closing tag. -/
def elementChild : Parser (List Concrete) := do
  let text ← optional elementText
  match text with
  | some t =>
    return if t.label.text.toList.all isSpace then [] else [t]
  | none =>
    let _ ← refuse (exactly "</")
    return [← characterReference <|> (do require (exactly "\x7b"); bracedExpression)
      <|> (do require (exactly "<"); goal .element)]

/-- The closing tag of an element. -/
def closingTag : Parser Concrete :=
  construct "jsx_closing_element" do
    mark "<"
    mark "/"
    let name ← optional tagName
    mark ">"
    return name.toList.map (inField "name")

/-- An element with or without content. -/
def element : Parser Concrete := do
  trivia
  let start ← here
  mark "<"
  if ← accept (mark ">") then
    let opening := Concrete.mk (← labelAt "jsx_opening_element" start) []
    let children ← many elementChild
    let closing ← closingTag
    return .mk (← labelAt "jsx_element" start)
      (inField "open_tag" opening :: children.flatten ++ [inField "close_tag" closing])
  else
    let inside ← tagInside
    if ← accept (do mark "/"; mark ">") then
      return .mk (← labelAt "jsx_self_closing_element" start) inside
    else
      mark ">"
      let opening := Concrete.mk (← labelAt "jsx_opening_element" start) inside
      let children ← many elementChild
      let closing ← closingTag
      return .mk (← labelAt "jsx_element" start)
        (inField "open_tag" opening :: children.flatten ++ [inField "close_tag" closing])

end Script
end ContractAudit
