import ContractAudit.Script.Source
import ContractAudit.Tree.Concrete

/-!
# Parsers of source texts

A parser starts at a position and gives a result with the position behind it,
or nothing.  Recursion goes through {lit}`Goal`: a construct that contains
others asks its environment for them, and the environment is tied to the
grammar with a bound on the depth, so every parser is a total function.

Main definitions:

- {lit}`Goal`: the constructs that may contain each other.
- {lit}`Parser`: a parser in an environment that can parse every goal.
- {lit}`construct`: a concrete node around what a parser finds.
-/

namespace ContractAudit
namespace Script

open ContractAudit.Tree (Concrete Label)

/-- What a construct passes down to the constructs in it. -/
structure Mode where
  /-- A statement may end here without a semicolon. -/
  open_ : Bool
  /-- The word for membership is an operator here. -/
  membership : Bool
  /-- An arrow function may have a result type here. -/
  arrowTypes : Bool

namespace Mode

/-- The mode of an expression that is a statement of its own. -/
def statement : Mode := ⟨true, true, true⟩

/-- The mode of an expression between brackets. -/
def enclosed : Mode := ⟨false, true, true⟩

end Mode

/-- The constructs that may contain each other. -/
inductive Goal where
  | statement
  | block
  | expression (mode : Mode)
  | operand (mode : Mode)
  | chain (mode : Mode)
  | newCallee (mode : Mode)
  | pattern (binding : Bool)
  | classBody
  | element
  | type
  | plainType
  | objectType

/-- What a parser can use: the text, and a parser for every goal. -/
structure Env where
  source : Source
  descend : Goal → Nat → Option (Concrete × Nat)

/-- A parser of results of a type. -/
structure Parser (α : Type) where
  run : Env → Nat → Option (α × Nat)

namespace Parser

/-- Gives a result and reads nothing. -/
def done {α : Type} (a : α) : Parser α :=
  ⟨fun _ pos => some (a, pos)⟩

/-- Runs a parser and then one that depends on its result. -/
def andThen {α β : Type} (p : Parser α) (f : α → Parser β) : Parser β :=
  ⟨fun env pos => match p.run env pos with
    | none => none
    | some (a, next) => (f a).run env next⟩

instance : Monad Parser where
  pure := done
  bind := andThen

/-- Finds nothing. -/
def fail {α : Type} : Parser α :=
  ⟨fun _ _ => none⟩

/-- Runs a second parser where the first finds nothing. -/
def orElse {α : Type} (p : Parser α) (q : Unit → Parser α) : Parser α :=
  ⟨fun env pos => match p.run env pos with
    | some r => some r
    | none => (q ()).run env pos⟩

instance {α : Type} : OrElse (Parser α) := ⟨orElse⟩

/-- The source text. -/
def source : Parser Source :=
  ⟨fun env pos => some (env.source, pos)⟩

/-- The position. -/
def here : Parser Nat :=
  ⟨fun _ pos => some (pos, pos)⟩

/-- Goes to a position. -/
def goto (next : Nat) : Parser Unit :=
  ⟨fun _ _ => some ((), next)⟩

/-- A test of the text at the position. -/
def test (p : Source → Nat → Bool) : Parser Bool :=
  ⟨fun env pos => some (p env.source pos, pos)⟩

/-- Goes on only where a condition holds. -/
def guard (b : Bool) : Parser Unit :=
  if b then done () else fail

/-- Parses a goal. -/
def goal (g : Goal) : Parser Concrete :=
  ⟨fun env pos => env.descend g pos⟩

/-- Whether a parser would find something; nothing is read. -/
def ahead {α : Type} (p : Parser α) : Parser Bool :=
  ⟨fun env pos => some ((p.run env pos).isSome, pos)⟩

/-- Goes on only where a parser would find something. -/
def require {α : Type} (p : Parser α) : Parser Unit := do
  guard (← ahead p)

/-- Goes on only where a parser would find nothing. -/
def refuse {α : Type} (p : Parser α) : Parser Unit := do
  guard (!(← ahead p))

/-- The result of a parser, or nothing. -/
def optional {α : Type} (p : Parser α) : Parser (Option α) :=
  ⟨fun env pos => match p.run env pos with
    | some (a, next) => some (some a, next)
    | none => some (none, pos)⟩

/-- Whether a parser finds something, which is then read. -/
def accept {α : Type} (p : Parser α) : Parser Bool := do
  return (← optional p).isSome

/-- Repeats a parser as long as it finds something and moves on, at most `fuel` times. -/
def repeatFrom {α : Type} (p : Parser α) (env : Env) : Nat → Nat → List α → List α × Nat
  | 0, pos, acc => (acc.reverse, pos)
  | fuel + 1, pos, acc =>
    match p.run env pos with
    | some (a, next) =>
      if pos < next then repeatFrom p env fuel next (a :: acc) else ((a :: acc).reverse, next)
    | none => (acc.reverse, pos)

/-- Repeats a parser as long as it finds something. -/
def many {α : Type} (p : Parser α) : Parser (List α) :=
  ⟨fun env pos => some (repeatFrom p env (env.source.chars.size + 1) pos [])⟩

/-- Extends a result as long as a parser finds something to add. -/
def extendFrom {α : Type} (p : α → Parser α) (env : Env) : Nat → α → Nat → α × Nat
  | 0, a, pos => (a, pos)
  | fuel + 1, a, pos =>
    match (p a).run env pos with
    | some (b, next) => if pos < next then extendFrom p env fuel b next else (b, next)
    | none => (a, pos)

/-- Extends a result as long as a parser finds something to add. -/
def extend {α : Type} (p : α → Parser α) (a : α) : Parser α :=
  ⟨fun env pos => some (extendFrom p env (env.source.chars.size + 1) a pos)⟩

/-! ## Tokens -/

/-- Moves to the next token. -/
def trivia : Parser Unit :=
  ⟨fun env pos => some ((), env.source.skipTrivia pos)⟩

/-- Moves to the next operand or statement. -/
def lead : Parser Unit :=
  ⟨fun env pos => some ((), env.source.skipLead pos)⟩

/-- A text right here. -/
def exactly (text : String) : Parser Unit :=
  ⟨fun env pos =>
    if env.source.startsWith pos text then some ((), pos + text.length) else none⟩

/-- A character of a class right here. -/
def charOf (p : Char → Bool) : Parser Char :=
  ⟨fun env pos => match env.source.char? pos with
    | some c => if p c then some (c, pos + 1) else none
    | none => none⟩

/-- A mark, which may be the start of a longer one. -/
def mark (text : String) : Parser Unit := do
  trivia
  exactly text

/-- A mark that no character of a list follows. -/
def markNot (text : String) (next : String) : Parser Unit := do
  mark text
  refuse (charOf next.toList.contains)

/-- A name of any kind: where it starts and its text. -/
def anyName : Parser (Nat × String) :=
  ⟨fun env pos =>
    let start := env.source.skipTrivia pos
    (env.source.nameEnd? start).map fun stop => ((start, env.source.slice start stop), stop)⟩

/-- A given word. -/
def word (text : String) : Parser Unit := do
  let (_, name) ← anyName
  guard (name == text)

/-- One of several words. -/
def wordOf (texts : List String) : Parser String := do
  let (_, name) ← anyName
  guard (texts.contains name)
  return name

/-- Whether a mark comes next. -/
def markAhead (text : String) : Parser Bool :=
  ahead (mark text)

/-- Goes on only in a language with types. -/
def typed : Parser Unit := do
  guard (← source).typed

/-- Whether the language has types. -/
def isTyped : Parser Bool := do
  return (← source).typed

/-! ## Nodes -/

/-- A label at a position. -/
def labelAt (kind : String) (pos : Nat) : Parser Label := do
  let s ← source
  return { kind := kind, row := s.row pos, column := s.column pos }

/-- A leaf with the text from a position up to here. -/
def leafFrom (kind : String) (start : Nat) : Parser Concrete := do
  let s ← source
  let stop ← here
  let l ← labelAt kind start
  return .mk { l with text := s.slice start stop } []

/-- A node around the children that a parser finds. -/
def construct (kind : String) (p : Parser (List Concrete)) : Parser Concrete := do
  trivia
  let start ← here
  let children ← p
  return .mk (← labelAt kind start) children

/-- A node that starts where its first child starts. -/
def around (kind : String) (children : List Concrete) : Concrete :=
  match children with
  | [] => .mk { kind := kind } []
  | c :: _ => .mk { kind := kind, row := c.label.row, column := c.label.column } children

/-- A leaf without a text of interest. -/
def wordLeaf (kind text : String) : Parser Concrete := do
  trivia
  let start ← here
  word text
  leafFrom kind start

/-! ## Lists -/

/-- Items between two marks, separated by commas; items may be left out. -/
def sparseList (first last : String) (item : Parser Concrete) : Parser (List Concrete) := do
  mark first
  let head ← optional item
  let rest ← many (do
    mark ","
    optional item)
  mark last
  return (head :: rest).filterMap id

/-- Items separated by commas, at least one. -/
def commaList {α : Type} (item : Parser α) : Parser (List α) := do
  let head ← item
  let rest ← many (do
    mark ","
    item)
  return head :: rest

/-- Items between two marks, separated by commas; one comma may follow the last. -/
def closedList {α : Type} (first last : String) (item : Parser α) : Parser (List α) := do
  mark first
  let items ← optional (do
    let items ← commaList item
    let _ ← optional (mark ",")
    return items)
  mark last
  return items.getD []

end Parser

/-- The same node under a field name of its parent. -/
def inField (name : String) : Concrete → Concrete
  | .mk l cs => .mk { l with field := some name } cs

/-- A node with another kind. -/
def ofKind (kind : String) : Concrete → Concrete
  | .mk l cs => .mk { l with kind := kind } cs

/-! ## Ends of statements -/

namespace Parser

/-- Whether the statement may end here without a semicolon. -/
def endsHere (afterOperand : Bool) : Parser Bool :=
  test fun s pos => s.impliedEnd afterOperand false pos

/-- Goes on only where the expression continues in its mode. -/
def continues (m : Mode) : Parser Unit := do
  if m.open_ then guard (!(← endsHere true))

/-- The end of a statement: a semicolon, or an implied one. -/
def statementEnd (afterOperand : Bool) : Parser Unit := do
  if ← endsHere afterOperand then return ()
  else mark ";"

end Parser

end Script
end ContractAudit
