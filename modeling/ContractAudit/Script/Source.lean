import ContractAudit.Tree.Language

/-!
# Source texts

A source text is an array of characters with the row and the first position of
the row for every position.  This module reads what lies between tokens: blanks
and comments, and the places where a statement ends without a semicolon.

Main definitions:

- {lit}`Source.skipTrivia`: the first position of the next token.
- {lit}`Source.impliedEnd`: whether a statement may end at a position without
  a semicolon, which the next line decides.
-/

namespace ContractAudit
namespace Script

open ContractAudit.Tree (Grammar)

/-- A source text and the grammar that it is read by. -/
structure Source where
  chars : Array Char
  /-- The row of each position, counted from zero. -/
  rows : Array Nat
  /-- The first position of the row of each position. -/
  rowStarts : Array Nat
  grammar : Grammar

namespace Source

/-- The source of a text; only a line feed starts a new row. -/
def ofText (grammar : Grammar) (text : List Char) : Source :=
  let step (acc : Array Nat × Array Nat × Nat × Nat × Nat) (c : Char) :=
    let (rows, starts, row, start, pos) := acc
    let rows := rows.push row
    let starts := starts.push start
    if c == '\n' then (rows, starts, row + 1, pos + 1, pos + 1)
    else (rows, starts, row, start, pos + 1)
  let (rows, starts, row, start, _) := text.foldl step (#[], #[], 0, 0, 0)
  ⟨text.toArray, rows.push row, starts.push start, grammar⟩

/-- Whether the grammar has types. -/
def typed (s : Source) : Bool :=
  s.grammar != .javascript

/-- Whether elements in angle brackets are expressions. -/
def hasElements (s : Source) : Bool :=
  s.grammar != .typescript

/-- The character at a position, if it lies in the text. -/
def char? (s : Source) (pos : Nat) : Option Char :=
  s.chars[pos]?

/-- Whether a character of a class stands at a position. -/
def charIs (s : Source) (pos : Nat) (p : Char → Bool) : Bool :=
  match s.char? pos with
  | some c => p c
  | none => false

/-- Whether a position is behind the last character. -/
def atEnd (s : Source) (pos : Nat) : Bool :=
  s.chars.size ≤ pos

/-- The row of a position. -/
def row (s : Source) (pos : Nat) : Nat :=
  s.rows.getD pos 0

/-- The column of a position. -/
def column (s : Source) (pos : Nat) : Nat :=
  pos - s.rowStarts.getD pos 0

/-- The text between two positions. -/
def slice (s : Source) (start stop : Nat) : String :=
  String.ofList (s.chars.extract start stop).toList

/-- Whether a text stands at a position. -/
def startsWith (s : Source) (pos : Nat) (text : String) : Bool :=
  let cs := text.toList
  cs.zipIdx.all fun (c, i) => s.char? (pos + i) == some c

/-- Advances over characters of a class, at most `fuel` of them. -/
def advance (s : Source) (p : Char → Bool) : Nat → Nat → Nat
  | 0, pos => pos
  | fuel + 1, pos => if s.charIs pos p then advance s p fuel (pos + 1) else pos

/-- The first position from `pos` on where no character of a class stands. -/
def skipWhile (s : Source) (p : Char → Bool) (pos : Nat) : Nat :=
  s.advance p (s.chars.size - pos) pos

/-- Looks for a text from a position on, at most `fuel` characters ahead. -/
def search (s : Source) (text : String) : Nat → Nat → Option Nat
  | 0, _ => none
  | fuel + 1, pos =>
    if s.startsWith pos text then some pos else search s text fuel (pos + 1)

/-- The first position from `pos` on where a text stands. -/
def find? (s : Source) (text : String) (pos : Nat) : Option Nat :=
  s.search text (s.chars.size - pos) pos

end Source

/-! ## Classes of characters -/

/-- The blanks between tokens. -/
def isSpace (c : Char) : Bool :=
  let n := c.toNat
  n == 32 || (9 ≤ n && n ≤ 13) || n == 0xa0 || n == 0x1680 || (0x2000 ≤ n && n ≤ 0x200b) ||
    n == 0x2028 || n == 0x2029 || n == 0x202f || n == 0x205f || n == 0x2060 || n == 0x3000 ||
    n == 0xfeff

/-- The blanks that are passed over when the end of a statement is looked for;
those that forbid a break do not belong to them. -/
def isBreakingSpace (c : Char) : Bool :=
  let n := c.toNat
  n == 32 || (9 ≤ n && n ≤ 13) || n == 0x1680 || (0x2000 ≤ n && n ≤ 0x2006) ||
    (0x2008 ≤ n && n ≤ 0x200a) || n == 0x2028 || n == 0x2029 || n == 0x205f || n == 0x3000

/-- The ends of lines. -/
def isLineEnd (c : Char) : Bool :=
  c == '\n' || c.toNat == 0x2028 || c.toNat == 0x2029

/-- The characters that are marks of their own and never part of a name. -/
def isMark (c : Char) : Bool :=
  ":;\x60\x22\x27@#.,|^&<=>+-*/\x5c%?!~()[]\x7b\x7d".toList.contains c

/-- Whether a character can start a name. -/
def startsName (c : Char) : Bool :=
  0x20 ≤ c.toNat && !isSpace c && !isMark c && !c.isDigit

/-- Whether a character can stand in a name. -/
def inName (c : Char) : Bool :=
  0x20 ≤ c.toNat && !isSpace c && !isMark c

/-- Whether a character is a hexadecimal digit. -/
def isHexDigit (c : Char) : Bool :=
  c.isDigit || ('a' ≤ c && c ≤ 'f') || ('A' ≤ c && c ≤ 'F')

namespace Source

/-! ## Names -/

/-- The end of an escaped character of a name at a position. -/
def nameEscapeEnd? (s : Source) (pos : Nat) : Option Nat :=
  if s.startsWith pos "\x5cu\x7b" then
    let stop := s.skipWhile isHexDigit (pos + 3)
    if pos + 3 < stop && s.charIs stop (· == '\x7d') then some (stop + 1) else none
  else if s.startsWith pos "\x5cu" then
    if [2, 3, 4, 5].all fun i => s.charIs (pos + i) isHexDigit then some (pos + 6) else none
  else none

/-- The end of the run of name characters and escapes, at most `fuel` steps on. -/
def nameTail (s : Source) : Nat → Nat → Nat
  | 0, pos => pos
  | fuel + 1, pos =>
    if s.charIs pos inName then nameTail s fuel (pos + 1)
    else match s.nameEscapeEnd? pos with
      | some next => nameTail s fuel next
      | none => pos

/-- The end of the name that starts at a position. -/
def nameEnd? (s : Source) (pos : Nat) : Option Nat :=
  let fuel := s.chars.size - pos
  if s.charIs pos startsName then some (s.nameTail fuel (pos + 1))
  else (s.nameEscapeEnd? pos).map (s.nameTail fuel)

/-! ## Blanks and comments -/

/-- The end of the comment that starts at a position. -/
def commentEnd? (s : Source) (pos : Nat) : Option Nat :=
  if s.startsWith pos "//" then some (s.skipWhile (fun c => !isLineEnd c) pos)
  else if s.startsWith pos "/*" then (s.find? "*/" (pos + 2)).map (· + 2)
  else none

/-- Passes over blanks and comments, at most `fuel` of them. -/
def skipTriviaFrom (s : Source) : Nat → Nat → Nat
  | 0, pos => pos
  | fuel + 1, pos =>
    let start := s.skipWhile isSpace pos
    match s.commentEnd? start with
    | some next => skipTriviaFrom s fuel next
    | none => start

/-- The first position of the next token. -/
def skipTrivia (s : Source) (pos : Nat) : Nat :=
  s.skipTriviaFrom (s.chars.size - pos + 1) pos

/-- Passes over blanks, comments and the one-line comments of markup documents,
which are recognised only where an operand or a statement can start. -/
def skipLeadFrom (s : Source) : Nat → Nat → Nat
  | 0, pos => pos
  | fuel + 1, pos =>
    let start := s.skipTrivia pos
    if s.startsWith start "<!--" || s.startsWith start "-->" then
      skipLeadFrom s fuel (s.skipWhile (fun c => !isLineEnd c) start)
    else start

/-- The first position of the next operand or statement. -/
def skipLead (s : Source) (pos : Nat) : Nat :=
  s.skipLeadFrom (s.chars.size - pos + 1) pos

/-! ## Statements without a semicolon -/

/-- What passing over blanks and comments found. -/
inductive Passed where
  | slash
  | sameLine (pos : Nat)
  | lines (pos : Nat)

/-- Passes over blanks and comments in search of a line end.  With `all` false the
search ends after a block comment. -/
def pass (s : Source) (all : Bool) : Nat → Nat → Passed
  | 0, pos => .lines pos
  | fuel + 1, pos =>
    let start := s.skipWhile isBreakingSpace pos
    if s.startsWith start "//" then
      pass s all fuel (s.skipWhile (fun c => !isLineEnd c) start)
    else if s.startsWith start "/*" then
      let stop := ((s.find? "*/" (start + 2)).map (· + 2)).getD s.chars.size
      if !all && !s.charIs stop (· == '/') then
        if (s.chars.extract start stop).any isLineEnd then .lines stop else .sameLine stop
      else pass s all fuel stop
    else if s.charIs start (· == '/') then .slash
    else .lines start

/-- Whether a word stands at a position and no letter follows it. -/
def wordAt (s : Source) (pos : Nat) (word : String) : Bool :=
  s.startsWith pos word && !s.charIs (pos + word.length) Char.isAlpha

/-- Whether the next line, which starts at a position, leaves the statement
before it complete: it does not start with something that continues it. -/
def startsAnew (s : Source) (afterOperand signature : Bool) (pos : Nat) : Bool :=
  match s.char? pos with
  | none => true
  | some c =>
    if "\x60,:;*%><=?^|&/".toList.contains c then false
    else if c == '.' then !s.typed && s.charIs (pos + 1) Char.isDigit
    else if c == '[' || c == '(' then s.typed && !afterOperand
    else if c == '\x7b' then !(s.typed && signature)
    else if c == '+' then s.charIs (pos + 1) (· == '+')
    else if c == '-' then s.charIs (pos + 1) (· == '-')
    else if c == '!' then !s.charIs (pos + 1) (· == '=')
    else !(s.wordAt pos "in" || s.wordAt pos "instanceof")

/-- Whether a closing brace ends a statement: with types, not where an annotation
follows the brace, unless an operand came before. -/
def braceEnds (s : Source) (afterOperand : Bool) (pos : Nat) : Bool :=
  let next := s.skipWhile isBreakingSpace (pos + 1)
  !s.typed || !s.charIs next (· == ':') || afterOperand

/-- Looks from a position to the end of its line. -/
def lineLeadsOut (s : Source) (afterOperand signature : Bool) : Nat → Nat → Bool
  | 0, _ => true
  | fuel + 1, pos =>
    match s.char? pos with
    | none => true
    | some c =>
      if c == '\x7d' then s.braceEnds afterOperand pos
      else if c == '/' && !s.typed then
        match s.pass false (s.chars.size + 1) pos with
        | .slash => false
        | .sameLine next => lineLeadsOut s afterOperand signature fuel next
        | .lines next =>
          if !afterOperand && !s.charIs next (fun d => d == ',' || d == '=') then true
          else lineLeadsOut s afterOperand signature fuel next
      else if c == '\n' || (isLineEnd c && !s.typed) then
        match s.pass true (s.chars.size + 1) (pos + 1) with
        | .lines next => s.startsAnew afterOperand signature next
        | _ => false
      else if isBreakingSpace c then lineLeadsOut s afterOperand signature fuel (pos + 1)
      else false

/-- Tries the end of a statement before and after each comment that follows. -/
def impliedEndFrom (s : Source) (afterOperand signature : Bool) : Nat → Nat → Bool
  | 0, _ => false
  | fuel + 1, pos =>
    s.lineLeadsOut afterOperand signature (s.chars.size + 1) pos ||
      match s.commentEnd? (s.skipWhile isSpace pos) with
      | some next => impliedEndFrom s afterOperand signature fuel next
      | none => false

/-- Whether a statement may end at a position without a semicolon.
`afterOperand` says that an operator could follow, `signature` that the body of
a function could. -/
def impliedEnd (s : Source) (afterOperand signature : Bool) (pos : Nat) : Bool :=
  s.impliedEndFrom afterOperand signature (s.chars.size - pos + 1) pos

end Source

end Script
end ContractAudit
