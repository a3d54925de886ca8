import ContractAudit.Text.CharRange

/-!
# Wildcard patterns

In a pattern a star stands for any text, a question mark for any character and
a bracketed class for one of its characters; all else stands for itself.  A
class that starts with an exclamation mark admits the characters that it does
not name.

A hyphen in a class makes a range of the characters beside it, unless it is the
first or the last one.  Where the first end of a range is above the second, the
range is empty and both ends are dropped.

Main definitions:

- {lit}`Glob.parse`: the tokens of a pattern.
- {lit}`Glob.accepts`: whether tokens stand for a whole text.
-/

namespace ContractAudit
namespace Files

/-- The characters of a class: those named, and those between two ends. -/
structure CharClass where
  negated : Bool
  chars : List Char
  ranges : List (Char × Char)
  deriving DecidableEq, Repr

/-- Whether a class admits a character. -/
def CharClass.admits (k : CharClass) (c : Char) : Bool :=
  k.negated != (k.chars.contains c || k.ranges.any fun r => r.1 ≤ c && c ≤ r.2)

/-- A part of a wildcard pattern. -/
inductive GlobToken where
  | star
  | any
  | char (c : Char)
  | oneOf (k : CharClass)
  deriving DecidableEq, Repr

/-- Whether a token other than the star stands for a character. -/
def GlobToken.admits : GlobToken → Char → Bool
  | star, _ => false
  | any, _ => true
  | char d, c => d == c
  | oneOf k, c => k.admits c

/-! ## Classes -/

/-- The body of a class up to its closing bracket, and what follows.  A bracket at
the very front, or after the exclamation mark, does not close the class. -/
def classBody? (cs : List Char) : Option (List Char × List Char) :=
  let (lead, rest) := match cs with
    | '!' :: ']' :: rest => (['!', ']'], rest)
    | '!' :: rest => (['!'], rest)
    | ']' :: rest => ([']'], rest)
    | _ => ([], cs)
  match rest.dropWhile (· != ']') with
  | _ :: tail => some (lead ++ rest.takeWhile (· != ']'), tail)
  | [] => none

/-- Cuts a class body at the hyphens that make ranges.  The first `keep` characters
cannot be such a hyphen; after one the next two cannot. -/
def classChunks : Nat → List Char → List (List Char)
  | _, [] => [[]]
  | keep + 1, c :: rest =>
    match classChunks keep rest with
    | [] => [[c]]
    | chunk :: chunks => (c :: chunk) :: chunks
  | 0, c :: rest =>
    if c == '-' then [] :: classChunks 2 rest
    else match classChunks 0 rest with
      | [] => [[c]]
      | chunk :: chunks => (c :: chunk) :: chunks

/-- A hyphen at the end of the body makes no range. -/
def closeLastChunk : List (List Char) → List (List Char)
  | [chunk, []] => [chunk ++ ['-']]
  | chunk :: rest => chunk :: closeLastChunk rest
  | [] => []

/-- Whether the last character of a chunk is above the first of the next one. -/
def isEmptyRange (left right : List Char) : Bool :=
  match left.getLast?, right.head? with
  | some a, some b => b < a
  | _, _ => false

/-- Joins the chunks around empty ranges, from the last range to the first, and drops
the ends of these ranges. -/
def joinEmptyRanges : List (List Char) → List (List Char)
  | [] => []
  | chunk :: rest =>
    match joinEmptyRanges rest with
    | [] => [chunk]
    | next :: more =>
      if isEmptyRange chunk next then (chunk.dropLast ++ next.drop 1) :: more
      else chunk :: next :: more

/-- The ranges between neighbouring chunks. -/
def chunkRanges : List (List Char) → List (Char × Char)
  | left :: right :: rest =>
    (match left.getLast?, right.head? with
      | some a, some b => [(a, b)]
      | _, _ => []) ++ chunkRanges (right :: rest)
  | _ => []

/-- The class with a body. -/
def classOf (body : List Char) : CharClass :=
  let keep := if body.head? == some '!' then 2 else 1
  let chunks := joinEmptyRanges (closeLastChunk (classChunks keep body))
  let (negated, chunks) := match chunks with
    | ('!' :: first) :: rest => (true, first :: rest)
    | other => (false, other)
  ⟨negated, chunks.flatten, chunkRanges chunks⟩

/-! ## Patterns -/

namespace Glob

/-- The tokens of a pattern, of which `skip` characters belong to the last class. -/
def tokens : Nat → List Char → List GlobToken
  | _, [] => []
  | skip + 1, _ :: rest => tokens skip rest
  | 0, c :: rest =>
    if c == '*' then .star :: tokens 0 rest
    else if c == '?' then .any :: tokens 0 rest
    else if c == '[' then
      match classBody? rest with
      | some (body, _) => .oneOf (classOf body) :: tokens (body.length + 1) rest
      | none => .char c :: tokens 0 rest
    else .char c :: tokens 0 rest

/-- Several stars in a row are one. -/
def mergeStars : List GlobToken → List GlobToken
  | .star :: .star :: rest => mergeStars (.star :: rest)
  | t :: rest => t :: mergeStars rest
  | [] => []

/-- The tokens of a pattern. -/
def parse (pattern : List Char) : List GlobToken :=
  mergeStars (tokens 0 pattern)

/-- A list and what remains of it after each of its items. -/
def tails : List Char → List (List Char)
  | [] => [[]]
  | c :: rest => (c :: rest) :: tails rest

/-- Whether tokens stand for a whole text. -/
def accepts : List GlobToken → List Char → Bool
  | [], cs => cs.isEmpty
  | .star :: ts, cs => (tails cs).any (accepts ts)
  | _ :: _, [] => false
  | t :: ts, c :: cs => t.admits c && accepts ts cs

/-- Whether a pattern stands for a whole text. -/
def matchesText (pattern text : String) : Bool :=
  accepts (parse pattern.toList) text.toList

/-- Whether a pattern has a character that may stand for others. -/
def isWildcard (pattern : String) : Bool :=
  pattern.toList.any fun c => c == '*' || c == '?' || c == '['

end Glob

end Files
end ContractAudit
