import ContractAudit.Toml.Flaw

/-!
# Blanks, comments, texts and keys

The lexical parts of a settings document: what stands between statements, the
four forms of a text, and the dotted keys.
-/

namespace ContractAudit
namespace Toml

/-- A space or a tab. -/
def isSpace (c : Char) : Bool :=
  c == ' ' || c == '\t'

/-- A space, a tab or a line feed. -/
def isSpaceOrLine (c : Char) : Bool :=
  isSpace c || c == '\n'

/-- Drops the spaces in front. -/
def skipSpaces (cs : List Char) : List Char :=
  cs.dropWhile isSpace

/-- Whether a character must not stand in a comment or in a text of one line. -/
def isControl (c : Char) : Bool :=
  (c.toNat < 32 || c.toNat == 127) && c != '\t'

/-- Whether a character must not stand in a text. -/
def isIllegal (multiline : Bool) (c : Char) : Bool :=
  isControl c && !(multiline && c == '\n')

/-- Drops a comment up to its line end. -/
def skipComment : List Char → Except Refusal (List Char)
  | '#' :: cs =>
    let body := cs.takeWhile (· != '\n')
    match body.dropWhile (!isControl ·) with
    | [] => .ok (cs.dropWhile (· != '\n'))
    | c :: tail => .error (.flaw (.invalidChar c) (1 + tail.length + (cs.length - body.length)))
  | cs => .ok cs

/-- Drops blanks, line ends and comments, at most `fuel` comments of them. -/
def skipLines : Nat → List Char → Except Refusal (List Char)
  | 0, cs => .ok cs
  | fuel + 1, cs => do
    let next := cs.dropWhile isSpaceOrLine
    match next with
    | '#' :: _ => skipLines fuel (← skipComment next)
    | _ => .ok next

/-- Drops blanks, line ends and comments. -/
def skipAll (cs : List Char) : Except Refusal (List Char) :=
  skipLines cs.length cs

/-- Whether a digit is hexadecimal. -/
def isHexDigit (c : Char) : Bool :=
  c.isDigit || ('a' ≤ c && c ≤ 'f') || ('A' ≤ c && c ≤ 'F')

/-- The value of a digit of a base up to sixteen. -/
def digitValue (c : Char) : Nat :=
  if c.isDigit then c.toNat - 48
  else if 'a' ≤ c then c.toNat - 87
  else c.toNat - 55

/-- The value of a list of digits in a base. -/
def digitsValue (base : Nat) (cs : List Char) : Nat :=
  cs.foldl (fun n c => base * n + digitValue c) 0

/-- The character whose code point stands in `count` hexadecimal digits. -/
def hexChar (count : Nat) (cs : List Char) : Reading (List Char) :=
  let ds := cs.take count
  if ds.length != count || !ds.all isHexDigit then fail .badHex cs
  else
    let n := digitsValue 16 ds
    if n < 0xd800 || (0xdfff < n && n < 0x110000) then .ok ([Char.ofNat n], cs.drop count)
    else fail .noScalar (cs.drop count)

/-- What a short escape stands for. -/
def shortEscape? : Char → Option Char
  | 'b' => some '\x08'
  | 't' => some '\t'
  | 'n' => some '\n'
  | 'f' => some '\x0c'
  | 'r' => some '\r'
  | '\x22' => some '\x22'
  | '\x5c' => some '\x5c'
  | _ => none

/-- Reads an escape after its backslash.  In a text of several lines a backslash
at the end of a line swallows the blanks that follow. -/
def escape (multiline : Bool) : List Char → Reading (List Char)
  | [] => fail .badEscape []
  | c :: rest =>
    if multiline && c == '\n' then .ok ([], rest.dropWhile isSpaceOrLine)
    else if multiline && isSpace c then
      match skipSpaces rest with
      | [] => .ok ([], [])
      | '\n' :: more => .ok ([], more.dropWhile isSpaceOrLine)
      | other => fail .badEscape other
    else if c == 'u' then hexChar 4 rest
    else if c == 'U' then hexChar 8 rest
    else match shortEscape? c with
      | some e => .ok ([e], rest)
      | none => fail .badEscape rest

/-- Reads a text with escapes up to its closing quotes, in at most `fuel` steps;
`acc` holds what was read, last character first. -/
def escapedLoop (multiline : Bool) : Nat → List Char → List Char → Reading (List Char)
  | 0, _, cs => fail .unterminated cs
  | _ + 1, _, [] => fail .unterminated []
  | fuel + 1, acc, c :: rest =>
    if c == '\x22' then
      if !multiline then .ok (acc.reverse, rest)
      else match rest with
        | '\x22' :: '\x22' :: more => .ok (acc.reverse, more)
        | _ => escapedLoop multiline fuel (c :: acc) rest
    else if c == '\x5c' then
      match escape multiline rest with
      | .ok (piece, more) => escapedLoop multiline fuel (piece.reverse ++ acc) more
      | .error e => .error e
    else if isIllegal multiline c then fail (.illegalChar c) (c :: rest)
    else escapedLoop multiline fuel (c :: acc) rest

/-- Reads a text with escapes after its opening quotes. -/
def escapedText (multiline : Bool) (cs : List Char) : Reading (List Char) :=
  escapedLoop multiline (cs.length + 1) [] cs

/-- Cuts a list where `delimiter` first stands in it. -/
def cutAtDelimiter? (delimiter : List Char) : List Char → Option (List Char × List Char)
  | [] => none
  | c :: rest =>
    if delimiter.isPrefixOf (c :: rest) then some ([], (c :: rest).drop delimiter.length)
    else (cutAtDelimiter? delimiter rest).map fun p => (c :: p.1, p.2)

/-- Reads a text without escapes after its opening delimiter. -/
def verbatimText (multiline : Bool) (cs : List Char) : Reading (List Char) :=
  let delimiter := List.replicate (if multiline then 3 else 1) '\x27'
  match cutAtDelimiter? delimiter cs with
  | none => fail (.expected (String.ofList delimiter)) []
  | some (body, rest) =>
    match body.dropWhile (!isIllegal multiline ·) with
    | [] => .ok (body, rest)
    | c :: tail =>
      .error (.flaw (.invalidChar c) (1 + tail.length + delimiter.length + rest.length))

/-- Up to two quotes directly after the closing ones belong to the text. -/
def extraQuotes (q : Char) (text : List Char) : List Char → List Char × List Char
  | c :: d :: rest =>
    if c == q then
      if d == q then (text ++ [q, q], rest) else (text ++ [q], d :: rest)
    else (text, c :: d :: rest)
  | [c] => if c == q then (text ++ [q], []) else (text, [c])
  | [] => (text, [])

/-- Drops one line feed in front. -/
def skipLineFeed : List Char → List Char
  | '\n' :: cs => cs
  | cs => cs

/-- Reads a text of any of the four forms, if one stands here. -/
def text? : List Char → Option (Reading (List Char))
  | '\x22' :: '\x22' :: '\x22' :: cs =>
    some ((escapedText true (skipLineFeed cs)).map fun p => extraQuotes '\x22' p.1 p.2)
  | '\x22' :: cs => some (escapedText false cs)
  | '\x27' :: '\x27' :: '\x27' :: cs =>
    some ((verbatimText true (skipLineFeed cs)).map fun p => extraQuotes '\x27' p.1 p.2)
  | '\x27' :: cs => some (verbatimText false cs)
  | _ => none

/-- Whether a character can stand in a key without quotes. -/
def isBareKeyChar (c : Char) : Bool :=
  c.isAlphanum || c == '-' || c == '_'

/-- Whether a key can start with a character. -/
def startsKey (c : Char) : Bool :=
  isBareKeyChar c || c == '\x22' || c == '\x27'

/-- Reads one part of a key. -/
def keyPart (cs : List Char) : Reading String :=
  match cs with
  | '\x22' :: rest => (escapedText false rest).map fun p => (String.ofList p.1, p.2)
  | '\x27' :: rest => (verbatimText false rest).map fun p => (String.ofList p.1, p.2)
  | _ =>
    match cs.takeWhile isBareKeyChar with
    | [] => fail .keyStart cs
    | word => .ok (String.ofList word, cs.dropWhile isBareKeyChar)

/-- Reads a key with at most `fuel` further parts. -/
def keyParts : Nat → List Char → Except Refusal (Key × List Char)
  | 0, cs => fail .keyStart cs
  | fuel + 1, cs => do
    let (part, rest) ← keyPart cs
    match skipSpaces rest with
    | '.' :: more =>
      let (parts, rest) ← keyParts fuel (skipSpaces more)
      .ok (part :: parts, rest)
    | other => .ok ([part], other)

/-- Reads a key and the spaces after it. -/
def key (cs : List Char) : Reading Key :=
  keyParts (cs.length + 1) cs

end Toml
end ContractAudit
