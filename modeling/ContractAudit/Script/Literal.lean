import ContractAudit.Script.Parser

/-!
# Names and literals

Names, numbers, strings, templates and regular expressions.  A name keeps its
text as it is written, escapes included.
-/

namespace ContractAudit
namespace Script

open ContractAudit.Tree (Concrete)
open ContractAudit.Script.Parser

/-! ## Names -/

/-- Words that are never names of values. -/
def reservedWords : List String :=
  [ "break", "case", "catch", "class", "const", "continue", "debugger", "default", "delete", "do",
    "else", "export", "extends", "false", "finally", "for", "function", "if", "import", "in",
    "instanceof", "new", "null", "return", "super", "switch", "this", "throw", "true", "try",
    "typeof", "var", "void", "while", "with" ]

/-- A name of a value as a leaf of a kind. -/
def valueName (kind : String) : Parser Concrete := do
  let (start, name) ← anyName
  guard (!reservedWords.contains name)
  leafFrom kind start

/-- The name of a variable or a function. -/
def identifier : Parser Concrete :=
  valueName "identifier"

/-- Any word as a leaf of a kind, reserved or not. -/
def freeName (kind : String) : Parser Concrete := do
  let (start, _) ← anyName
  leafFrom kind start

/-- A private member name. -/
def privateName : Parser Concrete := do
  trivia
  let start ← here
  exactly "#"
  guard (← test fun s pos => (s.nameEnd? pos).isSome)
  let _ ← anyName
  leafFrom "private_property_identifier" start

/-! ## Expressions in a row -/

/-- One expression or several with commas between them. -/
def expressions (m : Mode) : Parser Concrete := do
  let first ← goal (.expression m)
  let rest ← many (do
    mark ","
    goal (.expression m))
  return if rest.isEmpty then first else around "sequence_expression" (first :: rest)

/-! ## Numbers -/

/-- Advances over digits, each with or without an underscore before it, at most
`fuel` of them. -/
def advanceDigits (s : Source) (p : Char → Bool) : Nat → Nat → Nat
  | 0, pos => pos
  | fuel + 1, pos =>
    if s.charIs pos p then advanceDigits s p fuel (pos + 1)
    else if s.charIs pos (· == '_') && s.charIs (pos + 1) p then
      advanceDigits s p fuel (pos + 2)
    else pos

/-- The end of a run of digits, which starts with a digit and in which single
underscores may stand. -/
def digitsEnd (s : Source) (p : Char → Bool) (pos : Nat) : Nat :=
  if s.charIs pos p then advanceDigits s p (s.chars.size - pos) pos else pos

/-- The end of an exponent, or the position itself. -/
def exponentEnd (s : Source) (pos : Nat) : Nat :=
  if s.charIs pos fun c => c == 'e' || c == 'E' then
    let start := if s.charIs (pos + 1) fun c => c == '+' || c == '-' then pos + 2 else pos + 1
    if s.charIs start Char.isDigit then digitsEnd s Char.isDigit start else pos
  else pos

/-- The end of a number in another base after its two-letter mark. -/
def baseEnd? (s : Source) (pos : Nat) : Option Nat :=
  let digitOf : Option (Char → Bool) :=
    match s.char? pos, s.char? (pos + 1) with
    | some '0', some c =>
      if c == 'x' || c == 'X' then some isHexDigit
      else if c == 'b' || c == 'B' then some fun d => d == '0' || d == '1'
      else if c == 'o' || c == 'O' then some fun d => '0' ≤ d && d ≤ '7'
      else none
    | _, _ => none
  digitOf.bind fun p =>
    if s.charIs (pos + 2) p then some (digitsEnd s p (pos + 2)) else none

/-- The end of a number at a position. -/
def numberEnd? (s : Source) (pos : Nat) : Option Nat :=
  let suffixed (stop : Nat) := if s.charIs stop (· == 'n') then stop + 1 else stop
  match baseEnd? s pos with
  | some stop => some (suffixed stop)
  | none =>
    if s.charIs pos Char.isDigit then
      let whole := digitsEnd s Char.isDigit pos
      if s.charIs whole (· == '.') then
        some (exponentEnd s (digitsEnd s Char.isDigit (whole + 1)))
      else if s.charIs whole (· == 'n') then some (whole + 1)
      else some (exponentEnd s whole)
    else if s.charIs pos (· == '.') && s.charIs (pos + 1) Char.isDigit then
      some (exponentEnd s (digitsEnd s Char.isDigit (pos + 1)))
    else none

/-- A number. -/
def number : Parser Concrete := do
  trivia
  let start ← here
  match numberEnd? (← source) start with
  | some stop =>
    goto stop
    leafFrom "number" start
  | none => fail

/-! ## Strings and templates -/

/-- The end of an escape, which starts with a backslash. -/
def escapeEnd? (s : Source) (pos : Nat) : Option Nat :=
  let hex (count : Nat) :=
    if (List.range count).all fun i => s.charIs (pos + 2 + i) isHexDigit then
      some (pos + 2 + count)
    else none
  match s.char? (pos + 1) with
  | none => none
  | some c =>
    if c == 'x' then hex 2
    else if c == 'u' then
      if s.charIs (pos + 2) (· == '\x7b') then
        let stop := s.skipWhile isHexDigit (pos + 3)
        if pos + 3 < stop && s.charIs stop (· == '\x7d') then some (stop + 1) else none
      else hex 4
    else if '0' ≤ c && c ≤ '7' then
      some (s.advance (fun d => '0' ≤ d && d ≤ '7') 3 (pos + 1))
    else if c == '\r' && s.charIs (pos + 2) isLineEnd then some (pos + 3)
    else some (pos + 2)

/-- An escape. -/
def escapeSequence : Parser Concrete := do
  let start ← here
  exactly "\x5c"
  match escapeEnd? (← source) start with
  | some stop =>
    goto stop
    leafFrom "escape_sequence" start
  | none => fail

/-- A run of characters of a class. -/
def fragment (p : Char → Bool) : Parser Concrete := do
  let start ← here
  let stop := (← source).skipWhile p start
  guard (start < stop)
  goto stop
  leafFrom "string_fragment" start

/-- A string in a kind of quotes. -/
def stringIn (quote : Char) : Parser Concrete :=
  construct "string" do
    let _ ← charOf (· == quote)
    let parts ← many
      (fragment (fun c => c != quote && c != '\x5c' && c != '\r' && c != '\n') <|> escapeSequence)
    let _ ← charOf (· == quote)
    return parts

/-- A string. -/
def string : Parser Concrete :=
  stringIn '\x22' <|> stringIn '\x27'

/-- The end of plain template text: a backquote, a backslash or a substitution. -/
def templateTextEnd (s : Source) : Nat → Nat → Nat
  | 0, pos => pos
  | fuel + 1, pos =>
    match s.char? pos with
    | none => pos
    | some c =>
      if c == '\x60' || c == '\x5c' || s.startsWith pos "$\x7b" then pos
      else templateTextEnd s fuel (pos + 1)

/-- Plain template text. -/
def templateText (kind : String) : Parser Concrete := do
  let start ← here
  let s ← source
  let stop := templateTextEnd s (s.chars.size - start) start
  guard (start < stop)
  goto stop
  leafFrom kind start

/-- A template; `kind` is that of the node, `part` parses a substitution. -/
def templateOf (kind : String) (part : Parser Concrete) : Parser Concrete :=
  construct kind do
    exactly "\x60"
    let parts ← many (templateText "string_fragment" <|> escapeSequence <|> part)
    exactly "\x60"
    return parts

/-- A template of values. -/
def templateString : Parser Concrete :=
  templateOf "template_string" <| construct "template_substitution" do
    exactly "$\x7b"
    let e ← expressions .enclosed
    mark "\x7d"
    return [e]

/-! ## Regular expressions -/

/-- The end of the body of a regular expression: the first slash that is neither
escaped nor inside brackets. -/
def regexEnd? (s : Source) : (inClass : Bool) → Nat → Nat → Option Nat
  | _, 0, _ => none
  | inClass, fuel + 1, pos =>
    match s.char? pos with
    | none => none
    | some c =>
      if c == '\n' then none
      else if c == '\x5c' then
        if s.charIs (pos + 1) (· != '\n') then regexEnd? s inClass fuel (pos + 2) else none
      else if inClass then regexEnd? s (c != ']') fuel (pos + 1)
      else if c == '/' then some pos
      else regexEnd? s (c == '[') fuel (pos + 1)

/-- A regular expression with its flags. -/
def regex : Parser Concrete :=
  construct "regex" do
    exactly "/"
    let s ← source
    let start ← here
    match regexEnd? s false (s.chars.size - start + 1) start with
    | none => fail
    | some stop =>
      guard (start < stop)
      goto stop
      let body ← leafFrom "regex_pattern" start
      exactly "/"
      let flagStart ← here
      let flagStop := s.skipWhile Char.isLower flagStart
      if flagStart < flagStop then
        goto flagStop
        return [body, ← leafFrom "regex_flags" flagStart]
      else return [body]

/-! ## Names of properties -/

/-- The name of a property: a word, a private name, a literal or a computed value. -/
def propertyName : Parser Concrete :=
  freeName "property_identifier" <|> privateName <|> string <|> number <|>
    construct "computed_property_name" do
      mark "["
      let e ← goal (.expression .enclosed)
      mark "]"
      return [e]

end Script
end ContractAudit
