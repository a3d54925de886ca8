import ContractAudit.Text.Pictograph
import ContractAudit.Text.Quoted
import ContractAudit.Text.Blank

/-!
# Marked-up text

Terminal output is written in a small markup: `[tag]` opens a style, `[/tag]`
closes it, a backslash keeps a bracket literal, and `:name:` names a
pictograph.  Styles do not show in plain output, so {lit}`plain` drops the
tags.  {lit}`escape` protects a text that is to be shown as it is.
-/

namespace ContractAudit
namespace Text

/-- Whether a character may follow the opening bracket of a tag. -/
def startsTag (c : Char) : Bool :=
  ('a' ≤ c && c ≤ 'z') || c == '#' || c == '/' || c == '@'

/-- Splits the inside of a bracket group: what stands before the first closing
bracket, if no other opening bracket comes first. -/
def tagBody? : List Char → List Char → Option (List Char × List Char)
  | _, [] => none
  | acc, ']' :: rest => some (acc.reverse, rest)
  | acc, c :: rest => if c == '[' then none else tagBody? (c :: acc) rest

/-- The tag that opens a text: its inside and what follows it. -/
def tag? : List Char → Option (List Char × List Char)
  | '[' :: c :: rest => if startsTag c then tagBody? [c] rest else none
  | _ => none

/-- A piece of marked-up text. -/
inductive Piece where
  | text (chars : List Char)
  | tag (escapes : Nat) (body : List Char)

/-- Splits marked-up text into tags, each with the backslashes before it, and the
text between them. -/
def pieces : Nat → List Char → List Char → List Piece
  | 0, plain, rest => [.text (plain.reverse ++ rest)]
  | _ + 1, plain, [] => [.text plain.reverse]
  | fuel + 1, plain, c :: rest =>
    match tag? (c :: rest) with
    | some (body, after) =>
      let escapes := (plain.takeWhile (· == backslash)).length
      .text (plain.drop escapes).reverse :: .tag escapes body :: pieces fuel [] after
    | none => pieces fuel (c :: plain) rest

/-- The pieces of a marked-up text. -/
def parseMarkup (cs : List Char) : List Piece :=
  pieces (cs.length + 1) [] cs

/-- A tag between brackets. -/
def bracketed (body : List Char) : List Char :=
  '[' :: (body ++ [']'])

/-- Writes a text so that its brackets are not read as tags. -/
def escape (cs : List Char) : List Char :=
  let body := (parseMarkup cs).flatMap fun
    | .text t => t
    | .tag escapes body =>
      List.replicate (2 * escapes + 1) backslash ++ bracketed body
  match body.reverse with
  | a :: b :: _ => if a == backslash && b != backslash then body ++ [backslash] else body
  | [a] => if a == backslash then body ++ [backslash] else body
  | [] => body

/-- Lower case of the letters that occur in pictograph codes. -/
def codeLower (c : Char) : Char :=
  let n := c.toNat
  if (0x41 ≤ n && n ≤ 0x5a) || (0xc0 ≤ n && n ≤ 0xde && n != 0xd7) then Char.ofNat (n + 32)
  else if n == 0x212a then 'k'
  else if n == 0x212b then Char.ofNat 0xe5
  else c

/-- Takes an ending off a text, if it is there. -/
def stripEnding? (ending cs : List Char) : Option (List Char) :=
  if ending.isSuffixOf cs then some (cs.take (cs.length - ending.length)) else none

/-- The pictograph of a code, which may ask for the text or the colour form. -/
def pictographOf? (code : List Char) : Option (List Char) :=
  let look (name : List Char) := pictograph? (name.map codeLower)
  match stripEnding? "-emoji".toList code with
  | some name => (look name).map (· ++ [Char.ofNat 0xfe0f])
  | none =>
    match stripEnding? "-text".toList code with
    | some name => (look name).map (· ++ [Char.ofNat 0xfe0e])
    | none => look code

/-- A code at the start of a text after its opening colon: the characters up to
the next colon, none of them blank. -/
def codeBody? : List Char → List Char → Option (List Char × List Char)
  | _, [] => none
  | acc, ':' :: rest => some (acc.reverse, rest)
  | acc, c :: rest => if isBlank c then none else codeBody? (c :: acc) rest

/-- Replaces the known pictograph codes; other colons stay. -/
def replacePictographs : Nat → List Char → List Char
  | 0, cs => cs
  | _ + 1, [] => []
  | fuel + 1, c :: rest =>
    if c == ':' then
      match codeBody? [] rest with
      | some (code, after) =>
        match pictographOf? code with
        | some picture => picture ++ replacePictographs fuel after
        | none => (':' :: code) ++ ':' :: replacePictographs fuel after
      | none => c :: replacePictographs fuel rest
    else c :: replacePictographs fuel rest

/-- Drops the backslash of every literal opening bracket. -/
def unescapeBrackets : List Char → List Char
  | a :: b :: rest =>
    if a == backslash && b == '[' then '[' :: unescapeBrackets rest
    else a :: unescapeBrackets (b :: rest)
  | cs => cs

/-- Controls that a terminal would act on; they are dropped from shown text. -/
def isActingControl (c : Char) : Bool :=
  [7, 8, 11, 12, 13].contains c.toNat

/-- A run of text as it is shown. -/
def shown (cs : List Char) : List Char :=
  let t := unescapeBrackets cs
  (replacePictographs (t.length + 1) t).filter fun c => !isActingControl c

/-- The text that marked-up text shows: styles vanish, escaped tags stay. -/
def plain (cs : List Char) : List Char :=
  if cs.contains '[' then
    (parseMarkup cs).flatMap fun
      | .text t => shown t
      | .tag escapes body =>
        shown (List.replicate (escapes / 2) backslash)
          ++ (if escapes % 2 == 1 then shown (bracketed body) else [])
  else
    (replacePictographs (cs.length + 1) cs).filter fun c => !isActingControl c

end Text
end ContractAudit
