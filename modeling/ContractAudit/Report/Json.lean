import ContractAudit.Report.Csv

/-!
# The report as a JSON document

The document is written with two spaces of indentation and in ASCII only:
other characters are escaped by their UTF-16 units.
-/

namespace ContractAudit
namespace Report

open Coverage (Tally Row)
open Number (intText)
open Text (backslash doubleQuote hexDigits)

/-- A UTF-16 unit as an escape. -/
def unitEscape (n : Nat) : List Char :=
  backslash :: 'u' :: hexDigits 4 n

/-- A character inside a JSON string. -/
def jsonChar (c : Char) : List Char :=
  let n := c.toNat
  if c == doubleQuote || c == backslash then [backslash, c]
  else if c == '\n' then [backslash, 'n']
  else if c == '\r' then [backslash, 'r']
  else if c == '\t' then [backslash, 't']
  else if n == 8 then [backslash, 'b']
  else if n == 12 then [backslash, 'f']
  else if 0x20 ≤ n && n < 0x7f then [c]
  else if n < 0x10000 then unitEscape n
  else
    let m := n - 0x10000
    unitEscape (0xd800 + m / 0x400) ++ unitEscape (0xdc00 + m % 0x400)

/-- A JSON string. -/
def jsonString (s : String) : String :=
  String.ofList (doubleQuote :: (s.toList.flatMap jsonChar ++ [doubleQuote]))

/-- A member of an object. -/
def jsonMember (key value : String) : String :=
  jsonString key ++ ": " ++ value

/-- Items between two brackets, one per line; `indent` is that of the items. -/
def jsonBlock (first last : String) (indent : Nat) (items : List String) : String :=
  if items.isEmpty then first ++ last
  else
    let margin (n : Nat) := "\n" ++ String.ofList (List.replicate n ' ')
    first ++ margin indent ++ ("," ++ margin indent).intercalate items
      ++ margin (indent - 2) ++ last

/-- The object of a row. -/
def jsonRow (indent : Nat) (r : Row) : String :=
  jsonBlock "\x7b" "\x7d" indent
    [ jsonMember "label" (jsonString r.label),
      jsonMember "coverage" (r.coverage.roundPlaces coveragePlaces).text,
      jsonMember "functions" (intText r.functions),
      jsonMember "assertions" (intText r.assertions),
      jsonMember "status" (jsonString r.verdict.text) ]

/-- The whole report, without a line feed at its end. -/
def json (t : Tally) : String :=
  let total := match t.totalRow with
    | some r => jsonRow 4 r
    | none => "null"
  jsonBlock "\x7b" "\x7d" 2
    [ jsonMember "files" (jsonBlock "[" "]" 4 (t.fileRows.map (jsonRow 6))),
      jsonMember "total" total ]

end Report
end ContractAudit
