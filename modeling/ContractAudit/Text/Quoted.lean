import ContractAudit.Text.Printable
import ContractAudit.Number.Rounding

/-!
# Quoted texts

Messages show a text value between quotes.  Single quotes are used unless the
text has a single quote and no double quote; the quote in use, the backslash
and characters that cannot be shown are escaped.
-/

namespace ContractAudit
namespace Text

/-- The single quote. -/
def singleQuote : Char := '\x27'

/-- The double quote. -/
def doubleQuote : Char := '\x22'

/-- The backslash. -/
def backslash : Char := '\x5c'

/-- The lower-case hexadecimal digits of a number, with at least `places` of them. -/
def hexDigits (places n : Nat) : List Char :=
  let d := Nat.toDigits 16 n
  List.replicate (places - d.length) '0' ++ d

/-- An escape with a letter for its length and the code point in hexadecimal. -/
def hexEscape (c : Char) : List Char :=
  let n := c.toNat
  if n < 0x100 then backslash :: 'x' :: hexDigits 2 n
  else if n < 0x10000 then backslash :: 'u' :: hexDigits 4 n
  else backslash :: 'U' :: hexDigits 8 n

/-- A character as it stands between the quotes `q`. -/
def quoteChar (q c : Char) : List Char :=
  if c == q || c == backslash then [backslash, c]
  else if c == '\t' then [backslash, 't']
  else if c == '\n' then [backslash, 'n']
  else if c == '\r' then [backslash, 'r']
  else if isPrintable c then [c]
  else hexEscape c

/-- The quote around a text: the double one where only it avoids an escape. -/
def quoteFor (cs : List Char) : Char :=
  if cs.contains singleQuote && !cs.contains doubleQuote then doubleQuote else singleQuote

/-- A text between quotes. -/
def quoted (s : String) : String :=
  let cs := s.toList
  let q := quoteFor cs
  String.ofList (q :: (cs.flatMap (quoteChar q) ++ [q]))

end Text
end ContractAudit
