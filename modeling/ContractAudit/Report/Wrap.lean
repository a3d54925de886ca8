import ContractAudit.Text.Width
import ContractAudit.Text.Blank

/-!
# Fitting text into a column

A cell has a width.  Its text is cut into lines at line feeds, each line is
broken between words where it does not fit, and a word that is wider than the
cell is cut off with an ellipsis.

Main definitions:

- {lit}`breakWords`: the lines of a text that has no line feed.
- {lit}`truncate`: cuts a line to a width.
- {lit}`layout`: all lines of a cell, aligned and padded.
-/

namespace ContractAudit
namespace Report

open Text (width isBlank dropRight cells)

/-- How a line stands in its cell. -/
inductive Align where
  | left
  | right
  | center
  deriving DecidableEq, Repr

/-- A number of spaces. -/
def spaces (n : Nat) : List Char :=
  List.replicate n ' '

/-- Cuts a text at every character of a class, without the character. -/
def cutAt (p : Char → Bool) : List Char → List (List Char)
  | [] => [[]]
  | c :: cs =>
    match cutAt p cs with
    | [] => [[c]]
    | line :: lines => if p c then [] :: line :: lines else (c :: line) :: lines

/-- The lines of a text between line feeds. -/
def cutLines (cs : List Char) : List (List Char) :=
  cutAt (· == '\n') cs

/-- The characters that end a line when a text is measured. -/
def endsMeasuredLine (c : Char) : Bool :=
  let n := c.toNat
  (10 ≤ n && n ≤ 13) || (0x1c ≤ n && n ≤ 0x1e) || n == 0x85 || n == 0x2028 || n == 0x2029

/-- The width of the widest line of a text. -/
def measure (cs : List Char) : Nat :=
  ((cutAt endsMeasuredLine cs).map width).foldl max 0

/-- The distance of tab stops. -/
def tabStop : Nat := 8

/-- Replaces tabs by spaces up to the next tab stop; `col` is the width so far. -/
def expandTabs : Nat → List Char → List Char
  | _, [] => []
  | col, c :: cs =>
    if c == '\t' then
      let step := tabStop - col % tabStop
      spaces step ++ expandTabs (col + step) cs
    else c :: expandTabs (col + cells c) cs

/-- The first word of a text with the blanks around it, and the rest; nothing
where the text has no word. -/
def splitWord? (cs : List Char) : Option (List Char × List Char) :=
  let lead := cs.takeWhile isBlank
  let body := cs.drop lead.length
  let word := body.takeWhile fun c => !isBlank c
  let tail := (body.drop word.length).takeWhile isBlank
  if word.isEmpty then none
  else some (lead ++ word ++ tail, (body.drop word.length).drop tail.length)

/-- The words of a text, each with the blanks around it.  A trailing run of
blanks belongs to the last word; `fuel` bounds the number of words. -/
def words : Nat → List Char → List (List Char)
  | 0, _ => []
  | fuel + 1, cs =>
    match splitWord? cs with
    | none => []
    | some (w, rest) => w :: words fuel rest

/-- Puts words on lines: a word that does not fit starts a new line, unless it
would be the first of the text.  `line` and `done` are in reverse order. -/
def fill (limit : Nat) :
    List (List Char) → (used : Nat) → (line : List (List Char)) → (done : List (List Char)) →
      List (List Char)
  | [], _, line, done => (line.reverse.flatten :: done).reverse
  | w :: ws, used, line, done =>
    let size := width (dropRight isBlank w)
    let atStart := line.isEmpty && done.isEmpty
    if used + size ≤ limit then fill limit ws (used + width w) (w :: line) done
    else if limit < size then
      if atStart then fill limit ws (width w) [w] done
      else fill limit ws (width w) [w] (line.reverse.flatten :: done)
    else if used != 0 && !atStart then
      fill limit ws (width w) [w] (line.reverse.flatten :: done)
    else fill limit ws used (w :: line) done

/-- Breaks a line between words; a text without words stays as it is. -/
def breakWords (limit : Nat) (cs : List Char) : List (List Char) :=
  match words (cs.length + 1) cs with
  | [] => [cs]
  | ws => fill limit ws 0 [] []

/-- Drops blanks at the end as far as the line has more than `limit` characters. -/
def trimExcess (limit : Nat) (cs : List Char) : List Char :=
  let blanks := (cs.reverse.takeWhile isBlank).length
  cs.take (cs.length - min blanks (cs.length - limit))

/-- Looks for a cut at which the text before it has the wanted width; a character
of two cells that would stick out by one becomes a space. -/
def searchCut (cs : List Char) (total : Nat) : Nat → Nat → Nat → List Char
  | 0, start, _ => cs.take start
  | fuel + 1, start, stop =>
    let pos := (start + stop) / 2
    let before := cs.take (pos + 1)
    let size := width before
    if size == total + 1 && (before.getLast?.map cells) == some 2 then before.dropLast ++ [' ']
    else if size == total then before
    else if total < size then searchCut cs total fuel start pos
    else searchCut cs total fuel pos stop

/-- Makes a text exactly `total` cells wide. -/
def setWidth (cs : List Char) (total : Nat) : List Char :=
  let size := width cs
  if total = 0 then []
  else if size ≤ total then cs ++ spaces (total - size)
  else searchCut cs total (cs.length + 2) 0 cs.length

/-- The mark of a line that was cut off. -/
def ellipsis : Char := '…'

/-- Cuts a line that is too wide. -/
def truncate (limit : Nat) (cs : List Char) : List Char :=
  if limit < width cs then setWidth cs (limit - 1) ++ [ellipsis] else cs

/-- Aligns a line in a cell and pads it. -/
def align (a : Align) (limit : Nat) (cs : List Char) : List Char :=
  match a with
  | .left =>
    let line := truncate limit cs
    line ++ spaces (limit - width line)
  | .right =>
    let line := truncate limit (dropRight isBlank cs)
    spaces (limit - width line) ++ line
  | .center =>
    let line := truncate limit (dropRight isBlank cs)
    let before := (limit - width line) / 2
    spaces before ++ line ++ spaces (limit - width line - before)

/-- The lines of a cell. -/
def layout (a : Align) (limit : Nat) (cs : List Char) : List (List Char) :=
  (cutLines cs).flatMap fun line =>
    let line := if line.contains '\t' then expandTabs 0 line else line
    (breakWords limit line).map fun part => align a limit (trimExcess limit part)

end Report
end ContractAudit
