import ContractAudit.Command.Style
import ContractAudit.Run.Journal
import ContractAudit.Text.Markup

/-!
# The progress display

While files are analysed, a line on the console names the last one that is
finished.  The line is marked-up text with the label of the file in it as it
stands.  When the display is taken down the line is drawn a last time; a label
that closes a style which is not open cannot be drawn, and then the command
fails although the analysis has not.  What stands behind an equals sign in a tag
is not looked at.

Main definitions:

- {lit}`Display`: what a display says to a line.
- {lit}`markupDisplay`: the display that reads its line as marked-up text.
- {lit}`takeDown?`: the failure when a display is taken down.
-/

namespace ContractAudit
namespace Command

open Text (Piece trim)

/-- What a display says to a line: why it cannot be drawn, or nothing. -/
abbrev Display := String → Option String

/-- The start of a message on a closing tag. -/
def closingTag (body : List Char) (position : Nat) : String :=
  "closing tag '" ++ String.ofList (Text.bracketed body) ++ "' at position "
    ++ Number.natText position

/-- Why the first closing tag that closes nothing does not, or why a style before it has no
name, if there is one.  `styles` are the open ones, the innermost first, and `position` is
that of the first piece. -/
def closingFault? : List String → Nat → List Piece → Option String
  | _, _, [] => none
  | styles, position, .text cs :: rest => closingFault? styles (position + cs.length) rest
  | styles, position, .tag escapes body :: rest =>
    let start := position + escapes
    let next := start + body.length + 2
    if escapes % 2 == 1 then closingFault? styles next rest
    else match body.takeWhile (· != '=') with
      | '/' :: name =>
        if (trim name).isEmpty then
          match styles with
          | [] => some (closingTag ['/'] start ++ " has nothing to close")
          | _ :: outer => closingFault? outer next rest
        else match normalStyle (trim name) with
          | .error message => some message
          | .ok style =>
            if styles.contains style then closingFault? (styles.erase style) next rest
            else some (closingTag body start ++ " doesn't match any open tag")
      | name => match normalStyle name with
        | .error message => some message
        | .ok style => closingFault? (style :: styles) next rest

/-- The display that reads its line as marked-up text. -/
def markupDisplay : Display := fun line =>
  closingFault? [] 0 (Text.parseMarkup line.toList)

/-- The line of a file that is finished. -/
def progressLine (label : String) : String :=
  "[bold]Analyzing " ++ label

/-- The failure when a display is taken down: the line of the file that was finished last
cannot be drawn. -/
def takeDown? (display : Display) (j : Run.Journal) : Option Failure :=
  j.finished.getLast?.bind fun f =>
    (display (progressLine f.1.label)).map (.unexpected .badValue)

end Command
end ContractAudit
