import Mudline.Display.Entity
import Mudline.Display.Run
import Mudline.Stream.State

/-!
# What is shown of a token

Texts, links and texts with a style are shown as they are, the end of a line as a line feed. No line
ends after a token that leaves nothing on the line.
-/

namespace Mudline.Stream

/-- The names of the tokens after which the end of a line is not shown. -/
def quietNames : List Text :=
  ["app", "clearstream", "compass", "compdef", "component", "dialogdata", "endsetup",
   "exposecontainer", "indicator", "left", "mode", "opendialog", "nav", "output", "right",
   "streamwindow", "spell", "switchquickbar"]

/-- The windows whose texts are shown without the spaces and tabs around them. -/
def trimmedWindows : List Text :=
  ["logons", "death"]

/-- How a text begins that goes on with a list of what is in the room. -/
def alsoSee : Text := "  You also see"

namespace State

/-- The content of a token as a run of text in the current style, in the main window. -/
def plainRun (s : State) (t : Token) : Display.Run :=
  { text := Display.unescape t.content, style := { bold := s.bold, mono := s.mono } }

/-- The window that a token goes to that is not in the main window by itself. -/
def ownWindow (s : State) : Text :=
  if s.inStream then s.streamId else []

/-- Adapts a text to the token before it: a list of what is in the room starts on a new line in the
style before it, and the name of a room has a style of its own. -/
def adjoin (last : Token) (r : Display.Run) : Display.Run :=
  let r :=
    if last.kind == "preset" && alsoSee.isPrefixOf r.text then
      { text := '\n' :: r.text.drop 2, style := { r.style with preset := last.attr? "id" } }
    else r
  if (last.kind == "style" || last.kind == "preset") && last.attr? "id" == some "roomName" then
    { r with style := { r.style with preset := some "roomname" } }
  else r

/-- The run of a text. -/
def textRun (s : State) (t : Token) : Display.Run :=
  let r := s.plainRun t
  let text :=
    if s.inStream && trimmedWindows.contains s.streamId then
      Text.trimWhile (fun c => c == ' ' || c == '\t') r.text
    else r.text
  let r : Display.Run := { text := text, style := { r.style with window := s.streamId } }
  match s.lastToken with
  | some last => adjoin last r
  | none => r

/-- The token whose content stands for a game command, if the command has one. -/
def commandFace? (t : Token) : Option Token :=
  match t.children with
  | [] => some t
  | first :: _ => if first.kind == "b" || first.kind == "text" then some first else none

/-- Whether the end of a line counts here. -/
def lineEnds (s : State) : Bool :=
  match s.lastToken with
  | some last => !quietNames.contains last.kind && !s.inStream && last.kind != "prompt"
  | none => false

/-- The run that a token is shown as. -/
def run? (s : State) (t : Token) : Option Display.Run :=
  let r := s.plainRun t
  match Kind.ofToken t with
  | .text => some (s.textRun t)
  | .lineEnd => if s.lineEnds && !s.swallowLineEnd then some { text := ['\n'] } else none
  | .prompt => some { r with style := { r.style with isPrompt := true } }
  | .link =>
    some { r with style := { r.style with href := t.attr? "href", window := s.ownWindow } }
  | .bold =>
    some { r with style := { r.style with bold := s.bold || s.inStream, window := s.ownWindow } }
  | .command =>
    (commandFace? t).map fun face =>
      let r := s.plainRun face
      { r with style := { r.style with command := t.attr? "cmd", window := s.ownWindow } }
  | .preset =>
    some { r with style :=
      { r.style with preset := (t.attr? "id").map Unicode.lower, window := s.streamId } }
  | _ => none

/-- The state after a token has been shown. -/
def pass (s : State) (t : Token) : State :=
  let s := match Kind.ofToken t with
    | .lineEnd => if s.lineEnds then { s with swallowLineEnd := false } else s
    | .output =>
      { s with mono := ((t.attr? "class").map fun name => name == ("mono" : Text)).getD s.mono }
    | _ => s
  { s with lastToken := some t }

end State

end Mudline.Stream
