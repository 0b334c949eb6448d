import Mudline.Text.Basic

/-!
# Styled runs

The display shows runs of text, each with the window it goes to and its style. Neighbours that
differ in nothing but their text are one run.
-/

namespace Mudline.Display

/-- The window and the style of a run. -/
structure Style where
  /-- The window; empty for the main window. -/
  window : Text := []
  /-- The colour of the text. -/
  color : Option Text := none
  /-- The colour behind the text. -/
  background : Option Text := none
  /-- The address that the run links to. -/
  href : Option Text := none
  /-- The game command that the run stands for. -/
  command : Option Text := none
  /-- Whether the text is monospaced. -/
  mono : Bool := false
  /-- Whether the text is bold. -/
  bold : Bool := false
  /-- Whether the run is a prompt. -/
  isPrompt : Bool := false
  /-- The named style of the run. -/
  preset : Option Text := none
  /-- Whether the player typed the text. -/
  playerCommand : Bool := false
  deriving DecidableEq, Repr, Inhabited

/-- A run of text in one style. -/
structure Run where
  /-- The text. -/
  text : Text
  /-- Where and how it is shown. -/
  style : Style := {}
  deriving DecidableEq, Repr, Inhabited

/-- Whether two neighbours are one run. -/
def Run.joins (a b : Run) : Bool :=
  a.style == b.style

/-- Puts a run in front of others, joined to the first where it can be. -/
def Run.attach (a : Run) : List Run → List Run
  | [] => [a]
  | b :: rest => if a.joins b then { b with text := a.text ++ b.text } :: rest else a :: b :: rest

/-- Joins all neighbours that can be. -/
def combine (runs : List Run) : List Run :=
  runs.foldr Run.attach []

end Mudline.Display
