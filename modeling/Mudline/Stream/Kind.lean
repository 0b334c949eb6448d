import Mudline.Markup.Token

/-!
# Kinds of tokens

A token of the stream means something by its kind: it is shown, it changes how later text is shown,
or it tells the state of the game. All other tokens mean nothing.
-/

namespace Mudline.Stream

/-- What a token is, as far as the stream is concerned. -/
inductive Kind
  /-- Text to be shown. -/
  | text
  /-- The end of a line. -/
  | lineEnd
  /-- The prompt, after which the game waits for the player. -/
  | prompt
  /-- A change between plain and monospaced text. -/
  | output
  /-- A text that links to an address. -/
  | link
  /-- A text in bold. -/
  | bold
  /-- A text that stands for a game command. -/
  | command
  /-- A text in a named style. -/
  | preset
  /-- The moment until which the character cannot act. -/
  | roundTime
  /-- What the left hand holds. -/
  | leftHand
  /-- What the right hand holds. -/
  | rightHand
  /-- The spell that is prepared. -/
  | spell
  /-- The start of bold text. -/
  | pushBold
  /-- The end of bold text. -/
  | popBold
  /-- A window is to be emptied. -/
  | clearStream
  /-- What follows goes to a window of its own. -/
  | pushStream
  /-- What follows goes to the main window again. -/
  | popStream
  /-- The definition of a window. -/
  | streamWindow
  /-- A piece of the description of the game, such as the room. -/
  | component
  /-- The exits of the room. -/
  | compass
  /-- A state that the character is in or not. -/
  | indicator
  /-- A dialog with progress bars. -/
  | dialogData
  /-- The name of the character and of the game. -/
  | app
  /-- An address to be opened. -/
  | launchUrl
  /-- The end of the setup. -/
  | endSetup
  /-- Anything else. -/
  | other
  deriving DecidableEq, Repr

namespace Kind

/-- The names of the kinds. -/
def table : List (Text × Kind) :=
  [("text", text), ("eot", lineEnd), ("prompt", prompt), ("output", output), ("a", link),
   ("b", bold), ("d", command), ("preset", preset), ("roundtime", roundTime), ("left", leftHand),
   ("right", rightHand), ("spell", spell), ("pushbold", pushBold), ("popbold", popBold),
   ("clearstream", clearStream), ("pushstream", pushStream), ("popstream", popStream),
   ("streamwindow", streamWindow), ("component", component), ("compass", compass),
   ("indicator", indicator), ("dialogdata", dialogData), ("app", app), ("launchurl", launchUrl),
   ("endsetup", endSetup)]

/-- The kind of a token. -/
def ofToken (t : Token) : Kind :=
  (table.lookup t.kind).getD other

end Kind

end Mudline.Stream
