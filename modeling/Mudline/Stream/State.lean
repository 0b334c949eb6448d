import Mudline.Stream.Kind
import Mudline.Unicode.Case

/-!
# The state of the stream

How a text is shown depends on the markers before it: whether bold or monospaced text was begun and
which window the text goes to. The state also holds what decides whether the end of a line is shown.
-/

namespace Mudline.Stream

/-- What the tokens so far have left behind. -/
structure State where
  /-- Whether text is bold. -/
  bold : Bool := false
  /-- Whether text is monospaced. -/
  mono : Bool := false
  /-- Whether text goes to a window of its own. -/
  inStream : Bool := false
  /-- The window that text goes to, in lower case; empty for the main window. -/
  streamId : Text := []
  /-- Whether the setup is over. Until then every text is shown at once. -/
  setupDone : Bool := false
  /-- The token before the next one. -/
  lastToken : Option Token := none
  /-- Whether the next end of a line is not shown. -/
  swallowLineEnd : Bool := false

/-- The windows after which the next end of a line is not shown. -/
def swallowing : List Text :=
  ["experience", "inv", "popstream", "room", "logons", "death"]

namespace State

/-- The state after the marker that a token is. -/
def mark (s : State) (t : Token) : State :=
  match Kind.ofToken t with
  | .pushBold => { s with bold := true }
  | .popBold => { s with bold := false }
  | .pushStream =>
    { s with
      inStream := true
      streamId := ((t.attr? "id").map Unicode.lower).getD s.streamId }
  | .popStream =>
    { s with
      swallowLineEnd := swallowing.contains s.streamId
      inStream := false
      streamId := [] }
  | .endSetup => { s with setupDone := true }
  | _ => s

end State

end Mudline.Stream
