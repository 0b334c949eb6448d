import Mudline.Markup.Reader
import Mudline.Regex.Search
import Mudline.Stream.Command
import Mudline.Stream.Shown

/-!
# Reading the stream

The stream comes in chunks. Each token of a chunk changes the state, sets shared variables and is
announced by commands; what is shown of it is batched up to the next prompt, once the setup is over.
A prompt without anything to show before it ends its chunk.
-/

namespace Mudline

/-- The reader of the stream between two chunks. -/
structure Stream where
  /-- What the tokens so far have left behind. -/
  state : Stream.State := {}
  /-- What is to be shown with the next prompt. -/
  pending : List Display.Run := []
  /-- The shared variables. -/
  globals : Store := {}
  /-- The creatures that are left out. -/
  ignored : Option Regex := none
  /-- The seconds that the wall clock shows. -/
  now : Nat := 0

namespace Stream

/-- Whether a creature is left out. -/
def ignores (s : Stream) (name : Text) : Bool :=
  s.ignored.any (·.occursIn name)

/-- Leaves out the creatures that an expression matches, or none when it is empty. -/
def ignore (s : Stream) (source : Text) : Except Regex.Error Stream :=
  if source.isEmpty then .ok { s with ignored := none }
  else (Regex.compile source).map fun r => { s with ignored := some r }

/-- Begins the setup again, or ends it. -/
def resetSetup (s : Stream) (done : Bool) : Stream :=
  { s with state := { s.state with setupDone := done } }

/-- The effects of a token on the state and the shared variables, and the commands that announce
it. -/
def process (s : Stream) (t : Token) : Stream × List Command :=
  let state := s.state.mark t
  let globals := s.globals.setAll (writes s.ignores s.now t)
  ({ s with state := state, globals := globals }, announce state.setupDone globals t)

/-- What is shown of a token. -/
def display (s : Stream) (t : Token) : Stream × Option Display.Run :=
  ({ s with state := s.state.pass t }, s.state.run? t)

/-- Adds a run to what is to be shown, and shows all of it at a prompt or during the setup. -/
def queue (s : Stream) (isPrompt : Bool) (r : Display.Run) : Stream × List Command :=
  let pending := s.pending ++ [r]
  if isPrompt || !s.state.setupDone then
    ({ s with pending := [] }, [.text (Display.combine pending)])
  else ({ s with pending := pending }, [])

/-- Reads tokens up to the end of the chunk. Nothing is read past a token that brings a fault. -/
def readTokens (s : Stream) : List Token → Stream × List Command
  | [] => (s, [])
  | t :: rest =>
    let (s, commands) := s.process t
    if (Command.firstFault? commands).isSome then (s, commands)
    else
      let isPrompt := t.kind == "prompt"
      match s.display t with
      | (s, none) =>
        let (s, later) := s.readTokens rest
        (s, commands ++ later)
      | (s, some r) =>
        if isPrompt && s.pending.isEmpty then (s, commands)
        else
          let (s, shown) := s.queue isPrompt r
          let (s, later) := s.readTokens rest
          (s, commands ++ shown ++ later)

/-- Reads a chunk. -/
def read (s : Stream) (chunk : Text) : Stream × List Command :=
  s.readTokens (Markup.read (Text.replace "\r\n" "\n" chunk))

end Stream

end Mudline
