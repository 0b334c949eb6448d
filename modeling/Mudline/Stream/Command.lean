import Mudline.Display.Run
import Mudline.Fault
import Mudline.Number.Duration
import Mudline.Store
import Mudline.Stream.Variable
import Mudline.Text.Quoted

/-!
# Commands of the stream

What the display has to do is told by commands: texts to be shown, and what the tokens say about
windows and about the game.
-/

namespace Mudline.Stream

/-- A command for the display. -/
inductive Command
  /-- To show runs of text. -/
  | text (runs : List Display.Run)
  /-- To empty a window. -/
  | clearWindow (id : Text)
  /-- To make a window. -/
  | createWindow (name title ifClosed : Text)
  /-- To show a value of the character. -/
  | vitals (name : Text) (value : Int)
  /-- To open an address. -/
  | launchUrl (url : Text)
  /-- To show the spell that is prepared. -/
  | spell (t : Text)
  /-- To show that the character cannot act until a moment, in seconds since 1970. -/
  | roundTime (moment : Nat)
  /-- To show the room again. -/
  | room
  /-- To show the exits. -/
  | compass (exits : List (Text × Text))
  /-- To show what the hands hold. -/
  | hands (left right : Text)
  /-- To show who plays what. -/
  | character (game name : Text)
  deriving DecidableEq, Repr

/-- The components that make up a room. -/
def roomComponents : List Text :=
  ["roomdesc", "roomobjs", "roomplayers", "roomexits", "roomextra"]

/-- What a hand variable says that may be missing. -/
def handValue (globals : Store) (name : Text) : Text :=
  (globals.get? name).getD "Empty"

/-- The commands that tell what a token says, once its variables are set. Windows are made only
during the setup. -/
def announce (setupDone : Bool) (globals : Store) (t : Token) : List Command :=
  match Kind.ofToken t with
  | .roundTime => (((t.attr? "value").bind Text.readWord?).map Command.roundTime).toList
  | .leftHand | .rightHand =>
    [.hands (handValue globals "lefthand") (handValue globals "righthand")]
  | .spell => [.spell t.content]
  | .clearStream => ((t.attr? "id").map fun id => .clearWindow (Unicode.lower id)).toList
  | .streamWindow =>
    if setupDone then []
    else ((t.attr? "id").map fun id =>
      .createWindow id (t.attrD "title") (t.attrD "ifClosed")).toList
  | .component => if (componentId? t).any roomComponents.contains then [.room] else []
  | .compass => [.compass (exits t)]
  | .dialogData => (progressBars t).map fun (name, value) =>
      .vitals name ((Text.readInt? (Text.trim value)).getD 0)
  | .app => [.character (t.attrD "game") (t.attrD "char")]
  | .launchUrl => ((t.attr? "src").map .launchUrl).toList
  | _ => []

namespace Command

/-- The last second of the clock. -/
def lastSecond : Nat := Text.maxInt

/-- The fault that a command brings: a moment past the end of the clock. -/
def fault? : Command → Option Fault
  | roundTime moment => if lastSecond < moment then some .clockRange else none
  | _ => none

/-- The first fault that commands bring. -/
def firstFault? (commands : List Command) : Option Fault :=
  commands.findSome? fault?

/-- The text that a command shows. -/
def shown : Command → Text
  | text runs => runs.flatMap (·.text)
  | _ => []

/-- Quoted texts between commas. -/
def quotedList (ts : List Text) : Text :=
  Text.join ", " (ts.map Text.quoted)

/-- The description of a command in diagnostics. A text has none: it is shown. -/
def describe : Command → Text
  | text _ => []
  | clearWindow id => "ClearStream(".toList ++ Text.quoted id ++ [')']
  | createWindow name title ifClosed =>
    "CreateWindow \x7b name: ".toList ++ Text.quoted name ++ ", title: ".toList
      ++ Text.quoted title ++ ", if_closed: ".toList ++ Text.quoted ifClosed ++ " \x7d".toList
  | vitals name value =>
    "Vitals \x7b name: ".toList ++ Text.quoted name ++ ", value: ".toList ++ Text.ofInt value
      ++ " \x7d".toList
  | launchUrl url => "LaunchUrl(".toList ++ Text.quoted url ++ [')']
  | spell t => "Spell(".toList ++ Text.quoted t ++ [')']
  | roundTime moment =>
    "Roundtime(SystemTime \x7b tv_sec: ".toList ++ Text.ofNat moment
      ++ ", tv_nsec: 0 \x7d)".toList
  | room => "Room"
  | compass exits =>
    "Compass(\x7b".toList
      ++ Text.join ", " (exits.map fun (name, value) =>
          Text.quoted name ++ ": ".toList ++ Text.quoted value)
      ++ "\x7d)".toList
  | hands left right => "Hands(".toList ++ quotedList [left, right] ++ [')']
  | character game name =>
    "Character \x7b game: ".toList ++ Text.quoted game ++ ", name: ".toList ++ Text.quoted name
      ++ " \x7d".toList

end Command

end Mudline.Stream
