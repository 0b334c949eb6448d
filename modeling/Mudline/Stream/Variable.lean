import Mudline.Stream.Kind
import Mudline.Text.Search
import Mudline.Unicode.Case

/-!
# Variables of the stream

Scripts see the state of the game through shared variables, which the tokens of the stream set: the
prompt and the time of the game, what the hands hold, the room and the creatures in it, its exits,
and the state of the character.
-/

namespace Mudline.Stream

/-- The directions: the code of each in the markup, and its name, by which they are sorted. -/
def directions : List (Text × Text) :=
  [("down", "down"), ("e", "east"), ("n", "north"), ("ne", "northeast"), ("nw", "northwest"),
   ("out", "out"), ("s", "south"), ("se", "southeast"), ("sw", "southwest"), ("up", "up"),
   ("w", "west")]

/-- The word for whether something is so. -/
def flag (b : Bool) : Text :=
  if b then "1" else "0"

/-- The children of a token that have the given name. -/
def childrenNamed (t : Token) (name : Text) : List Token :=
  t.children.filter (·.kind == name)

/-- The codes of the exits that a compass names. -/
def openExits (t : Token) : List Text :=
  (childrenNamed t "dir").filterMap (·.attr? "value")

/-- Every direction, and the word for whether the compass names it. -/
def exits (t : Token) : List (Text × Text) :=
  directions.map fun (code, name) => (name, flag ((openExits t).contains code))

/-- What a hand holds. -/
def held (t : Token) : Text :=
  if t.content.isEmpty then "Empty" else t.content

/-- The name of a component without spaces. What is learned about skills is no component here. -/
def componentId? (t : Token) : Option Text :=
  ((t.attr? "id").filter fun id => !("exp" : Text).isPrefixOf id).map (·.filter (· != ' '))

/-- The component that lists what is in the room. -/
def roomObjects : Text := "roomobjs"

/-- The variables for the creatures in a room, where those that `ignore` holds of are left out. -/
def creatureVariables (ignore : Text → Bool) (t : Token) : List (Text × Text) :=
  let names := (t.monsters ignore).map (·.content)
  [("monsterlist", Text.join "|" names), ("monstercount", Text.ofNat names.length)]

/-- The title of the room, if a window is the main one and has a title for it. -/
def roomTitle? (t : Token) : Option Text :=
  if t.attr? "id" == some "main" then
    ((t.attr? "subtitle").map (·.drop 3)).filter (!·.isEmpty)
  else none

/-- The name of an indicator, which is its identifier without the first four characters. -/
def indicatorName (t : Token) : Text :=
  Unicode.lower ((t.attrD "id").drop 4)

/-- The progress bars of a dialog, each with its name and its value. -/
def progressBars (t : Token) : List (Text × Text) :=
  (childrenNamed t "progressbar").filterMap fun bar =>
    (bar.attr? "id").map (·, (bar.attr? "value").getD "0")

/-- The variables that a token sets, in order, when the wall clock shows `now` seconds. -/
def writes (ignore : Text → Bool) (now : Nat) (t : Token) : List (Text × Text) :=
  match Kind.ofToken t with
  | .prompt =>
    [("prompt", Text.replace "&gt;" ">" t.content), ("gametime", t.attrD "time"),
     ("gametimeupdate", Text.ofNat now)]
  | .leftHand => [("lefthand", held t), ("lefthandnoun", t.attrD "noun")]
  | .rightHand => [("righthand", held t), ("righthandnoun", t.attrD "noun")]
  | .spell => [("preparedspell", t.content)]
  | .streamWindow => (roomTitle? t).toList.map (("roomtitle", ·))
  | .component =>
    match componentId? t with
    | some id => (id, t.content) :: if id == roomObjects then creatureVariables ignore t else []
    | none => []
  | .compass => exits t
  | .indicator =>
    if (indicatorName t).isEmpty then []
    else [(indicatorName t, flag (t.attr? "visible" == some "y"))]
  | .dialogData => progressBars t
  | .app => [("charactername", t.attrD "char"), ("game", t.attrD "game")]
  | _ => []

end Mudline.Stream
