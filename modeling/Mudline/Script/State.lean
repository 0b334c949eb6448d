import Mudline.Number.Duration
import Mudline.Pattern
import Mudline.Script.Listing
import Mudline.Script.Reference

/-!
# The state of a script

A script never blocks. When a line has to wait, the script says what for in its status and hands
control back; whoever runs it offers it lines or tells it that the time is over, and then it goes
on. What it has to say to the outside is collected as events.
-/

namespace Mudline

namespace Script

/-- How far the chain of conditionals of a block has come. -/
inductive Chain
  /-- There is no chain. -/
  | absent
  /-- No branch of the chain has been taken. -/
  | untaken
  /-- A branch of the chain has been taken. -/
  | taken
  deriving DecidableEq, Repr

/-- The state of a chain after a conditional. -/
def Chain.ofTest (holds : Bool) : Chain :=
  if holds then taken else untaken

/-- What `gosub` keeps for the way back. -/
structure Frame where
  /-- The index of the line to come back to. -/
  returnTo : Nat
  /-- The chains of the blocks around the call. -/
  levels : List Chain
  /-- The groups of the last match before the call. -/
  captures : List Text
  /-- The arguments of the caller. -/
  args : List Text
  deriving DecidableEq, Repr

/-- A pattern that a script waits for. -/
structure Awaited where
  /-- The pattern. -/
  pattern : Pattern
  /-- The label to go on at, or none to go on at the next line. -/
  label : Option Text

/-- What a script is doing. -/
inductive Status
  /-- It has not been started. -/
  | loaded
  /-- It has lines to run. -/
  | running
  /-- It waits for one of several patterns, for so long at most. -/
  | waitingForMatch (timeout : Option Duration)
  /-- It waits for one pattern. -/
  | waitingFor
  /-- It waits for the time to pass. -/
  | paused (d : Duration)
  /-- It has ended. -/
  | finished
  /-- It has met a condition that it does not survive. -/
  | faulted (f : Fault)
  deriving DecidableEq, Repr

/-- Whether an incoming line can wake the script. -/
def Status.listens : Status → Bool
  | .waitingForMatch _ | .waitingFor => true
  | _ => false

/-- What a script says to the outside. -/
inductive Event
  /-- A text for the user, which ends in a line feed. -/
  | echo (t : Text)
  /-- A command for the game. -/
  | send (t : Text)
  /-- A line that is no statement of the script. -/
  | command (t : Text)
  deriving DecidableEq, Repr

/-- The settings of scripts. -/
structure Settings where
  /-- How many rounds the replacement of references takes at most. -/
  maxPasses : Nat := 16
  /-- How long a pause takes that does not say it. -/
  pauseDefault : Duration := .ofMillis 1000
  /-- What is reported of an expression that cannot be used. -/
  report : Regex.Error → Text := Regex.Error.message

/-- Why a line of a script does not do what it says. -/
inductive Complaint
  /-- A variable to be set has no name. -/
  | varWithoutName
  /-- The result of a formula has no variable to go to. -/
  | resultWithoutName
  /-- A number is divided by zero. -/
  | divisionByZero
  /-- There is no such operation on numbers. -/
  | unknownOperation (word : Text)
  /-- There is no such label. -/
  | unknownLabel (label : Text)
  /-- A pattern is no regular expression. -/
  | badPattern (e : Regex.Error)
  /-- A condition neither holds nor fails. -/
  | badCondition (report : Text)

/-- The text of a complaint, given what is reported of expressions that cannot be used. -/
def Complaint.message (report : Regex.Error → Text) : Complaint → Text
  | varWithoutName => "var needs a name"
  | resultWithoutName => "missing variable name"
  | divisionByZero => "cannot divide by zero!"
  | unknownOperation word =>
    "unknown math operation '".toList ++ Text.asciiLower word ++ ['\'']
  | unknownLabel label => "label '".toList ++ label ++ "' not found".toList
  | badPattern e => Pattern.complaint (report e)
  | badCondition report => report

end Script

/-- A script between two lines. -/
structure Script where
  /-- The lines and labels. -/
  listing : Script.Listing
  /-- The settings. -/
  settings : Script.Settings := {}
  /-- The index of the line to run next. -/
  next : Nat := 0
  /-- The index of the line that ran last, for complaints. -/
  current : Nat := 0
  /-- The chains of conditionals of the open blocks, the innermost first. -/
  levels : List Script.Chain := [.absent]
  /-- The calls to come back from, the latest first. -/
  stack : List Script.Frame := []
  /-- The variables of the script. -/
  locals : Store := {}
  /-- The shared variables. -/
  globals : Store := {}
  /-- The arguments. -/
  args : List Text := []
  /-- The groups of the last match. -/
  captures : List Text := []
  /-- The patterns that are waited for, in the order in which they were noted. -/
  awaited : List Script.Awaited := []
  /-- What the script is doing. -/
  status : Script.Status := .loaded
  /-- The events that have not been collected, the first first. -/
  events : List Script.Event := []

namespace Script

/-- Loads a script from a library. -/
def load (library : Library) (name : Text) (globals : Store) (settings : Settings) :
    Except LoadError Script :=
  (Listing.load library name).map fun listing =>
    { listing := listing, globals := globals, settings := settings }

/-- The arguments as references see them: all joined, then nine, of which the missing are empty. -/
def slots (s : Script) : List Text :=
  Text.join " " s.args :: (List.range 9).map fun i => (s.args[i]?).getD []

/-- The text of a line with its references replaced. -/
def expandLine (s : Script) (t : Text) : Text :=
  expand
    { locals := s.locals, slots := s.slots, captures := s.captures, globals := s.globals }
    s.settings.maxPasses t

/-- The chain of conditionals of the innermost block. -/
def chain (s : Script) : Chain :=
  s.levels.headD .absent

/-- Changes the chain of the innermost block. -/
def setChain (s : Script) (c : Chain) : Script :=
  { s with levels := c :: s.levels.tail }

/-- Opens a block. -/
def openBlock (s : Script) : Script :=
  { s with levels := .absent :: s.levels }

/-- Closes the innermost block, unless none is open. -/
def closeBlock (s : Script) : Script :=
  match s.levels with
  | _ :: outer :: rest => { s with levels := outer :: rest }
  | _ => s

/-- Adds an event. -/
def emit (s : Script) (e : Event) : Script :=
  { s with events := s.events ++ [e] }

/-- The place of the line that ran last: the script it was read from and its number there. -/
def location (s : Script) : Text :=
  match s.listing.lines[s.current]? with
  | some line => line.source.file ++ '(' :: Text.ofNat line.source.number ++ [')']
  | none => s.listing.name ++ "(?)".toList

/-- Shows a complaint to the user. -/
def complain (s : Script) (c : Complaint) : Script :=
  let text := c.message s.settings.report
  s.emit (.echo ('[' :: s.location ++ "]: ".toList ++ text ++ ['\n']))

/-- Ends the script. -/
def finish (s : Script) : Script :=
  { s with awaited := [], status := .finished }

/-- The script meets a condition that it does not survive. -/
def fail (s : Script) (f : Fault) : Script :=
  { s with status := .faulted f }

end Script

end Mudline
