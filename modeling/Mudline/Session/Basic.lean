import Mudline.Session.Task
import Mudline.Settings.Basic
import Mudline.Stream.Reader

/-!
# Sessions

A session joins the stream of the game and the scripts that run. The lines that the stream completes
in the main window are offered to all scripts; the stream and the scripts share their variables.
Whatever is done to a session, the tasks have turns afterwards, one slice each in every round, until
all of them rest. The clock stands still except when it is told to go on, and never passes a moment
for which a task waits.
-/

namespace Mudline

/-- A session between two things that happen. -/
structure Session where
  /-- The reader of the stream. -/
  stream : Stream := {}
  /-- The shared variables. -/
  globals : Store := {}
  /-- The scripts that can be started. -/
  library : Script.Library := fun _ => none
  /-- The settings of the scripts. -/
  scriptSettings : Script.Settings := {}
  /-- The tasks, in the order in which they were started. -/
  tasks : List Session.Task := []
  /-- The number of the next task. -/
  nextId : Nat := 1
  /-- The line of the main window that is not complete. -/
  unfinished : Text := []
  /-- The moment, in milliseconds. -/
  now : Nat := 0
  /-- The events that have not been collected, each with the number of its task. -/
  events : List (Nat × Script.Event) := []
  /-- How many rounds of turns the tasks have at most when something has been done. Those that do
  not rest by then go on the next time. -/
  allowance : Nat

namespace Session

/-- Why something cannot be done. -/
inductive Error
  /-- A script cannot be loaded. -/
  | load (e : Script.LoadError)
  /-- No task has the number. -/
  | noSuchTask (id : Nat)
  deriving DecidableEq, Repr

/-- The report of an error. -/
def Error.message : Error → Text
  | load e => e.message
  | noSuchTask id => "no running script with id ".toList ++ Text.ofNat id

/-- A session with a configuration, in which scripts are given a report of expressions that cannot
be used and the tasks have so many rounds of turns at most. An expression for creatures that is none
is passed over. -/
def fresh (c : Configuration) (library : Script.Library) (report : Regex.Error → Text)
    (allowance : Nat) : Session :=
  let stream : Stream := {}
  { stream := ((c.settings.ignored.map stream.ignore).bind (·.toOption)).getD stream
    globals := c.presets
    library := library
    scriptSettings := { c.settings.forScripts with report := report }
    allowance := allowance }

/-- How many rounds of turns the tasks have at most unless something else is said. -/
def usualAllowance : Nat := 500

/-- A session with a configuration and the usual allowance. Of the report of an expression that
cannot be used, scripts are given the first line. -/
def new (c : Configuration) (library : Script.Library) : Session :=
  fresh c library Regex.Error.message usualAllowance

/-- The tasks that run, with the names of their scripts. -/
def running (s : Session) : List (Nat × Text) :=
  s.tasks.map fun t => (t.id, t.name)

/-- The task with a number, unless it was given up. -/
def task? (s : Session) (id : Nat) : Option Task :=
  s.tasks.find? fun t => t.id == id && !t.lost

/-- Puts what has become of a task in its place. -/
def replace (s : Session) (t : Task) (u : Turn) : Session :=
  { s with
    globals := u.globals
    tasks := s.tasks.filterMap fun v => if v.id == t.id then u.task else some v
    events := s.events ++ u.events.map (t.id, ·) }

/-- The task with a number has a turn. -/
def turn (s : Session) (id : Nat) : Session :=
  match s.task? id with
  | some t => s.replace t (t.turn s.now s.globals)
  | none => s

/-- The task with a number does what it is told. -/
def control (s : Session) (c : Control) (id : Nat) : Except Error Session :=
  match s.task? id with
  | some t => .ok (s.replace t (c.apply t s.globals))
  | none => .error (.noSuchTask id)

/-- What commands show in the main window, prompts apart. -/
def mainText (commands : List Stream.Command) : Text :=
  commands.flatMap fun
    | .text runs =>
      (runs.filter fun r => r.style.window.isEmpty && !r.style.isPrompt).flatMap (·.text)
    | _ => []

/-- The lines that a text completes, of which the empty ones do not count, and what is left. -/
def completedLines (t : Text) : List Text × Text :=
  let pieces := Text.splitOn '\n' t
  (pieces.dropLast.filter (!·.isEmpty), pieces.getLast?.getD [])

/-- Takes over what the stream has left behind. -/
def withStream (s : Session) (stream : Stream) : Session :=
  { s with stream := stream, globals := stream.globals }

/-- Puts the lines that a text completes in the main window before the tasks. -/
def broadcast (s : Session) (t : Text) : Session :=
  let (lines, unfinished) := completedLines (s.unfinished ++ t)
  { s with unfinished := unfinished, tasks := s.tasks.map fun (t : Task) => t.receive lines }

/-- Reads a chunk of the stream and puts the lines that it completes before the tasks. A chunk with
a fault has no commands, but what was read of it before has left its traces. -/
def read (s : Session) (chunk : Text) : Session × Except Fault (List Stream.Command) :=
  let (stream, commands) := { s.stream with globals := s.globals }.read chunk
  let s := s.withStream stream
  match Stream.Command.firstFault? commands with
  | some f => (s, .error f)
  | none => (s.broadcast (mainText commands), .ok commands)

/-- Adds a task for a script, and yields its number. -/
def launch (s : Session) (name : Text) (args : List Text) : Except Error (Session × Nat) :=
  match Script.load s.library name s.globals s.scriptSettings with
  | .error e => .error (.load e)
  | .ok script =>
    let t : Task := { id := s.nextId, name := name, script := script.start args }
    .ok ({ s with tasks := s.tasks ++ [t], nextId := s.nextId + 1 }, s.nextId)

/-- Whether all tasks rest. -/
def atRest (s : Session) : Bool :=
  s.tasks.all (·.rests s.now)

/-- Every task has a turn. -/
def round (s : Session) : Session :=
  (s.tasks.map (·.id)).foldl turn s

/-- The tasks have so many rounds of turns, unless they rest before. -/
def settleFor (s : Session) : Nat → Session
  | 0 => s
  | n + 1 => if s.atRest then s else s.round.settleFor n

/-- Lets every script run as far as it gets. -/
def settle (s : Session) : Session :=
  s.settleFor s.allowance

/-- Reads a chunk of the stream and offers the lines that it completes to the scripts. -/
def ingest (s : Session) (chunk : Text) : Session × Except Fault (List Stream.Command) :=
  let (s, commands) := s.read chunk
  (s.settle, commands)

/-- Starts a script, and yields the number of its task. -/
def start (s : Session) (name : Text) (args : List Text) : Except Error (Session × Nat) :=
  (s.launch name args).map fun (s, id) => (s.settle, id)

/-- Ends the task with a number. -/
def stop (s : Session) (id : Nat) : Except Error Session :=
  (s.control .stop id).map settle

/-- Holds the task with a number. -/
def pause (s : Session) (id : Nat) : Except Error Session :=
  (s.control .pause id).map settle

/-- Releases the task with a number. -/
def resume (s : Session) (id : Nat) : Except Error Session :=
  (s.control .resume id).map settle

/-- Ends all tasks, except those that were given up. -/
def stopAll (s : Session) : Session :=
  let stopOne (s : Session) (id : Nat) : Session := (s.control .stop id).toOption.getD s
  ((s.tasks.map (·.id)).foldl stopOne s).settle

/-- Sets a shared variable. -/
def setGlobal (s : Session) (name value : Text) : Session :=
  { s with globals := s.globals.set name value }.settle

/-- The first moment for which a task waits. -/
def nextMoment? (s : Session) : Option Nat :=
  (s.tasks.filterMap (·.awaited?)).min?

/-- Moves the clock on to `last`, from one moment for which a task waits to the next, in at most so
many steps. The clock stands still as long as a task has not gone on whose moment has come. -/
def advance (s : Session) (last : Nat) : Nat → Session
  | 0 => s
  | n + 1 =>
    match s.nextMoment? with
    | none => { s with now := last }
    | some m =>
      if last < m then { s with now := last }
      else { s with now := max s.now m }.settle.advance last n

/-- Lets so many milliseconds pass. -/
def sleep (s : Session) (millis : Nat) : Session :=
  (s.advance (s.now + millis) millis).settle

/-- Collects the events. -/
def collect (s : Session) : Session × List (Nat × Script.Event) :=
  ({ s with events := [] }, s.events)

end Session

end Mudline
