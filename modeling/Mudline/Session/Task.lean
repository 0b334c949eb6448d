import Mudline.Script.Run

/-!
# Tasks

A script that runs within a session is a task. Tasks take turns. In a turn a task takes up one thing
that has come for it, which is the end of a wait or a line, and then its script runs one slice, if
it does not wait. Moments are counted in whole milliseconds.
-/

namespace Mudline.Session

/-- A script that runs within a session. -/
structure Task where
  /-- The number of the task. -/
  id : Nat
  /-- The name under which the script was started. -/
  name : Text
  /-- The script. -/
  script : Script
  /-- Whether the task is held: its script does not run, and no line reaches it. -/
  held : Bool := false
  /-- The moment at which the wait of the script is over. -/
  deadline : Option Nat := none
  /-- The lines that the script has not been offered yet. -/
  lines : List Text := []
  /-- Whether the script has met a condition that it did not survive. -/
  lost : Bool := false

/-- What becomes of a task. -/
structure Turn where
  /-- The task, unless it has ended. -/
  task : Option Task
  /-- The shared variables. -/
  globals : Store
  /-- The events of the script. -/
  events : List Script.Event := []

/-- How many lines a script runs in one slice. -/
def sliceLength : Nat := 500

/-- How many lines are kept for a script that is not ready for them. -/
def keptLines : Nat := 256

/-- The number of milliseconds that a duration takes, where a part counts as a whole one. -/
def wholeMillis (d : Duration) : Nat :=
  (d.nanos + (Duration.nanosPerMilli - 1)) / Duration.nanosPerMilli

/-- How long a script waits at most. -/
def waitTime? : Script.Status → Option Duration
  | .waitingForMatch timeout => timeout
  | .paused d => some d
  | _ => none

/-- The nanoseconds that the clock can count, whose whole seconds make a signed word. -/
def clockRange : Nat := (Text.maxInt + 1) * Duration.nanosPerSecond

/-- The moment at which a wait is over that begins now, if the clock can show it. -/
def endOfWait? (now : Nat) (d : Duration) : Option Nat :=
  if Duration.nanosPerMilli * now + d.nanos < clockRange then some (now + wholeMillis d) else none

namespace Task

/-- Whether the script has lines to run now. -/
def isReady (t : Task) : Bool :=
  !t.lost && !t.held && t.script.status == .running

/-- The moment for which the task waits. -/
def awaited? (t : Task) : Option Nat :=
  if t.lost || t.held then none else t.deadline

/-- Whether the moment for which the task waits has come. -/
def isDue (t : Task) (now : Nat) : Bool :=
  t.awaited?.any (· ≤ now)

/-- Whether there is nothing to do for the task until something comes. -/
def rests (t : Task) (now : Nat) : Bool :=
  t.lost || !t.isReady && !t.isDue now && t.lines.isEmpty

/-- Gives up a task, whose script says nothing more. -/
def lose (t : Task) (s : Script) : Task :=
  { t with script := s.drain.1, lost := true, deadline := none, lines := [] }

/-- Sets the moment at which the wait of a script is over. A wait whose end the clock cannot show is
not survived. -/
def arm (t : Task) (now : Nat) (s : Script) : Task :=
  match waitTime? s.status with
  | none => { t with script := s, deadline := none }
  | some d =>
    match endOfWait? now d with
    | none => t.lose s
    | some moment => { t with script := s, deadline := some moment }

/-- Runs one slice. The events of a slice in which the script is lost are lost too. -/
def runSlice (t : Task) (now : Nat) (globals : Store) : Turn :=
  let s := { t.script with globals := globals }.runFor sliceLength
  let (s, events) := s.drain
  match s.status with
  | .faulted _ => { task := some (t.lose s), globals := s.globals }
  | .finished => { task := none, globals := s.globals, events := events }
  | _ => { task := some (t.arm now s), globals := s.globals, events := events }

/-- Wakes the script whose moment has come. -/
def wake (t : Task) : Task :=
  let (s, woken) := t.script.timeOut
  { t with script := if woken then s else t.script.resume.1, deadline := none }

/-- Takes up what has come for the task. A script that does not wait leaves the lines for later. The
end of a wait comes before the lines, of which one is taken up at a time. A task that is held drops
its lines. -/
def attend (t : Task) (now : Nat) : Task :=
  if t.lost then t
  else if t.held then { t with lines := [] }
  else if t.isReady then t
  else if t.isDue now then t.wake
  else match t.lines with
    | [] => t
    | line :: rest => { t with script := (t.script.feed line).1, lines := rest }

/-- The turn of a task. -/
def turn (t : Task) (now : Nat) (globals : Store) : Turn :=
  let t := t.attend now
  if t.isReady then t.runSlice now globals else { task := some t, globals := globals }

/-- Adds lines to those that the script is to be offered, of which the last are kept. -/
def receive (t : Task) (lines : List Text) : Task :=
  let all := t.lines ++ lines
  { t with lines := all.drop (all.length - keptLines) }

end Task

/-- What a task can be told from outside. -/
inductive Control
  /-- To end. -/
  | stop
  /-- To be held. -/
  | pause
  /-- To be released. -/
  | resume
  deriving DecidableEq, Repr

/-- Does what a task is told. A script that is stopped says what it has to say. -/
def Control.apply (t : Task) (globals : Store) : Control → Turn
  | .stop => { task := none, globals := globals, events := t.script.stop.drain.2 }
  | .pause => { task := some { t with held := true }, globals := globals }
  | .resume => { task := some { t with held := false }, globals := globals }

end Mudline.Session
