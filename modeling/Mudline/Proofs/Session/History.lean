import Mudline.Session.Basic

/-!
# What happens in a session

A session is driven from outside and by its own tasks. What is done to it from outside, the turns of
the tasks and the passing of time are all happenings, and a course is a list of them in any order.
The tasks may have their turns in whatever order and as often as they like. Only the clock is bound:
it does not go back, and it does not pass a moment for which a task waits. This file also writes
down what happens to the scripts meanwhile.
-/

namespace Mudline

namespace Session

/-- Something that happens to a script within a session. -/
inductive Moment
  /-- The script has run a slice, which left it like this with its events. -/
  | ran (s : Script)
  /-- The script, in this state, is offered a line. -/
  | offered (s : Script) (line : Text)
  /-- The script has been stopped, which left it like this with its events. -/
  | stopped (s : Script)

namespace Moment

/-- What the script has to say at a moment. -/
def said : Moment → List Script.Event
  | .ran s => s.events
  | .offered _ _ => []
  | .stopped s => s.events

/-- The line that is offered at a moment. -/
def line? : Moment → Option Text
  | .offered _ line => some line
  | _ => none

/-- Whether the script is offered a line for which it waits, and is sent to a label that it does not
have. -/
def Strands : Moment → Prop
  | .offered s line =>
    s.status.listens = true ∧ ∃ a groups label,
      Script.hit? s.awaited line = some (a, groups) ∧ a.label = some label ∧
        s.listing.label? label = none
  | _ => False

end Moment

namespace Task

/-- The script after one slice, before its events are taken. -/
def ranScript (t : Task) (globals : Store) : Script :=
  { t.script with globals := globals }.runFor sliceLength

/-- What happens to a script when its task takes up what has come for it. -/
def attendMoments (t : Task) (now : Nat) : List Moment :=
  if t.lost || t.held || t.isReady || t.isDue now then []
  else (t.lines.head?.map (.offered t.script ·)).toList

/-- What happens to a script in a turn of its task. -/
def turnMoments (t : Task) (now : Nat) (globals : Store) : List Moment :=
  t.attendMoments now ++
    if (t.attend now).isReady then [.ran ((t.attend now).ranScript globals)] else []

end Task

/-- What happens to a script when its task is told something. -/
def Control.moments (t : Task) : Control → List Moment
  | .stop => [.stopped t.script.stop]
  | .pause | .resume => []

/-- Something that happens to a session. -/
inductive Happening
  /-- A chunk of the stream comes in. -/
  | ingest (chunk : Text)
  /-- A script is started. -/
  | start (name : Text) (args : List Text)
  /-- A task is told something. -/
  | control (c : Control) (id : Nat)
  /-- A shared variable is set. -/
  | setGlobal (name value : Text)
  /-- A task has a turn. -/
  | turn (id : Nat)
  /-- The clock goes on to a moment. -/
  | tick (moment : Nat)
  deriving DecidableEq

/-- The session after a happening. What fails changes nothing, except that a chunk with a fault
leaves its traces on the stream. -/
def happen (s : Session) : Happening → Session
  | .ingest chunk => (s.read chunk).1
  | .start name args => ((s.launch name args).map (·.1)).toOption.getD s
  | .control c id => (s.control c id).toOption.getD s
  | .setGlobal name value => { s with globals := s.globals.set name value }
  | .turn id => s.turn id
  | .tick moment => { s with now := moment }

/-- The session after a course of happenings. -/
def after (s : Session) (es : List Happening) : Session :=
  es.foldl happen s

/-- Whether something can happen: the clock does not go back, and it passes no moment for which a
task waits. -/
def Allows (s : Session) : Happening → Prop
  | .tick moment =>
    s.now ≤ moment ∧ (s.now < moment → ∀ t ∈ s.tasks, ∀ d ∈ t.awaited?, moment ≤ d)
  | _ => True

/-- Whether a course of happenings is possible. -/
def Possible (s : Session) : List Happening → Prop
  | [] => True
  | e :: rest => s.Allows e ∧ (s.happen e).Possible rest

/-- Tests whether something can happen. -/
def decideAllows (s : Session) : (e : Happening) → Decidable (s.Allows e)
  | .tick moment => inferInstanceAs (Decidable (s.now ≤ moment ∧ (s.now < moment → _)))
  | .ingest _ | .start _ _ | .control _ _ | .setGlobal _ _ | .turn _ => .isTrue trivial

instance (s : Session) (e : Happening) : Decidable (s.Allows e) :=
  s.decideAllows e

/-- Tests whether a course is possible. -/
def decidePossible (s : Session) : (es : List Happening) → Decidable (s.Possible es)
  | [] => .isTrue trivial
  | e :: rest =>
    have := (s.happen e).decidePossible rest
    inferInstanceAs (Decidable (s.Allows e ∧ (s.happen e).Possible rest))

instance (s : Session) (es : List Happening) : Decidable (s.Possible es) :=
  s.decidePossible es

/-- A record of moments, each with the number of the task that it belongs to. -/
abbrev History := List (Nat × Moment)

/-- The moments of one task. -/
def History.of (id : Nat) (h : History) : List Moment :=
  h.filterMap fun (i, m) => if i = id then some m else none

/-- What all scripts have to say, each event with the number of its task. -/
def History.said (h : History) : List (Nat × Script.Event) :=
  h.flatMap fun (i, m) => m.said.map (i, ·)

/-- The number of the task that a happening concerns. -/
def Happening.concerns? : Happening → Option Nat
  | .control _ id | .turn id => some id
  | _ => none

/-- What becomes of a task that a happening concerns. -/
def outcome (s : Session) (t : Task) : Happening → Turn
  | .control c _ => c.apply t s.globals
  | .turn _ => t.turn s.now s.globals
  | _ => { task := some t, globals := s.globals }

/-- What happens to the script of a task that a happening concerns. -/
def momentsOf (s : Session) (t : Task) : Happening → List Moment
  | .control c _ => c.moments t
  | .turn _ => t.turnMoments s.now s.globals
  | _ => []

/-- What happens to the scripts. -/
def moments (s : Session) (e : Happening) : History :=
  match e.concerns?.bind s.task? with
  | some t => (s.momentsOf t e).map (t.id, ·)
  | none => []

/-- What happens to the scripts in a course of happenings. -/
def history (s : Session) : List Happening → History
  | [] => []
  | e :: rest => s.moments e ++ (s.happen e).history rest

/-- All tasks of a session rest. -/
def AtRest (s : Session) : Prop :=
  ∀ t ∈ s.tasks, t.rests s.now = true

instance (s : Session) : Decidable s.AtRest :=
  inferInstanceAs (Decidable (∀ t ∈ s.tasks, _))

/-- Nothing happens. -/
@[simp] theorem after_nil (s : Session) : s.after [] = s := rfl

/-- The first happening comes before the others. -/
@[simp] theorem after_cons (s : Session) (e : Happening) (es : List Happening) :
    s.after (e :: es) = (s.happen e).after es := rfl

/-- A course may be cut anywhere. -/
theorem after_append (s : Session) (es fs : List Happening) :
    s.after (es ++ fs) = (s.after es).after fs :=
  List.foldl_append

/-- A course is possible if its parts are, one after the other. -/
theorem possible_append {s : Session} {es fs : List Happening} :
    s.Possible (es ++ fs) ↔ s.Possible es ∧ (s.after es).Possible fs := by
  induction es generalizing s with
  | nil => simp [Possible]
  | cons e es ih => simp [Possible, ih, and_assoc]

/-- What every happening preserves holds after any number of them. -/
theorem after_induction {P : Session → Prop} (hstep : ∀ s e, P s → P (s.happen e)) {s : Session}
    (hs : P s) (es : List Happening) : P (s.after es) := by
  induction es generalizing s with
  | nil => exact hs
  | cons e es ih => exact ih (hstep s e hs)

end Session

end Mudline
