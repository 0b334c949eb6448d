import Mudline.Proofs.Session.History
import Mathlib.Data.List.Induction

/-!
# The record of a task

All that concerns one task is recorded with the moment that the clock shows: what happens to its
script, and when it is held and released. The record alone tells whether the script waits for time
to pass. The wait begins with a slice that leaves the script waiting, and is over when the script
runs again, is stopped, or is offered a line that makes it go on; being held and released, and lines
that the script does not wait for, belong to the wait. This file says what the record of a task
looks like if its waits end on time.
-/

namespace Mudline.Session

/-- Something that concerns a task. -/
inductive Entry
  /-- Something happens to the script. -/
  | moment (m : Moment)
  /-- The task is held. -/
  | held
  /-- The task is released. -/
  | released

/-- What concerns a task, each entry with the moment that the clock shows. -/
abbrev Record := List (Nat × Entry)

/-- What is entered for a task that is told something. -/
def Control.entry (t : Task) : Control → Entry
  | .stop => .moment (.stopped t.script.stop)
  | .pause => .held
  | .resume => .released

/-- What a happening enters for a task that it concerns. -/
def entries (s : Session) (t : Task) : Happening → List Entry
  | .control c _ => [c.entry t]
  | .turn _ => (t.turnMoments s.now s.globals).map .moment
  | _ => []

/-- What a happening adds to the record of the task with a number. -/
def recordOf (s : Session) (id : Nat) (e : Happening) : Record :=
  if e.concerns? = some id then
    match s.task? id with
    | some t => (s.entries t e).map (s.now, ·)
    | none => []
  else []

/-- The record of the task with a number in a course of happenings. -/
def record (s : Session) (id : Nat) : List Happening → Record
  | [] => []
  | e :: rest => s.recordOf id e ++ (s.happen e).record id rest

/-- The wait of a script for time to pass. -/
structure Wait where
  /-- The moment at which the script came to wait. -/
  since : Nat
  /-- How long it waits. -/
  time : Duration
  /-- The script as it waits. -/
  script : Script
  /-- Whether the task is held. -/
  held : Bool := false

namespace Wait

/-- The moment at which the wait is over: its time after it began, up to the next whole
millisecond. -/
def due (w : Wait) : Nat :=
  w.since + wholeMillis w.time

/-- The script that goes on when its time is over. It waits for patterns no longer. -/
def resumed (w : Wait) : Script :=
  match w.script.status with
  | .waitingForMatch _ => { w.script with awaited := [], status := .running }
  | _ => { w.script with status := .running }

/-- The wait to which a script has come in a slice, if it has, and if the clock can show its end. -/
def begun? (clock : Nat) (s : Script) : Option Wait :=
  match waitTime? s.status with
  | some d => (endOfWait? clock d).map fun _ => ⟨clock, d, s.drain.1, false⟩
  | none => none

/-- What an entry makes of a wait. -/
def next (w? : Option Wait) : Nat × Entry → Option Wait
  | (clock, .moment (.ran s)) => begun? clock s
  | (_, .moment (.offered s line)) => if (s.feed line).2 then none else w?
  | (_, .moment (.stopped _)) => none
  | (_, .held) => w?.map fun w => { w with held := true }
  | (_, .released) => w?.map fun w => { w with held := false }

/-- What may be entered while a script waits. Unless the task is held, nothing comes behind the end
of the wait, except at once when the task has been released later. The script runs on when the clock
shows the end of the wait, or at once when its task is released later, and it runs on as it waited.
While the task is held, the script neither runs nor is offered a line. -/
def Allows (w : Wait) (r : Record) : Nat × Entry → Prop
  | (clock, .moment (.ran s)) =>
    w.held = false ∧ (clock = w.due ∨ w.due ≤ clock ∧ r.getLast? = some (clock, .released)) ∧
      ∃ globals, s = { w.resumed with globals := globals }.runFor sliceLength
  | (clock, .moment (.offered s _)) => w.held = false ∧ clock < w.due ∧ s = w.script
  | (_, .moment (.stopped _)) => True
  | (clock, .held) | (clock, .released) =>
    w.held = false → clock ≤ w.due ∨ r.getLast? = some (clock, .released)

end Wait

namespace Record

/-- The wait that a script is in by its record. -/
def wait? (r : Record) : Option Wait :=
  r.foldl Wait.next none

/-- Each entry of the record is one that the wait before it allows. -/
def OnTime (r : Record) : Prop :=
  ∀ before e later w, r = before ++ e :: later → wait? before = some w → w.Allows before e

/-- If the wait by the record is over at a moment, it is so just then, or the task has just been
released. -/
def TimelyAt (r : Record) (clock : Nat) : Prop :=
  ∀ w, r.wait? = some w → w.held = true ∨ clock ≤ w.due ∨ r.getLast? = some (clock, .released)

variable {r : Record}

/-- The last entry decides what becomes of the wait before it. -/
theorem wait?_concat (r : Record) (e : Nat × Entry) : wait? (r ++ [e]) = Wait.next r.wait? e := by
  simp [wait?]

/-- A record stays on time with one more entry that the wait allows. -/
theorem OnTime.concat (h : r.OnTime) {e : Nat × Entry}
    (he : ∀ w, r.wait? = some w → w.Allows r e) : OnTime (r ++ [e]) := by
  intro before e' later w hsplit hw
  rcases later.eq_nil_or_concat with rfl | ⟨later, last, rfl⟩
  · obtain ⟨rfl, hlast⟩ := List.append_inj' hsplit rfl
    obtain rfl := List.singleton_inj.mp hlast
    exact he w hw
  · rw [List.concat_eq_append, ← List.cons_append, ← List.append_assoc] at hsplit
    obtain ⟨rfl, -⟩ := List.append_inj' hsplit rfl
    exact h before e' later w rfl hw

end Record

namespace Wait

variable {clock : Nat} {s : Script} {w : Wait}

/-- A wait ends at the earliest when it begins. -/
theorem since_le_due (w : Wait) : w.since ≤ w.due :=
  Nat.le_add_right _ _

/-- A moment that the clock can show as the end of a wait is that end. -/
theorem endOfWait?_eq_some {now moment : Nat} {d : Duration}
    (h : endOfWait? now d = some moment) : moment = now + wholeMillis d := by
  rw [endOfWait?] at h
  split at h
  · exact (Option.some.inj h).symm
  · cases h

/-- A wait that a slice has begun is that of the script that the slice has left. -/
theorem begun?_eq_some (h : begun? clock s = some w) :
    waitTime? s.status = some w.time ∧ endOfWait? clock w.time = some w.due ∧ w.since = clock ∧
      w.script = s.drain.1 ∧ w.held = false := by
  rw [begun?] at h
  cases htime : waitTime? s.status with
  | none =>
    rw [htime] at h
    cases h
  | some d =>
    rw [htime] at h
    obtain ⟨moment, hmoment, rfl⟩ := Option.map_eq_some_iff.mp h
    obtain rfl := endOfWait?_eq_some hmoment
    exact ⟨rfl, hmoment, rfl, rfl, rfl⟩

/-- The script of a wait is one that waits for so long. -/
theorem time_of_wait? {r : Record} (h : r.wait? = some w) :
    waitTime? w.script.status = some w.time := by
  induction r using List.reverseRecOn generalizing w with
  | nil => cases h
  | append_singleton r e ih =>
    obtain ⟨clock, entry⟩ := e
    rw [Record.wait?_concat] at h
    cases entry with
    | moment m =>
      cases m with
      | ran s =>
        obtain ⟨htime, -, -, hscript, -⟩ := begun?_eq_some h
        rw [hscript]
        exact htime
      | offered s line =>
        rw [next] at h
        split at h
        · cases h
        · exact ih h
      | stopped s => cases h
    | held | released =>
      obtain ⟨w', hw', rfl⟩ := Option.map_eq_some_iff.mp h
      have htime := ih hw'
      exact htime

/-- A script that waits does not run. -/
theorem status_ne_running {r : Record} (h : r.wait? = some w) : w.script.status ≠ .running := by
  intro hrunning
  have htime := time_of_wait? h
  rw [hrunning] at htime
  cases htime

end Wait

end Mudline.Session
