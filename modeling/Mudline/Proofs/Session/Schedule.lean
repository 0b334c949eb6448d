import Mudline.Proofs.Session.Turn

/-!
# Steps and their courses

Whatever is done to a session, the tasks have turns afterwards, and while time passes the clock
stops wherever a task waits for it. This file writes down everything that happens in such a step.
It is a possible course and leads where the step leads. So the steps take the tasks in one of the
many orders in which they may have their turns, and what holds of all possible courses holds of
everything that is done.
-/

namespace Mudline.Session

/-- Something that is done to a session. -/
inductive Step
  /-- A chunk of the stream comes in. -/
  | ingest (chunk : Text)
  /-- A script is started. -/
  | start (name : Text) (args : List Text)
  /-- A task is told something. -/
  | control (c : Control) (id : Nat)
  /-- All tasks are ended. -/
  | stopAll
  /-- A shared variable is set. -/
  | setGlobal (name value : Text)
  /-- Time passes. -/
  | sleep (millis : Nat)

/-- The session after a step. A step that fails changes nothing, except that a chunk with a fault
leaves its traces on the stream. -/
def step (s : Session) : Step → Session
  | .ingest chunk => (s.ingest chunk).1
  | .start name args => ((s.start name args).map (·.1)).toOption.getD s
  | .control .stop id => (s.stop id).toOption.getD s
  | .control .pause id => (s.pause id).toOption.getD s
  | .control .resume id => (s.resume id).toOption.getD s
  | .stopAll => s.stopAll
  | .setGlobal name value => s.setGlobal name value
  | .sleep millis => s.sleep millis

/-- The session after several steps. -/
def afterSteps (s : Session) (steps : List Step) : Session :=
  steps.foldl step s

/-- The turns of several tasks, in this order. -/
def turns (ids : List Nat) : List Happening :=
  ids.map .turn

/-- The numbers of the tasks that have turns, in order, in so many rounds at most until all tasks
rest. -/
def turnsFor (s : Session) : Nat → List Nat
  | 0 => []
  | n + 1 => if s.atRest then [] else s.tasks.map (·.id) ++ s.round.turnsFor n

/-- What happens until all tasks rest. -/
def settling (s : Session) : List Happening :=
  turns (s.turnsFor s.allowance)

/-- What happens while the clock moves on to `last`. -/
def advancing (s : Session) (last : Nat) : Nat → List Happening
  | 0 => []
  | n + 1 =>
    match s.nextMoment? with
    | none => [.tick last]
    | some m =>
      if last < m then [.tick last]
      else
        let s' := { s with now := max s.now m }
        .tick (max s.now m) :: (s'.settling ++ s'.settle.advancing last n)

/-- What is done to a session in a step, before the tasks have their turns. -/
def begins (s : Session) : Step → List Happening
  | .ingest chunk => [.ingest chunk]
  | .start name args => [.start name args]
  | .control c id => [.control c id]
  | .stopAll => s.tasks.map fun t => .control .stop t.id
  | .setGlobal name value => [.setGlobal name value]
  | .sleep millis => s.advancing (s.now + millis) millis

/-- Whether a step fails. -/
def fails (s : Session) : Step → Bool
  | .start name args => !(s.launch name args).isOk
  | .control c id => !(s.control c id).isOk
  | .ingest _ | .stopAll | .setGlobal _ _ | .sleep _ => false

/-- What happens in a step. -/
def course (s : Session) (a : Step) : List Happening :=
  if s.fails a then [] else s.begins a ++ (s.after (s.begins a)).settling

/-- What happens in several steps. -/
def courses (s : Session) : List Step → List Happening
  | [] => []
  | a :: rest => s.course a ++ (s.step a).courses rest

variable {s : Session}

/-- After turns in an order, the session is as if they were taken one by one. -/
theorem after_turns (s : Session) (ids : List Nat) : s.after (turns ids) = ids.foldl turn s := by
  rw [after, turns, List.foldl_map]
  rfl

/-- Turns can always be taken. -/
theorem possible_turns (s : Session) (ids : List Nat) : s.Possible (turns ids) := by
  induction ids generalizing s with
  | nil => trivial
  | cons id ids ih => exact ⟨trivial, ih _⟩

/-- The rounds are taken turn by turn. -/
theorem settleFor_eq (s : Session) (n : Nat) :
    s.settleFor n = s.after (turns (s.turnsFor n)) := by
  rw [after_turns]
  induction n generalizing s with
  | zero => rfl
  | succ n ih =>
    rw [settleFor, turnsFor]
    split
    · rfl
    · rw [List.foldl_append, ih, round]

/-- Settling a session is a course of turns. -/
theorem settle_eq (s : Session) : s.settle = s.after s.settling :=
  s.settleFor_eq s.allowance

/-- A turn takes no time. -/
@[simp] theorem turn_now (s : Session) (id : Nat) : (s.turn id).now = s.now := by
  rw [turn]
  split <;> rfl

/-- The clock stands still while the tasks have turns. -/
@[simp] theorem settle_now (s : Session) : s.settle.now = s.now := by
  rw [settle_eq, settling, after_turns]
  generalize s.turnsFor s.allowance = ids
  induction ids generalizing s with
  | nil => rfl
  | cons id ids ih => exact (ih _).trans (turn_now s id)

/-- A task waits for a moment. -/
def Awaits (s : Session) (m : Nat) : Prop :=
  ∃ t ∈ s.tasks, m ∈ t.awaited?

/-- The next moment is the first for which a task waits. -/
theorem nextMoment?_eq_some_iff {m : Nat} :
    s.nextMoment? = some m ↔ s.Awaits m ∧ ∀ d, s.Awaits d → m ≤ d := by
  simp only [nextMoment?, List.min?_eq_some_iff, List.mem_filterMap, Awaits]
  rfl

/-- There is none if no task waits for a moment. -/
theorem nextMoment?_eq_none_iff : s.nextMoment? = none ↔ ∀ d, ¬s.Awaits d := by
  simp only [nextMoment?, List.min?_eq_none_iff, List.eq_nil_iff_forall_not_mem, List.mem_filterMap,
    Awaits]
  rfl

/-- If all tasks rest, the moments for which they wait are still to come. -/
theorem AtRest.lt_awaited (hs : s.AtRest) {d : Nat} (hd : s.Awaits d) : s.now < d := by
  obtain ⟨t, ht, hawaited⟩ := hd
  have hlives := (Task.mem_awaited?.mp hawaited).1
  have hundue := ((Task.rests_iff_of_lives hlives).mp (hs t ht)).2.1
  refine Nat.lt_of_not_le fun hover => ?_
  rw [Task.isDue_iff.mpr ⟨d, hawaited, hover⟩] at hundue
  cases hundue

/-- The clock moves on as it is written down. -/
theorem after_advancing (s : Session) (last n : Nat) :
    s.after (s.advancing last n) = s.advance last n := by
  induction n generalizing s with
  | zero => rfl
  | succ n ih =>
    rw [advancing, advance]
    cases s.nextMoment? with
    | none => rfl
    | some m =>
      dsimp only
      split
      · rfl
      · rw [after_cons, after_append, happen, ← settle_eq, ih]

/-- The clock moves on in a possible course. -/
theorem possible_advancing {last : Nat} (hlast : s.now ≤ last) (n : Nat) :
    s.Possible (s.advancing last n) := by
  induction n generalizing s with
  | zero => trivial
  | succ n ih =>
    rw [advancing]
    cases hnext : s.nextMoment? with
    | none =>
      exact ⟨⟨hlast, fun _ t ht d hd => (nextMoment?_eq_none_iff.mp hnext d ⟨t, ht, hd⟩).elim⟩,
        trivial⟩
    | some m =>
      have hfirst := (nextMoment?_eq_some_iff.mp hnext).2
      dsimp only
      split
      · rename_i hlater
        refine ⟨⟨hlast, fun _ t ht d hd => ?_⟩, trivial⟩
        exact Nat.le_trans (Nat.le_of_lt hlater) (hfirst d ⟨t, ht, hd⟩)
      · rename_i hearlier
        refine ⟨⟨Nat.le_max_left _ _, fun hmoves t ht d hd => ?_⟩, ?_⟩
        · have hm := hfirst d ⟨t, ht, hd⟩
          omega
        · rw [happen, possible_append, ← settle_eq]
          refine ⟨possible_turns _ _, ih ?_⟩
          rw [settle_now]
          exact Nat.max_le.mpr ⟨hlast, by omega⟩

/-- In a step that does not fail, something is done and the tasks settle. -/
theorem step_eq (s : Session) (a : Step) :
    s.step a = if s.fails a then s else (s.after (s.begins a)).settle := by
  have hcontrol (c : Control) (id : Nat) :
      ((s.control c id).map settle).toOption.getD s =
        if s.fails (.control c id) then s else (s.happen (.control c id)).settle := by
    rw [fails, happen]
    cases s.control c id <;> rfl
  cases a with
  | start name args =>
    have hbegins : s.after (s.begins (.start name args)) = s.happen (.start name args) := rfl
    rw [step, start, fails, hbegins, happen]
    cases s.launch name args <;> rfl
  | control c id => cases c <;> exact hcontrol _ id
  | ingest chunk | setGlobal name value => rfl
  | stopAll =>
    have hstops : s.after (s.begins .stopAll) = (s.tasks.map (·.id)).foldl
        (fun s id => (s.control .stop id).toOption.getD s) s := by
      rw [after, begins, List.foldl_map, List.foldl_map]
      rfl
    rw [step, stopAll, fails, hstops]
    rfl
  | sleep millis =>
    rw [step, sleep, fails, begins, after_advancing]
    rfl

/-- The course of a step leads where the step leads. -/
theorem after_course (s : Session) (a : Step) : s.after (s.course a) = s.step a := by
  rw [step_eq, course]
  split
  · rfl
  · rw [after_append, settle_eq]

/-- The course of a step is possible. -/
theorem possible_course (s : Session) (a : Step) : s.Possible (s.course a) := by
  have hbegins : s.Possible (s.begins a) := by
    cases a with
    | stopAll =>
      rw [begins]
      generalize s.tasks = ts
      induction ts generalizing s with
      | nil => trivial
      | cons t ts ih => exact ⟨trivial, ih _⟩
    | sleep millis => exact possible_advancing (Nat.le_add_right s.now millis) millis
    | ingest _ | start _ _ | control _ _ | setGlobal _ _ => exact ⟨trivial, trivial⟩
  rw [course]
  split
  · trivial
  · exact possible_append.mpr ⟨hbegins, possible_turns _ _⟩

/-- Steps may be cut anywhere. -/
theorem afterSteps_append (s : Session) (steps more : List Step) :
    s.afterSteps (steps ++ more) = (s.afterSteps steps).afterSteps more :=
  List.foldl_append

/-- So may their course. -/
theorem courses_append (s : Session) (steps more : List Step) :
    s.courses (steps ++ more) = s.courses steps ++ (s.afterSteps steps).courses more := by
  induction steps generalizing s with
  | nil => rfl
  | cons a steps ih =>
    rw [List.cons_append, courses, courses, ih, List.append_assoc]
    rfl

/-- Whatever is done to a session, step by step, is one possible course. -/
theorem steps_are_possible (s : Session) (steps : List Step) :
    s.Possible (s.courses steps) ∧ s.after (s.courses steps) = s.afterSteps steps := by
  induction steps generalizing s with
  | nil => exact ⟨trivial, rfl⟩
  | cons a steps ih =>
    obtain ⟨hpossible, hleads⟩ := ih (s.step a)
    rw [courses, possible_append, after_append, after_course]
    exact ⟨⟨possible_course s a, hpossible⟩, hleads⟩

end Mudline.Session
