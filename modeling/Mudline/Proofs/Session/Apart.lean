import Mudline.Proofs.Session.Rest

/-!
# Scripts do not disturb each other

Take one of the tasks of a session, whose script sets no shared variable. Had this task never been
started, everything else would have gone just the same, only that the numbers behind the one of the
task would be smaller by one. This is so for all courses, with the turns of the tasks in whatever
order, and for the steps, in which the tasks have their turns in rounds until all of them rest.
-/

namespace Mudline.Session

/-- A session is like another one, except that the task with a number was never started in it. -/
structure IsWithout (b : Nat) (s' s : Session) : Prop where
  /-- Every chunk of the stream yields the same commands. -/
  commands : ∀ chunk, (s'.ingest chunk).2 = (s.ingest chunk).2
  /-- The shared variables are the same. -/
  globals : s'.globals = s.globals
  /-- The clock shows the same. -/
  now : s'.now = s.now
  /-- The other scripts have said the same. -/
  events : s'.events = unlist b s.events
  /-- The other tasks are there. -/
  running : s'.running = unlist b s.running
  /-- If all tasks rest, so do the others alone. -/
  rest : s.AtRest → s'.AtRest

variable {b : Nat}

/-- The session without a task is like it, except for this task. -/
theorem isWithout_without (s : Session) : (s.without b).IsWithout b s where
  commands chunk := by
    change ((s.without b).read chunk).2 = (s.read chunk).2
    rw [read_snd, read_snd]
    rfl
  globals := rfl
  now := rfl
  events := rfl
  running := without_running b s
  rest hrest := hrest.without b

/-- What is left of a course if a task is never started is possible and leads to the session without
this task. -/
theorem without_course {s : Session} (hs : s.Registered) (hevents : ∀ e ∈ s.events, e.1 < s.nextId)
    {name : Text} {args : List Text} {es : List Happening}
    (hgiven : s.given? (.start name args) = some b)
    (hpossible : s.Possible (.start name args :: es))
    (hquiet : s.SharesNothing b (.start name args :: es)) :
    s.Possible (es.filterMap (Happening.without b)) ∧
      (s.after (.start name args :: es)).without b =
        s.after (es.filterMap (Happening.without b)) := by
  obtain ⟨hb, hstart⟩ := without_start hs hevents hgiven
  have hleft := possible_without hb hquiet.2 hpossible.2
  have hafter := without_after hb hquiet.2
  rw [hstart] at hleft hafter
  exact ⟨hleft, hafter⟩

/-- What is left of several steps if a task is never started leads to the session without this task,
if all tasks come to rest in every step. -/
theorem without_steps {s : Session} (hs : s.Registered) (hevents : ∀ e ∈ s.events, e.1 < s.nextId)
    (hrest : s.AtRest) {name : Text} {args : List Text} {steps : List Step}
    (hgiven : s.given? (.start name args) = some b)
    (hsettle : s.AllSettle (.start name args :: steps))
    (hquiet : s.SharesNothing b (s.courses (.start name args :: steps))) :
    (s.afterSteps (.start name args :: steps)).without b =
      s.afterSteps (steps.filterMap (Step.without b)) := by
  rw [courses, sharesNothing_append, after_course] at hquiet
  obtain ⟨hgave, hstart⟩ := without_step_start hs hevents hrest hgiven hquiet.1
  have hafter := without_afterSteps hgave hsettle.1.1 hsettle.2 hquiet.2
  rwa [hstart] at hafter

/-- Scripts do not disturb each other. Take a task whose script sets no shared variable, and leave
out its start, all that it is told and its turns. Whatever happens to the session, in whatever order
the tasks have their turns, what is left can happen too, and at every time it has led to a session
like the one with the task: every chunk of the stream yields the same commands, the shared variables
and the clock are the same, all other scripts have said the same, and the other tasks are there, up
to the numbers, of which those behind the one that is left out are smaller by one. The same is true
of what is done to the session step by step, if all tasks come to rest in every step, in however
many rounds the allowance lets them have. -/
theorem scripts_keep_apart (c : Configuration) (library : Script.Library)
    (report : Regex.Error → Text) (allowance : Nat) (name : Text) (args : List Text) (b : Nat) :
    let new := fresh c library report allowance
    (∀ before later,
      (new.after before).given? (.start name args) = some b →
      new.Possible (before ++ .start name args :: later) →
      new.SharesNothing b (before ++ .start name args :: later) →
      ∀ done, done <+: later →
        let left := before ++ done.filterMap (Happening.without b)
        new.Possible left ∧
          (new.after left).IsWithout b (new.after (before ++ .start name args :: done))) ∧
    ∀ before later,
      (new.afterSteps before).given? (.start name args) = some b →
      new.AllSettle (before ++ .start name args :: later) →
      new.SharesNothing b (new.courses (before ++ .start name args :: later)) →
      ∀ done, done <+: later →
        let left := before ++ done.filterMap (Step.without b)
        (new.afterSteps left).IsWithout b
          (new.afterSteps (before ++ .start name args :: done)) := by
  intro new
  have hnew : new.Registered := registered_fresh c library report allowance
  have hevents := events_given_after hnew (fun e he => by cases he)
  constructor
  · rintro before later hgiven hpossible hquiet done ⟨rest, rfl⟩ left
    rw [← List.cons_append, possible_append, possible_append] at hpossible
    rw [← List.cons_append, sharesNothing_append, sharesNothing_append] at hquiet
    obtain ⟨hleft, hsame⟩ :=
      without_course (hnew.after before) (hevents before) hgiven hpossible.2.1 hquiet.2.1
    refine ⟨possible_append.mpr ⟨hpossible.1, hleft⟩, ?_⟩
    rw [after_append, after_append, ← hsame]
    exact isWithout_without _
  · rintro before later hgiven hsettle hquiet done ⟨rest, rfl⟩ left
    rw [← List.cons_append, allSettle_append, allSettle_append] at hsettle
    obtain ⟨-, hbefore⟩ := steps_are_possible new before
    rw [← List.cons_append, courses_append, courses_append, sharesNothing_append,
      sharesNothing_append, hbefore] at hquiet
    have hrest : (new.afterSteps before).AtRest := hsettle.1.atRest (fun t ht => by cases ht)
    have hsame := without_steps (hbefore ▸ hnew.after _) (hbefore ▸ hevents _) hrest hgiven
      hsettle.2.1 hquiet.2.1
    rw [afterSteps_append, afterSteps_append, ← hsame]
    exact isWithout_without _

/-- A script that watches for a goblin, and one that rings after a second. -/
def bellLibrary : Script.Library := fun name =>
  if name = ['w'] then some ["waitfor goblin", "echo seen"]
  else if name = ['b'] then some ["pause 1", "echo ring"]
  else none

/-- A bell is held beyond its time and rings when it is released, while two others watch. -/
def bellCourse : List Happening :=
  [.turn 2, .tick 500, .control .pause 2, .start ['w'] [], .turn 3, .turn 1, .tick 1500,
    .control .resume 2, .turn 2, .ingest "goblin\n", .turn 3, .turn 1]

/-- The same, step by step. -/
def bellSteps : List Step :=
  [.sleep 500, .control .pause 2, .start ['w'] [], .sleep 1000, .control .resume 2,
    .ingest "goblin\n"]

/-- Without the bell, the two others see the goblin all the same, and the second of them has the
number of the bell. The order in which they see it is that of their turns. -/
theorem scripts_keep_apart_bell :
    let s := new {} bellLibrary
    let watch : List Happening := [.start ['w'] [], .turn 1]
    let bell : Happening := .start ['b'] []
    ((s.after watch).given? bell = some 2 ∧ s.Possible (watch ++ bell :: bellCourse) ∧
      s.SharesNothing 2 (watch ++ bell :: bellCourse) ∧
      (s.after (watch ++ bell :: bellCourse)).events =
        [(2, .echo "ring\n"), (3, .echo "seen\n"), (1, .echo "seen\n")] ∧
      (s.after (watch ++ bellCourse.filterMap (Happening.without 2))).events =
        [(2, .echo "seen\n"), (1, .echo "seen\n")]) ∧
    let steps : List Step := .start ['w'] [] :: .start ['b'] [] :: bellSteps
    (s.afterSteps [.start ['w'] []]).given? bell = some 2 ∧ s.AllSettle steps ∧
      s.SharesNothing 2 (s.courses steps) ∧
      (s.afterSteps steps).events =
        [(2, .echo "ring\n"), (1, .echo "seen\n"), (3, .echo "seen\n")] ∧
      (s.afterSteps (.start ['w'] [] :: bellSteps.filterMap (Step.without 2))).events =
        [(1, .echo "seen\n"), (2, .echo "seen\n")] := by
  intro s watch bell
  obtain ⟨hcourse, hsteps⟩ :=
    scripts_keep_apart {} bellLibrary Regex.Error.message usualAllowance ['b'] [] 2
  constructor
  · have hgiven : (s.after watch).given? bell = some 2 := by decide +kernel
    have hpossible : s.Possible (watch ++ bell :: bellCourse) := by decide +kernel
    have hquiet : s.SharesNothing 2 (watch ++ bell :: bellCourse) := by decide +kernel
    have hevents : (s.after (watch ++ bell :: bellCourse)).events =
        [(2, .echo "ring\n"), (3, .echo "seen\n"), (1, .echo "seen\n")] := by decide +kernel
    have hleft := hcourse watch bellCourse hgiven hpossible hquiet bellCourse (List.prefix_refl _)
    refine ⟨hgiven, hpossible, hquiet, hevents, hleft.2.events.trans ?_⟩
    change unlist 2 (s.after (watch ++ bell :: bellCourse)).events = _
    rw [hevents]
    rfl
  · intro steps
    have hgiven : (s.afterSteps [.start ['w'] []]).given? bell = some 2 := by decide +kernel
    have hsettle : s.AllSettle steps := by decide +kernel
    have hquiet : s.SharesNothing 2 (s.courses steps) := by decide +kernel
    have hevents : (s.afterSteps steps).events =
        [(2, .echo "ring\n"), (1, .echo "seen\n"), (3, .echo "seen\n")] := by decide +kernel
    have hleft := hsteps [.start ['w'] []] bellSteps hgiven hsettle hquiet bellSteps
      (List.prefix_refl _)
    refine ⟨hgiven, hsettle, hquiet, hevents, hleft.events.trans ?_⟩
    change unlist 2 (s.afterSteps steps).events = _
    rw [hevents]
    rfl

end Mudline.Session
