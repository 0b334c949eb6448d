import Mudline.Proofs.Script.Fault
import Mudline.Proofs.Session.Turn
import Mathlib.Algebra.Ring.Nat

/-!
# Runs in slices

A session runs a script a slice of lines at a time and collects what it has to say after each
slice. Neither shows in what the script does. The slices add up to one run of all their lines, since
no line looks at how many lines are left. And no line looks at the events, which only grow at their
end, so that what was collected early and what was collected late are together what the uncut run
says.
-/

namespace Mudline

namespace Script

/-- The script, to which events have been added in front of its own. -/
def preceded (s : Script) (es : List Event) : Script :=
  { s with events := es ++ s.events }

/-- Collecting the events takes them from the front. -/
theorem drain_preceded (s : Script) : s.drain.1.preceded s.drain.2 = s := by
  simp [drain, preceded]

/-- Events that come first come before those that came first. -/
theorem preceded_preceded (s : Script) (es fs : List Event) :
    (s.preceded fs).preceded es = s.preceded (es ++ fs) := by
  simp [preceded]

section Preceded

variable (s : Script) (es : List Event)

/-- An event is added behind those that came before. -/
theorem emit_preceded (e : Event) : (s.preceded es).emit e = (s.emit e).preceded es := by
  simp [emit, preceded]

/-- A complaint is added behind those that came before. -/
theorem complain_preceded (c : Complaint) :
    (s.preceded es).complain c = (s.complain c).preceded es := by
  have hlocation : (s.preceded es).location = s.location := rfl
  rw [complain, hlocation, emit_preceded]
  rfl

/-- Captures do not look at the events before. -/
theorem capture_preceded (groups : List Text) :
    (s.preceded es).capture groups = (s.capture groups).preceded es := by
  unfold capture
  split <;> rfl

/-- A test does not look at the events before. -/
theorem test_preceded (cond : Condition) :
    (s.preceded es).test cond = ((s.test cond).1.preceded es, (s.test cond).2) := by
  cases cond with
  | argCount n => rfl
  | expr t =>
    have hexpand : (s.preceded es).expandLine t = s.expandLine t := rfl
    have hglobals : (s.preceded es).globals = s.globals := rfl
    simp only [test, hexpand, hglobals, capture_preceded, complain_preceded]
    split
    · rfl
    · split <;> rfl

/-- A jump does not look at the events before. -/
theorem jump_preceded (label : Text) : (s.preceded es).jump label = (s.jump label).preceded es := by
  have hlisting : (s.preceded es).listing = s.listing := rfl
  simp only [jump, hlisting, complain_preceded]
  split <;> rfl

/-- A call does not look at the events before. -/
theorem call_preceded (label : Text) (args : List Text) :
    (s.preceded es).call label args = (s.call label args).preceded es := by
  have hlisting : (s.preceded es).listing = s.listing := rfl
  simp only [call, hlisting, jump_preceded]
  split <;> rfl

/-- A return does not look at the events before. -/
theorem comeBack_preceded : (s.preceded es).comeBack = s.comeBack.preceded es := by
  have hstack : (s.preceded es).stack = s.stack := rfl
  simp only [comeBack, hstack]
  split <;> rfl

/-- An assignment does not look at the events before. -/
theorem assign_preceded (name : Text) (r : Mudline.Outcome) :
    (s.preceded es).assign name r = (s.assign name r).preceded es := by
  simp only [assign, capture_preceded]
  split
  · exact complain_preceded _ es _
  · rfl

/-- Arithmetic does not look at the events before. -/
theorem math_preceded (name operation amount : Text) :
    (s.preceded es).math name operation amount = (s.math name operation amount).preceded es := by
  have hlocals : (s.preceded es).locals = s.locals := rfl
  simp only [math, hlocals, complain_preceded]
  split
  · rfl
  · split <;> rfl

/-- A pattern to wait for does not look at the events before. -/
theorem await_preceded (label : Option Text) (mode : Pattern.Mode) (pattern : Text) :
    (s.preceded es).await label mode pattern = (s.await label mode pattern).preceded es := by
  simp only [await, complain_preceded]
  split <;> rfl

/-- Waiting for a single pattern does not look at the events before. -/
theorem waitFor_preceded (mode : Pattern.Mode) (pattern : Text) :
    (s.preceded es).waitFor mode pattern = (s.waitFor mode pattern).preceded es := by
  simp only [waitFor]
  split
  · rfl
  · exact complain_preceded { s with awaited := [] } es _

/-- Waiting for some time does not look at the events before. -/
theorem waitSeconds_preceded (seconds : Float) (status : Duration → Status) :
    (s.preceded es).waitSeconds seconds status = (s.waitSeconds seconds status).preceded es := by
  unfold waitSeconds
  split <;> rfl

/-- A statement adds its events behind those from before and does the same otherwise. -/
theorem perform_preceded (statement : Statement) :
    (s.preceded es).perform statement = (s.perform statement).preceded es := by
  cases statement with
  | nothing | setShared _ _ | unset _ | shift | exit => rfl
  | echo _ | send _ | pass _ => exact emit_preceded s es _
  | set name value =>
    simp only [perform, complain_preceded]
    split <;> rfl
  | math name operation amount => exact math_preceded s es _ _ _
  | evalText name t | evalNumber name t => exact assign_preceded s es _ _
  | goto label => exact jump_preceded s es label
  | gosub label args => exact call_preceded s es label args
  | comeBack => exact comeBack_preceded s es
  | awaitAt label mode pattern => exact await_preceded s es _ mode pattern
  | waitFor mode pattern => exact waitFor_preceded s es mode pattern
  | matchWait seconds | pause seconds =>
    cases seconds with
    | none => rfl
    | some seconds => exact waitSeconds_preceded s es seconds _

/-- A command does not look at the events before. -/
theorem execute_preceded (raw : Text) :
    (s.preceded es).execute raw = (s.execute raw).preceded es :=
  perform_preceded s es _

/-- Skipping a body does not look at the events before. -/
theorem skipBody_preceded (body : Body) :
    (s.preceded es).skipBody body = (s.skipBody body).preceded es := by
  cases body <;> rfl

/-- Entering a body does not look at the events before. -/
theorem enterBody_preceded (body : Body) :
    (s.preceded es).enterBody body = (s.enterBody body).preceded es := by
  cases body with
  | inline raw | blockInline raw => exact execute_preceded (s.goTo (s.next + 1)) es raw
  | block => rfl
  | next =>
    have hlisting : (s.preceded es).listing = s.listing := rfl
    have hnext : (s.preceded es).next = s.next := rfl
    simp only [enterBody, hlisting, hnext]
    generalize s.next + 1 + silentLength (s.listing.kindsFrom (s.next + 1)) = i
    split
    · rfl
    · exact execute_preceded { s with next := i + 1, current := i } es _
    · rfl

/-- Running a body does not look at the events before. -/
theorem runBody_preceded (body : Body) (taken : Bool) :
    (s.preceded es).runBody body taken = (s.runBody body taken).preceded es := by
  cases taken with
  | true => exact enterBody_preceded s es body
  | false => exact skipBody_preceded s es body

/-- Setting the chain does not look at the events before. -/
theorem setChain_preceded (c : Chain) :
    (s.preceded es).setChain c = (s.setChain c).preceded es := rfl

/-- A line of the listing does not look at the events before. -/
theorem runLine_preceded (line : Line) :
    (s.preceded es).runLine line = (s.runLine line).preceded es := by
  have hchain : (s.preceded es).chain = s.chain := rfl
  cases line with
  | blank | comment | label _ | blockStart => rfl
  | blockEnd =>
    have hlevels : (s.preceded es).levels = s.levels := rfl
    simp only [runLine, closeBlock, hlevels]
    split <;> rfl
  | ifLine cond body =>
    simp only [runLine, test_preceded, setChain_preceded]
    exact runBody_preceded _ es body _
  | elseIfLine cond body =>
    simp only [runLine, hchain, test_preceded, setChain_preceded]
    split
    · exact runBody_preceded _ es body _
    · exact runBody_preceded _ es body false
  | elseLine body =>
    simp only [runLine, hchain, setChain_preceded]
    split
    · exact runBody_preceded _ es body true
    · exact runBody_preceded _ es body false
  | command raw => exact execute_preceded ((s.setChain .absent).goTo (s.next + 1)) es raw

/-- A step does not look at the events before. -/
theorem step_preceded : (s.preceded es).step = s.step.preceded es := by
  have hkind : (s.preceded es).listing.kind? (s.preceded es).next = s.listing.kind? s.next := rfl
  simp only [step, hkind]
  split
  · exact runLine_preceded { s with current := s.next } es _
  · rfl

/-- What was said before a run makes no difference to it. -/
theorem runFor_preceded (budget : Nat) :
    (s.preceded es).runFor budget = (s.runFor budget).preceded es := by
  induction budget generalizing s with
  | zero => rfl
  | succ budget ih =>
    have hstatus : (s.preceded es).status = s.status := rfl
    rw [runFor, runFor, hstatus]
    split
    · rw [step_preceded, ih]
    · rfl

end Preceded

/-- Running on after the events have been collected. -/
theorem runFor_drain (s : Script) (budget : Nat) :
    s.runFor budget = (s.drain.1.runFor budget).preceded s.drain.2 := by
  rw [← runFor_preceded, drain_preceded]

/-- A part of a run that is cut. -/
inductive Part
  /-- At most so many lines are run. -/
  | slice (budget : Nat)
  /-- The events are collected. -/
  | collect
  deriving DecidableEq, Repr

/-- How many lines a part allows. -/
def Part.budget : Part → Nat
  | slice budget => budget
  | collect => 0

/-- Runs a script part by part. Beside the script stand the events of each time that they were
collected. -/
def runParts (s : Script) : List Part → Script × List (List Event)
  | [] => (s, [])
  | .slice budget :: parts => (s.runFor budget).runParts parts
  | .collect :: parts =>
    let (t, collected) := s.drain.1.runParts parts
    (t, s.drain.2 :: collected)

/-- With all that was collected put back in front, the script is as after the uncut run. -/
theorem runParts_eq (s : Script) (parts : List Part) :
    (s.runParts parts).1.preceded (s.runParts parts).2.flatten =
      s.runFor (parts.map Part.budget).sum := by
  induction parts generalizing s with
  | nil => rfl
  | cons part parts ih =>
    cases part with
    | slice budget =>
      have hrest := ih (s.runFor budget)
      simpa [runParts, Part.budget, runFor_add] using hrest
    | collect =>
      have hrest := ih s.drain.1
      calc (s.runParts (.collect :: parts)).1.preceded (s.runParts (.collect :: parts)).2.flatten
          = ((s.drain.1.runParts parts).1.preceded
              (s.drain.1.runParts parts).2.flatten).preceded s.drain.2 := by
            rw [preceded_preceded]
            rfl
        _ = (s.drain.1.runFor (parts.map Part.budget).sum).preceded s.drain.2 := by rw [hrest]
        _ = s.runFor ((Part.collect :: parts).map Part.budget).sum := by
            rw [← runFor_drain]
            simp [Part.budget]

end Script

namespace Session

/-- Puts events before those of a turn. -/
def Turn.after (events : List Script.Event) (u : Turn) : Turn :=
  { u with events := events ++ u.events }

/-- What becomes of a task in so many turns in a row, as long as its script does not wait. -/
def Task.runSlices (t : Task) (now : Nat) (globals : Store) : Nat → Turn
  | 0 => { task := some t, globals := globals }
  | n + 1 =>
    if t.isReady then
      let u := t.turn now globals
      match u.task with
      | none => u
      | some next => (next.runSlices now u.globals n).after u.events
    else { task := some t, globals := globals }

/-- What becomes of a task whose script a run has left like this, unless it met a fault: the task is
over with its script, and else it waits for the same. -/
def Task.conclude (t : Task) (now : Nat) (s : Script) : Turn :=
  if s.status = .finished then ⟨none, s.globals, s.events⟩
  else ⟨some (t.arm now s.drain.1), s.globals, s.events⟩

namespace Task

/-- A slice that is survived is concluded with the script that it has run. -/
theorem runSlice_of_no_fault {t : Task} {now : Nat} {globals : Store}
    (h : (t.ranScript globals).fault? = none) :
    t.runSlice now globals = t.conclude now (t.ranScript globals) := by
  rw [runSlice_eq, conclude]
  split
  · rename_i f hfaulted
    simp [Script.fault?, hfaulted] at h
  · rename_i hfinished
    rw [if_pos hfinished]
  · rename_i hfinished
    rw [if_neg hfinished]

/-- A script that is still running sets no moment for its task. -/
theorem arm_of_running {t : Task} {s : Script} (h : s.status = .running) (now : Nat) :
    t.arm now s = { t with script := s, deadline := none } := by
  rw [arm, h]
  rfl

/-- What a task was before counts for nothing once its script has run on. -/
theorem arm_of_script (t : Task) (now : Nat) (r s : Script) :
    { t with script := r, deadline := none }.arm now s = t.arm now s := by
  unfold arm lose
  cases waitTime? s.status <;> rfl

/-- What was of the task before makes no difference to how a slice is concluded. -/
theorem conclude_of_script (t : Task) (now : Nat) (r s : Script) :
    { t with script := r, deadline := none }.conclude now s = t.conclude now s := by
  rw [conclude, conclude, arm_of_script]

/-- The events before come first when a slice is concluded. -/
theorem conclude_preceded (t : Task) (now : Nat) (s : Script) (es : List Script.Event) :
    t.conclude now (s.preceded es) = (t.conclude now s).after es := by
  have hstatus : (s.preceded es).status = s.status := rfl
  rw [conclude, conclude, hstatus]
  split <;> rfl

/-- A task whose script waits has nothing to run. -/
theorem isReady_arm {s : Script} (h : s.status ≠ .running) (t : Task) (now : Nat) :
    (t.arm now s).isReady = false := by
  rcases t.arm_cases now s with hlost | ⟨deadline, hlives⟩
  · rw [hlost]
    rfl
  · rw [hlives]
    simp [isReady, h]

/-- A script that is not ready runs no slices. -/
theorem runSlices_of_not_ready {t : Task} (h : t.isReady = false) (now : Nat) (globals : Store)
    (n : Nat) : t.runSlices now globals n = ⟨some t, globals, []⟩ := by
  cases n with
  | zero => rfl
  | succ n => simp [runSlices, h]

/-- The slices after one that has left the script waiting or ended run no line. -/
theorem runSlices_of_stops {t : Task} (hready : t.isReady = true) (now : Nat) (globals : Store)
    (n : Nat) (hsurvives : (t.ranScript globals).fault? = none)
    (hstops : (t.ranScript globals).status ≠ .running) :
    t.runSlices now globals (n + 1) = t.conclude now (t.ranScript globals) := by
  rw [runSlices, if_pos hready, turn_of_isReady hready, runSlice_of_no_fault hsurvives, conclude]
  split
  · rfl
  · have hidle := isReady_arm (s := (t.ranScript globals).drain.1) hstops t now
    simp [runSlices_of_not_ready hidle, Turn.after]

/-- The slices after one that has left the script running go on with what it has become. -/
theorem runSlices_of_goes_on {t : Task} (hready : t.isReady = true) (now : Nat) (globals : Store)
    (n : Nat) (hgoes : (t.ranScript globals).status = .running) :
    t.runSlices now globals (n + 1) =
      ({ t with script := (t.ranScript globals).drain.1, deadline := none }.runSlices now
        (t.ranScript globals).globals n).after (t.ranScript globals).events := by
  have hsurvives : (t.ranScript globals).fault? = none := Script.fault?_of_status hgoes (by simp)
  have hfinished : (t.ranScript globals).status ≠ .finished := by simp [hgoes]
  have harmed := arm_of_running (s := (t.ranScript globals).drain.1) hgoes now (t := t)
  rw [runSlices, if_pos hready, turn_of_isReady hready, runSlice_of_no_fault hsurvives, conclude,
    if_neg hfinished, harmed]

/-- As many slices as there may be do what one run of all their lines does, if the script survives
it. -/
theorem runSlices_eq {t : Task} (hready : t.isReady = true) (now : Nat) (globals : Store) (n : Nat)
    (hsurvives :
      ({ t.script with globals := globals }.runFor ((n + 1) * sliceLength)).fault? = none) :
    t.runSlices now globals (n + 1) =
      t.conclude now ({ t.script with globals := globals }.runFor ((n + 1) * sliceLength)) := by
  induction n generalizing t globals with
  | zero =>
    rw [Nat.zero_add, Nat.one_mul] at hsurvives ⊢
    change (t.ranScript globals).fault? = none at hsurvives
    change _ = t.conclude now (t.ranScript globals)
    by_cases hgoes : (t.ranScript globals).status = .running
    · have harmed := arm_of_running (s := (t.ranScript globals).drain.1) hgoes now (t := t)
      rw [runSlices_of_goes_on hready now globals 0 hgoes, conclude, if_neg (by simp [hgoes]),
        harmed]
      simp [runSlices, Turn.after, Script.drain]
    · exact runSlices_of_stops hready now globals 0 hsurvives hgoes
  | succ n ih =>
    have hcut : { t.script with globals := globals }.runFor ((n + 1 + 1) * sliceLength) =
        (t.ranScript globals).runFor ((n + 1) * sliceLength) := by
      rw [Nat.succ_mul, Nat.add_comm, Script.runFor_add]
      rfl
    rw [hcut] at hsurvives ⊢
    by_cases hgoes : (t.ranScript globals).status = .running
    · -- The next slice runs what is left of the script once its events have been taken.
      let next : Task := { t with script := (t.ranScript globals).drain.1, deadline := none }
      have hnext : next.isReady = true := by
        obtain ⟨hlost, hheld, -⟩ := isReady_iff.mp hready
        exact isReady_iff.mpr ⟨hlost, hheld, hgoes⟩
      have hrest := (t.ranScript globals).runFor_drain ((n + 1) * sliceLength)
      rw [hrest] at hsurvives ⊢
      rw [runSlices_of_goes_on hready now globals (n + 1) hgoes, conclude_preceded]
      have hslices : next.runSlices now (t.ranScript globals).globals (n + 1) =
          next.conclude now ((t.ranScript globals).drain.1.runFor ((n + 1) * sliceLength)) :=
        ih hnext (t.ranScript globals).globals hsurvives
      rw [hslices, conclude_of_script]
      rfl
    · rw [Script.runFor_of_not_running hgoes] at hsurvives ⊢
      exact runSlices_of_stops hready now globals (n + 1) hsurvives hgoes

end Task

/-- How a run is cut makes no difference. Two slices are one of all their lines; with events
collected at any time, what was collected and what is left are together what the uncut run says, and
all else is the same; and a task that is run slice by slice becomes what it becomes at once, if its
script survives. -/
theorem cuts_make_no_difference (s : Script) :
    (∀ a b, (s.runFor a).runFor b = s.runFor (a + b)) ∧
    (∀ parts, (s.runParts parts).1.preceded (s.runParts parts).2.flatten =
      s.runFor (parts.map Script.Part.budget).sum) ∧
    ∀ (t : Task) (now : Nat) (globals : Store) (n : Nat), t.isReady = true →
      { t.script with globals := globals } = s →
      (s.runFor ((n + 1) * sliceLength)).fault? = none →
      t.runSlices now globals (n + 1) = t.conclude now (s.runFor ((n + 1) * sliceLength)) := by
  refine ⟨fun a b => (s.runFor_add a b).symm, s.runParts_eq, ?_⟩
  intro t now globals n hready hscript hsurvives
  subst hscript
  exact Task.runSlices_eq hready now globals n hsurvives

/-- A script that beats a drum for ever, at the beginning of a round. -/
def drumScript : Script where
  listing := {
    name := "drum"
    lines := [.label "beat", .command "put beat", .command "goto beat"].map
      fun kind => ⟨⟨[], "drum", 1⟩, kind⟩
    labels := [("beat", 0)] }
  current := 2
  status := .running

/-- A drum beats once in every three lines. -/
theorem drum_rounds (k : Nat) :
    drumScript.runFor (3 * k) = drumScript.preceded (List.replicate k (.send "beat")) := by
  induction k with
  | zero => rfl
  | succ k ih =>
    have hround : drumScript.runFor 3 = drumScript.preceded [.send "beat"] := rfl
    rw [Nat.mul_succ, Nat.add_comm, Script.runFor_add, hround, Script.runFor_preceded, ih,
      Script.preceded_preceded]
    rfl

/-- Two slices stop within a round of the drum, and so does the run of all their lines. -/
theorem cuts_make_no_difference_drum :
    (drumScript.runParts [.slice 2, .collect, .slice 3, .collect]).1.preceded
        [.send "beat", .send "beat"] = drumScript.runFor 5 ∧
      (⟨1, "drum", drumScript, false, none, [], false⟩ : Task).runSlices 0 {} 2 =
        (⟨1, "drum", drumScript, false, none, [], false⟩ : Task).conclude 0
          (drumScript.runFor 1000) := by
  obtain ⟨-, hparts, htask⟩ := cuts_make_no_difference drumScript
  have hsurvives : (drumScript.runFor (3 * 333 + 1)).fault? = none := by
    rw [Script.runFor_add, drum_rounds, Script.runFor_preceded]
    have hbeats : (drumScript.runFor 1).status = .running := rfl
    exact Script.fault?_of_status hbeats (by simp)
  exact ⟨hparts [.slice 2, .collect, .slice 3, .collect], htask _ 0 {} 1 rfl rfl hsurvives⟩

end Session

end Mudline
