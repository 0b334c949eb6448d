import Mudline.Proofs.Session.Record
import Mudline.Proofs.Session.Registry

/-!
# Waits that end on time

A task that waits for time to pass holds the script as it came to wait and the moment at which the
wait is over. In a turn, the script is woken when this moment has come, and runs at once; before,
the lines that it does not wait for leave everything as it is. Other happenings do not touch the
task, and the clock does not pass the moment for which it waits. So every entry of its record is one
that the wait before it allows.
-/

namespace Mudline.Session

/-- A task is in a wait. -/
structure Task.Keeps (t : Task) (w : Wait) : Prop where
  /-- The task was not given up. -/
  lost : t.lost = false
  /-- The script is as it came to wait. -/
  script : t.script = w.script
  /-- The moment at which the wait is over is set. -/
  deadline : t.deadline = some w.due
  /-- The task is held if the wait says so. -/
  held : t.held = w.held

namespace Task

variable {t : Task} {now : Nat} {globals : Store} {r : Record} {w : Wait}

/-- A task that is in a wait does not run. -/
theorem Keeps.isReady (h : t.Keeps w) (hw : r.wait? = some w) : t.isReady = false := by
  rw [Bool.eq_false_iff]
  intro hready
  have hrunning := (isReady_iff.mp hready).2.2
  rw [h.script] at hrunning
  exact Wait.status_ne_running hw hrunning

/-- A task that is in a wait waits for its end. -/
theorem Keeps.awaits (h : t.Keeps w) (hfree : w.held = false) : w.due ∈ t.awaited? :=
  mem_awaited?.mpr ⟨h.lost, h.held.trans hfree, h.deadline⟩

/-- Its moment has come when the wait is over and it is not held. -/
theorem Keeps.isDue_iff (h : t.Keeps w) : t.isDue now = true ↔ w.held = false ∧ w.due ≤ now := by
  rw [Task.isDue_iff]
  constructor
  · rintro ⟨m, hm, hover⟩
    obtain ⟨-, hfree, hdeadline⟩ := mem_awaited?.mp hm
    obtain rfl := Option.some.inj (h.deadline.symm.trans hdeadline)
    exact ⟨h.held.symm.trans hfree, hover⟩
  · rintro ⟨hfree, hover⟩
    exact ⟨w.due, h.awaits hfree, hover⟩

/-- Lines that come in belong to the wait. -/
theorem Keeps.withLines (h : t.Keeps w) (lines : List Text) : { t with lines := lines }.Keeps w :=
  ⟨h.lost, h.script, h.deadline, h.held⟩

/-- A script whose time is over goes on as the wait says. -/
theorem Keeps.wake (h : t.Keeps w) (hw : r.wait? = some w) :
    t.wake.script = w.resumed ∧ t.wake.script.status = .running := by
  have htime := Wait.time_of_wait? hw
  have hscript := h.script
  cases hstatus : w.script.status with
  | waitingForMatch timeout =>
    simp [Task.wake, Script.timeOut, Wait.resumed, hscript, hstatus]
  | paused d =>
    simp [Task.wake, Script.timeOut, Script.resume, Wait.resumed, hscript, hstatus]
  | loaded | running | waitingFor | finished | faulted f =>
    rw [hstatus] at htime
    cases htime

/-- After a slice, the task is in the wait to which the slice has brought it. -/
theorem keeps_runSlice (hready : t.isReady = true)
    (hw : Wait.begun? now (t.ranScript globals) = some w) :
    ∃ u, (t.runSlice now globals).task = some u ∧ u.Keeps w := by
  obtain ⟨htime, hend, -, hscript, hfree⟩ := Wait.begun?_eq_some hw
  obtain ⟨hlives, hheld, -⟩ := isReady_iff.mp hready
  have hdrained : waitTime? (t.ranScript globals).drain.1.status = some w.time := htime
  have harmed : t.arm now (t.ranScript globals).drain.1 =
      { t with script := w.script, deadline := some w.due } := by
    rw [arm, hdrained, hscript]
    simp only [hend]
  refine ⟨{ t with script := w.script, deadline := some w.due }, ?_, hlives, rfl, rfl,
    hheld.trans hfree.symm⟩
  rw [runSlice_eq]
  split
  · rename_i f hfaulted
    rw [hfaulted] at htime
    cases htime
  · rename_i hfinished
    rw [hfinished] at htime
    cases htime
  · rw [harmed]

end Task

/-- The task with a number keeps its waits: all of them have ended on time so far, and the task is
in the wait of its record, if there is one. -/
structure Timed (s : Session) (id : Nat) (r : Record) : Prop where
  /-- The numbers are in order. -/
  registered : s.Registered
  /-- All waits have ended on time. -/
  onTime : r.OnTime
  /-- The task is in the wait of the record. -/
  keeps : ∀ w, r.wait? = some w → ∃ t ∈ s.tasks, t.id = id ∧ t.Keeps w
  /-- If the wait is over, it is so just now, or the task has just been released. -/
  timely : r.TimelyAt s.now

/-- What is entered in the turn of a task, with the clock. -/
def Task.turnRecord (t : Task) (now : Nat) (globals : Store) : Record :=
  (t.turnMoments now globals).map fun m => (now, .moment m)

namespace Task

variable {t : Task} {now : Nat} {globals : Store} {r : Record}

/-- What a turn does to the waits of its task: the record stays on time, the task is in the wait of
its record, and a wait that is over is so just now. -/
structure TurnIsTimed (t : Task) (now : Nat) (globals : Store) (r : Record) : Prop where
  /-- All waits have ended on time. -/
  onTime : (r ++ t.turnRecord now globals).OnTime
  /-- The task is in the wait of the record. -/
  keeps : ∀ w, (r ++ t.turnRecord now globals).wait? = some w →
    ∃ u, (t.turn now globals).task = some u ∧ u.Keeps w
  /-- If the wait is over, it is so just now, or the task has just been released. -/
  timely : (r ++ t.turnRecord now globals).TimelyAt now

/-- A turn in which nothing is entered leaves its task in the wait. -/
theorem TurnIsTimed.of_quiet (hr : r.OnTime) (htimely : r.TimelyAt now)
    (hready : (t.attend now).isReady = false) (hmoments : t.attendMoments now = [])
    (hkeeps : ∀ w, r.wait? = some w → (t.attend now).Keeps w) :
    t.TurnIsTimed now globals r := by
  have hnothing : r ++ t.turnRecord now globals = r := by
    simp [turnRecord, turnMoments, hready, hmoments]
  refine ⟨hnothing.symm ▸ hr, hnothing.symm ▸ fun w hw => ?_, hnothing.symm ▸ htimely⟩
  exact ⟨_, by rw [turn_of_not_ready hready], hkeeps w hw⟩

/-- A slice that the wait before it allows begins the next wait. -/
theorem TurnIsTimed.of_slice {q : Record} (hq : q.OnTime)
    (hready : (t.attend now).isReady = true)
    (hrecord : r ++ t.turnRecord now globals =
      q ++ [(now, .moment (.ran ((t.attend now).ranScript globals)))])
    (hallows : ∀ w, q.wait? = some w →
      w.Allows q (now, .moment (.ran ((t.attend now).ranScript globals)))) :
    t.TurnIsTimed now globals r := by
  have hwait : (r ++ t.turnRecord now globals).wait? =
      Wait.begun? now ((t.attend now).ranScript globals) := by
    rw [hrecord, Record.wait?_concat]
    rfl
  refine ⟨hrecord ▸ hq.concat hallows, fun w hw => ?_, fun w hw => ?_⟩
  · rw [hwait] at hw
    rw [turn_of_ready hready]
    exact keeps_runSlice hready hw
  · rw [hwait] at hw
    have hsince := (Wait.begun?_eq_some hw).2.2.1
    exact .inr (.inl (hsince ▸ w.since_le_due))

/-- The turn of a task that is in the wait of its record, if there is one, keeps its waits. -/
theorem turnIsTimed (hlost : t.lost = false) (hr : r.OnTime) (htimely : r.TimelyAt now)
    (hkeeps : ∀ w, r.wait? = some w → t.Keeps w) (globals : Store) :
    t.TurnIsTimed now globals r := by
  have hattends := t.attends now
  have hrecord : t.turnRecord now globals =
      ((t.attendMoments now) ++ if (t.attend now).isReady then
        [Moment.ran ((t.attend now).ranScript globals)] else []).map fun m => (now, .moment m) :=
    rfl
  generalize hu : t.attend now = u, hms : t.attendMoments now = ms at hattends hrecord
  cases hattends with
  | nothing h =>
    rcases h with hlost' | ⟨-, hready | hrests⟩
    · rw [hlost] at hlost'
      cases hlost'
    · have hready' : (t.attend now).isReady = true := hu.symm ▸ hready
      refine .of_slice hr hready' ?_ fun w hw => ?_
      · rw [hrecord, hready, hu]
        rfl
      · rw [(hkeeps w hw).isReady hw] at hready
        cases hready
    · have hready : (t.attend now).isReady = false := by
        rw [hu]
        exact ((rests_iff_of_lives hlost).mp hrests).1
      exact .of_quiet hr htimely hready hms (hu.symm ▸ hkeeps)
  | drop hlives hheld =>
    have hready : (t.attend now).isReady = false := by
      rw [hu]
      simp [isReady, hheld]
    exact .of_quiet hr htimely hready hms (hu.symm ▸ fun w hw => (hkeeps w hw).withLines [])
  | wake hready hdue =>
    cases hwait : r.wait? with
    | none =>
      -- Outside a wait, waking leads on like anything else that the task may take up.
      cases hgoes : t.wake.isReady with
      | false =>
        refine .of_quiet hr htimely (hu.symm ▸ hgoes) hms fun w hw => ?_
        rw [hwait] at hw
        cases hw
      | true =>
        refine .of_slice hr (hu.symm ▸ hgoes) ?_ fun w hw => ?_
        · rw [hrecord, hgoes, hu]
          rfl
        · rw [hwait] at hw
          cases hw
    | some w =>
      have hkept := hkeeps w hwait
      obtain ⟨hfree, hover⟩ := hkept.isDue_iff.mp hdue
      obtain ⟨hresumed, hruns⟩ := hkept.wake hwait
      have hgoes : t.wake.isReady = true :=
        isReady_iff.mpr ⟨hlost, hkept.held.trans hfree, hruns⟩
      refine .of_slice hr (hu.symm ▸ hgoes) ?_ fun w' hw' => ?_
      · rw [hrecord, hgoes, hu]
        rfl
      · obtain rfl := Option.some.inj (hwait.symm.trans hw')
        refine ⟨hfree, ?_, globals, by rw [hu, ranScript, hresumed]⟩
        rcases htimely w hwait with hheld | hearly | hreleased
        · rw [hfree] at hheld
          cases hheld
        · exact .inl (Nat.le_antisymm hearly hover)
        · exact .inr ⟨hover, hreleased⟩
  | @offer line rest hlives hheld hready hdue hlines =>
    -- The offer is entered first; whether the wait goes on is decided by the script.
    have hallows : ∀ w, r.wait? = some w → w.Allows r (now, .moment (.offered t.script line)) := by
      intro w hw
      have hkept := hkeeps w hw
      have hfree : w.held = false := hkept.held.symm.trans hheld
      refine ⟨hfree, ?_, hkept.script⟩
      by_contra hover
      rw [hkept.isDue_iff.mpr ⟨hfree, Nat.le_of_not_lt hover⟩] at hdue
      cases hdue
    have hq := hr.concat hallows
    have hnext : Record.wait? (r ++ [(now, .moment (.offered t.script line))]) =
        if (t.script.feed line).2 then none else r.wait? := Record.wait?_concat r _
    cases hgoes : (t.attend now).isReady with
    | true =>
      refine .of_slice hq hgoes ?_ fun w hw => ?_
      · rw [hu] at hgoes
        rw [hrecord, hgoes, hu]
        simp
      · -- A script that runs after the offer has taken the line.
        rw [hnext] at hw
        split at hw
        · cases hw
        · rename_i htaken
          have hsame := feed_of_not_taken (by simpa using htaken)
          rw [hu] at hgoes
          have hrunning := (isReady_iff.mp hgoes).2.2
          rw [hsame, (hkeeps w hw).script] at hrunning
          exact absurd hrunning (Wait.status_ne_running hw)
    | false =>
      have hentered : r ++ t.turnRecord now globals =
          r ++ [(now, .moment (.offered t.script line))] := by
        rw [hu] at hgoes
        rw [hrecord, hgoes]
        rfl
      refine ⟨hentered ▸ hq, fun w hw => ?_, fun w hw => ?_⟩
      · rw [hentered, hnext] at hw
        split at hw
        · cases hw
        · rename_i htaken
          have hsame := feed_of_not_taken (by simpa using htaken)
          refine ⟨_, by rw [turn_of_not_ready hgoes], ?_⟩
          rw [hu, hsame]
          exact (hkeeps w hw).withLines rest
      · rw [hentered, hnext] at hw
        split at hw
        · cases hw
        · -- The wait is not over, or its script would have been woken.
          exact .inr (.inl (Nat.le_of_lt (hallows w hw).2.1))

end Task

/-- What is entered for a task that is found by the number that a happening concerns. -/
theorem recordOf_of_concerns {s : Session} {e : Happening} {t : Task} (hs : s.Registered)
    (ht : t ∈ s.tasks) (hlost : t.lost = false) (he : e.concerns? = some t.id) :
    s.recordOf t.id e = (s.entries t e).map (s.now, ·) := by
  simp [recordOf, he, hs.task?_eq ht hlost]

/-- Nothing is entered for a task that a happening does not concern. -/
theorem recordOf_of_ne {s : Session} {e : Happening} {id : Nat} (he : e.concerns? ≠ some id) :
    s.recordOf id e = [] := by
  rw [recordOf, if_neg he]

/-- The clock stands still except when it goes on. -/
theorem happen_now {s : Session} {e : Happening} (he : ∀ m, e ≠ .tick m) :
    (s.happen e).now = s.now := by
  cases e with
  | tick m => exact absurd rfl (he m)
  | ingest chunk =>
    rw [happen_ingest]
    split <;> rfl
  | start name args =>
    rw [happen, launch_eq]
    cases Script.load s.library name s.globals s.scriptSettings <;> rfl
  | control c id =>
    rw [happen, control]
    cases s.task? id <;> rfl
  | turn id => exact turn_now s id
  | setGlobal _ _ => rfl

namespace Timed

variable {s : Session} {id : Nat} {r : Record}

/-- A happening that does not concern a task leaves it in its wait. -/
theorem unconcerned (hs : s.Timed id r) {e : Happening} (hallows : s.Allows e)
    (he : e.concerns? ≠ some id) : (s.happen e).Timed id r := by
  refine ⟨hs.registered.happen e, hs.onTime, fun w hw => ?_, fun w hw => ?_⟩
  · obtain ⟨t, ht, rfl, hkept⟩ := hs.keeps w hw
    have hhappens := s.happens e
    generalize s.happen e = s', s.moments e = ms at hhappens ⊢
    cases hhappens with
    | concerned hu hlost hu' =>
      refine ⟨t, (mem_replace hu).mpr (.inl ⟨ht, fun hid => he ?_⟩), rfl, hkept⟩
      rw [hu', hid]
    | chunk chunk hsound =>
      obtain ⟨kept, hreceives⟩ := exists_receive t (s.linesOf chunk)
      refine ⟨_, mem_withChunk.mpr ⟨t, ht, rfl⟩, t.receive_id _, ?_⟩
      rw [hreceives]
      exact hkept.withLines kept
    | started hload => exact ⟨t, List.mem_append_left _ ht, rfl, hkept⟩
    | beside htasks hnext hevents => exact ⟨t, htasks ▸ ht, rfl, hkept⟩
  · have htimely := hs.timely w hw
    by_cases htick : ∃ m, e = .tick m
    · obtain ⟨m, rfl⟩ := htick
      obtain ⟨hforward, hbound⟩ := hallows
      change w.held = true ∨ m ≤ w.due ∨ r.getLast? = some (m, .released)
      rcases Nat.eq_or_lt_of_le hforward with rfl | hmoves
      · exact htimely
      · cases hheld : w.held with
        | true => exact .inl rfl
        | false =>
          obtain ⟨t, ht, -, hkept⟩ := hs.keeps w hw
          exact .inr (.inl (hbound hmoves t ht w.due (hkept.awaits hheld)))
    · rw [happen_now fun m hm => htick ⟨m, hm⟩]
      exact htimely

/-- A turn keeps the waits of its task. -/
theorem turn (hs : s.Timed id r) {t : Task} (ht : t ∈ s.tasks) (hid : t.id = id)
    (hlost : t.lost = false) :
    (s.replace t (t.turn s.now s.globals)).Timed id (r ++ t.turnRecord s.now s.globals) := by
  have hkeeps : ∀ w, r.wait? = some w → t.Keeps w := by
    intro w hw
    obtain ⟨u, hu, huid, hkept⟩ := hs.keeps w hw
    rwa [hs.registered.eq_of_id ht hu (hid.trans huid.symm)]
  have hturn := Task.turnIsTimed hlost hs.onTime hs.timely hkeeps s.globals
  have hregistered := hs.registered.happen (.turn t.id)
  rw [happen_of_concerns (e := .turn t.id) rfl, hs.registered.task?_eq ht hlost] at hregistered
  refine ⟨hregistered, hturn.onTime, fun w hw => ?_, hturn.timely⟩
  obtain ⟨u, hu, hkept⟩ := hturn.keeps w hw
  exact ⟨u, (mem_replace ht).mpr (.inr hu), (Task.turn_frame hu).1.trans hid, hkept⟩

/-- A task that is told something keeps its waits, if it is not told to end. -/
theorem control (hs : s.Timed id r) {t : Task} (ht : t ∈ s.tasks) (hid : t.id = id)
    (hlost : t.lost = false) (c : Control) :
    (s.replace t (c.apply t s.globals)).Timed id (r ++ [(s.now, c.entry t)]) := by
  have hregistered := hs.registered.happen (.control c t.id)
  rw [happen_of_concerns (e := .control c t.id) rfl, hs.registered.task?_eq ht hlost]
    at hregistered
  have hallows (entry : Entry) (hentry : entry = .held ∨ entry = .released) :
      ∀ w, r.wait? = some w → w.Allows r (s.now, entry) := by
    intro w hw
    have hlate : w.held = false → s.now ≤ w.due ∨ r.getLast? = some (s.now, .released) :=
      fun hfree => (hs.timely w hw).resolve_left (by simp [hfree])
    rcases hentry with rfl | rfl <;> exact hlate
  have hset (held : Bool) (w : Wait)
      (hw : r.wait?.map (fun w => { w with held := held }) = some w) :
      ∃ u ∈ (s.replace t ⟨some { t with held := held }, s.globals, []⟩).tasks,
        u.id = id ∧ u.Keeps w := by
    obtain ⟨w, hbefore, rfl⟩ := Option.map_eq_some_iff.mp hw
    obtain ⟨u, hu, huid, hkept⟩ := hs.keeps w hbefore
    obtain rfl := hs.registered.eq_of_id ht hu (hid.trans huid.symm)
    exact ⟨_, (mem_replace ht).mpr (.inr rfl), hid, hkept.lost, hkept.script, hkept.deadline, rfl⟩
  cases c with
  | stop =>
    have hnone : Record.wait? (r ++ [(s.now, .moment (.stopped t.script.stop))]) = none :=
      Record.wait?_concat r _
    refine ⟨hregistered, hs.onTime.concat fun w _ => trivial, fun w hw => ?_, fun w hw => ?_⟩
    all_goals
      rw [Control.entry, hnone] at hw
      cases hw
  | pause =>
    have hwait : Record.wait? (r ++ [(s.now, .held)]) =
        r.wait?.map fun w => { w with held := true } := Record.wait?_concat r _
    refine ⟨hregistered, hs.onTime.concat (hallows .held (.inl rfl)), fun w hw => ?_,
      fun w hw => ?_⟩
    · exact hset true w (hwait ▸ hw)
    · rw [Control.entry, hwait] at hw
      obtain ⟨w, -, rfl⟩ := Option.map_eq_some_iff.mp hw
      exact .inl rfl
  | resume =>
    have hwait : Record.wait? (r ++ [(s.now, .released)]) =
        r.wait?.map fun w => { w with held := false } := Record.wait?_concat r _
    refine ⟨hregistered, hs.onTime.concat (hallows .released (.inr rfl)), fun w hw => ?_,
      fun w hw => .inr (.inr ?_)⟩
    · exact hset false w (hwait ▸ hw)
    · rw [Control.entry, List.getLast?_concat]
      rfl

/-- Whatever is possible keeps the waits of a task on time. -/
theorem happen (hs : s.Timed id r) {e : Happening} (hallows : s.Allows e) :
    (s.happen e).Timed id (r ++ s.recordOf id e) := by
  by_cases he : e.concerns? = some id
  · rw [happen_of_concerns he]
    cases htask : s.task? id with
    | none =>
      have hnothing : s.recordOf id e = [] := by simp [recordOf, he, htask]
      rw [hnothing, List.append_nil]
      exact hs
    | some t =>
      obtain ⟨ht, rfl, hlost⟩ := of_task? htask
      rw [recordOf_of_concerns hs.registered ht hlost he]
      cases e with
      | turn i =>
        have hrecord : (s.entries t (.turn i)).map (s.now, ·) = t.turnRecord s.now s.globals := by
          simp [entries, Task.turnRecord]
        rw [hrecord]
        exact hs.turn ht rfl hlost
      | control c i => exact hs.control ht rfl hlost c
      | ingest _ | start _ _ | setGlobal _ _ | tick _ => cases he
  · rw [recordOf_of_ne he, List.append_nil]
    exact hs.unconcerned hallows he

/-- So does every possible course. -/
theorem after (hs : s.Timed id r) {es : List Happening} (hpossible : s.Possible es) :
    (s.after es).Timed id (r ++ s.record id es) := by
  induction es generalizing s r with
  | nil => simpa [record] using hs
  | cons e es ih =>
    rw [record, ← List.append_assoc]
    exact ih (hs.happen hpossible.1) hpossible.2

end Timed

/-- A script that rests for a second and then says so. -/
def restLibrary : Script.Library := fun name =>
  if name = ['r'] then some ["pause 1", "echo rested"] else none

end Mudline.Session
