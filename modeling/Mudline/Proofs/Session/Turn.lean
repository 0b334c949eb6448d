import Mudline.Proofs.Session.History

/-!
# What a happening can do

A turn takes up what has come for its task and may then run one slice. The first half of this file
lists what either can do to the task and to its script. The second half lists what a happening can
do to a session: it puts what has become of one task in its place, brings lines for all of them,
adds a task, or leaves them alone. What all of these preserve holds after every course.
-/

namespace Mudline.Session

namespace Task

/-- Arming a task gives it up or sets its deadline. -/
theorem arm_cases (t : Task) (now : Nat) (s : Script) :
    t.arm now s = t.lose s ∨
      ∃ deadline, t.arm now s = { t with script := s, deadline := deadline } := by
  rw [arm]
  cases waitTime? s.status with
  | none => exact .inr ⟨none, rfl⟩
  | some d =>
    dsimp only
    cases endOfWait? now d with
    | none => exact .inl rfl
    | some moment => exact .inr ⟨some moment, rfl⟩

/-- What a slice makes of its task is decided by the script that it has run. -/
theorem runSlice_eq (t : Task) (now : Nat) (globals : Store) :
    t.runSlice now globals =
      match (t.ranScript globals).status with
      | .faulted _ =>
        ⟨some (t.lose (t.ranScript globals).drain.1), (t.ranScript globals).globals, []⟩
      | .finished => ⟨none, (t.ranScript globals).globals, (t.ranScript globals).events⟩
      | _ => ⟨some (t.arm now (t.ranScript globals).drain.1), (t.ranScript globals).globals,
          (t.ranScript globals).events⟩ := by
  -- The run is put aside, or checking the equation would run it.
  unfold runSlice ranScript
  generalize { t.script with globals := globals }.runFor sliceLength = s
  rfl

/-- After a slice, a script that has ended leaves its task, one that does not survive is given up,
and any other goes on. Unless it is given up, what it had to say has been taken. -/
theorem runSlice_cases (t : Task) (now : Nat) (globals : Store) :
    ((t.ranScript globals).status = .finished ∧
      t.runSlice now globals =
        ⟨none, (t.ranScript globals).globals, (t.ranScript globals).events⟩) ∨
    ((t.ranScript globals).status ≠ .finished ∧ ∃ s es,
      t.runSlice now globals = ⟨some (t.lose s), (t.ranScript globals).globals, es⟩) ∨
    ((t.ranScript globals).status ≠ .finished ∧ ∃ deadline,
      t.runSlice now globals =
        ⟨some { t with script := (t.ranScript globals).drain.1, deadline := deadline },
          (t.ranScript globals).globals, (t.ranScript globals).events⟩) := by
  rw [runSlice_eq]
  split
  · rename_i f hstatus
    exact .inr (.inl ⟨by simp [hstatus], _, _, rfl⟩)
  · rename_i hstatus
    exact .inl ⟨hstatus, rfl⟩
  · rename_i hfaulted hfinished
    rcases t.arm_cases now (t.ranScript globals).drain.1 with hlost | ⟨deadline, hlives⟩
    · exact .inr (.inl ⟨hfinished, _, _, by rw [hlost]⟩)
    · exact .inr (.inr ⟨hfinished, deadline, by rw [hlives]⟩)

/-- A slice leaves the shared variables as the script has left them. -/
theorem runSlice_globals_eq (t : Task) (now : Nat) (globals : Store) :
    (t.runSlice now globals).globals = (t.ranScript globals).globals := by
  rcases t.runSlice_cases now globals with ⟨-, h⟩ | ⟨-, s, es, h⟩ | ⟨-, d, h⟩ <;> rw [h]

/-- A script runs now if its task goes on, is not held, and the script does not wait. -/
theorem isReady_iff {t : Task} :
    t.isReady = true ↔ t.lost = false ∧ t.held = false ∧ t.script.status = .running := by
  simp [isReady, and_assoc]

/-- A task waits for its deadline unless it was given up or is held. -/
theorem mem_awaited? {t : Task} {m : Nat} :
    m ∈ t.awaited? ↔ t.lost = false ∧ t.held = false ∧ t.deadline = some m := by
  rw [awaited?]
  cases t.lost <;> cases t.held <;> simp

/-- A moment has come if it is not behind the one that the clock shows. -/
theorem isDue_iff {t : Task} {now : Nat} : t.isDue now = true ↔ ∃ m ∈ t.awaited?, m ≤ now := by
  simp [isDue, Option.any_eq_true]

/-- Waking makes a script run on or leaves it as it is. -/
theorem wake_script (t : Task) :
    (∃ awaited, t.wake.script = { t.script with awaited := awaited, status := .running } ∧
      t.script.status ≠ .finished) ∨ t.wake.script = t.script := by
  cases hstatus : t.script.status <;>
    simp [wake, Script.timeOut, Script.resume, hstatus]

end Task

/-- A line leaves a script as it is, makes it run on, or strands it. -/
theorem feed_cases (s : Script) (line : Text) :
    ¬(Moment.offered s line).Strands ∧
      ((s.feed line).1 = s ∨
        (s.feed line).1.status = .running ∧ (s.feed line).1.events = s.events) ∨
    (Moment.offered s line).Strands ∧
      (s.feed line).1.status = .finished ∧ (s.feed line).1.events ≠ [] := by
  rw [Script.feed]
  split
  · rename_i hlistens
    split
    · rename_i hhit
      left
      refine ⟨?_, .inl rfl⟩
      rintro ⟨-, a, groups, label, hsome, -⟩
      rw [hhit] at hsome
      cases hsome
    · rename_i a groups hhit
      split
      · rename_i label hlabel
        cases hknown : s.listing.label? label with
        | some i =>
          left
          refine ⟨?_, .inr ?_⟩
          · rintro ⟨-, a', groups', label', hhit', hlabel', hunknown⟩
            obtain ⟨rfl, rfl⟩ : a = a' ∧ groups = groups' := by
              simpa [hhit] using hhit'
            obtain rfl : label = label' := by simpa [hlabel] using hlabel'
            rw [hknown] at hunknown
            cases hunknown
          · simp [Script.jump, hknown]
        | none =>
          right
          refine ⟨⟨hlistens, a, groups, label, hhit, hlabel, hknown⟩, ?_⟩
          simp [Script.jump, hknown, Script.finish, Script.complain, Script.emit]
      · rename_i hnone
        left
        refine ⟨?_, .inr ⟨rfl, rfl⟩⟩
        rintro ⟨-, a', groups', label', hhit', hlabel', -⟩
        obtain ⟨rfl, rfl⟩ : a = a' ∧ groups = groups' := by
          simpa [hhit] using hhit'
        rw [hnone] at hlabel'
        cases hlabel'
  · rename_i hdeaf
    left
    refine ⟨?_, .inl rfl⟩
    rintro ⟨hlistens, -⟩
    exact hdeaf hlistens

/-- A line for which a script does not wait leaves it as it is. -/
theorem feed_of_not_taken {s : Script} {line : Text} (h : (s.feed line).2 = false) :
    (s.feed line).1 = s := by
  rw [Script.feed] at h ⊢
  split
  · rename_i hlistens
    rw [if_pos hlistens] at h
    cases hhit : Script.hit? s.awaited line with
    | none => rfl
    | some hit =>
      simp only [hhit] at h
      cases hlabel : hit.1.label <;> simp [hlabel] at h
  · rfl

/-- What a task can do with what has come for it, and the moments that this leaves behind. -/
inductive Task.Attends (now : Nat) (t : Task) : Task → List Moment → Prop
  /-- There is nothing to take up. -/
  | nothing (h : t.lost = true ∨ t.held = false ∧ (t.isReady = true ∨ t.rests now = true)) :
      Attends now t t []
  /-- A task that is held drops its lines. -/
  | drop (hlost : t.lost = false) (hheld : t.held = true) :
      Attends now t { t with lines := [] } []
  /-- A script whose moment has come is woken. -/
  | wake (hready : t.isReady = false) (hdue : t.isDue now = true) : Attends now t t.wake []
  /-- A script that waits is offered the first line. -/
  | offer {line : Text} {rest : List Text} (hlost : t.lost = false) (hheld : t.held = false)
      (hready : t.isReady = false) (hdue : t.isDue now = false) (hlines : t.lines = line :: rest) :
      Attends now t { t with script := (t.script.feed line).1, lines := rest }
        [.offered t.script line]

namespace Task

variable {t : Task} {now : Nat} {globals : Store}

/-- A task takes up what has come for it in one of these ways. -/
theorem attends (t : Task) (now : Nat) : Attends now t (t.attend now) (t.attendMoments now) := by
  rw [attend, attendMoments]
  by_cases hlost : t.lost = true
  · rw [if_pos hlost, if_pos (by simp [hlost])]
    exact .nothing (.inl hlost)
  rw [if_neg hlost]
  by_cases hheld : t.held = true
  · rw [if_pos hheld, if_pos (by simp [hheld])]
    exact .drop (by simpa using hlost) hheld
  rw [if_neg hheld]
  by_cases hready : t.isReady = true
  · rw [if_pos hready, if_pos (by simp [hready])]
    exact .nothing (.inr ⟨by simpa using hheld, .inl hready⟩)
  rw [if_neg hready]
  by_cases hdue : t.isDue now = true
  · rw [if_pos hdue, if_pos (by simp [hdue])]
    exact .wake (by simpa using hready) hdue
  rw [if_neg hdue, if_neg (by simp [hlost, hheld, hready, hdue])]
  simp only [Bool.not_eq_true] at hlost hheld hready hdue
  split
  · rename_i hlines
    have hrests : t.rests now = true := by simp [rests, hready, hdue, hlines]
    rw [hlines]
    exact .nothing (.inr ⟨hheld, .inr hrests⟩)
  · rename_i line rest hlines
    rw [hlines]
    exact .offer hlost hheld hready hdue hlines

/-- A task rests if it was given up, or if no line waits for it and it neither runs nor is woken. -/
theorem rests_iff {t : Task} {now : Nat} : t.rests now = true ↔
    t.lost = true ∨ t.isReady = false ∧ t.isDue now = false ∧ t.lines = [] := by
  simp [rests, and_assoc]

/-- A task that was not given up rests if no line waits for it and it neither runs nor is woken. -/
theorem rests_iff_of_lives (hlost : t.lost = false) : t.rests now = true ↔
    t.isReady = false ∧ t.isDue now = false ∧ t.lines = [] := by
  simp [rests_iff, hlost]

/-- Taking up what has come changes neither the number of a task nor whether it is held or was given
up. -/
theorem Attends.frame {u : Task} {ms : List Moment} (h : Attends now t u ms) :
    u.id = t.id ∧ u.held = t.held ∧ u.lost = t.lost := by
  cases h <;> exact ⟨rfl, rfl, rfl⟩

/-- Taking up what has come leaves the number. -/
@[simp] theorem attend_id (t : Task) (now : Nat) : (t.attend now).id = t.id :=
  (t.attends now).frame.1

/-- Taking up what has come leaves the task held or not. -/
@[simp] theorem attend_held (t : Task) (now : Nat) : (t.attend now).held = t.held :=
  (t.attends now).frame.2.1

/-- A slice keeps the number of its task, its lines unless it is given up, and whether it is
held. -/
theorem runSlice_frame {u : Task} (h : (t.runSlice now globals).task = some u) :
    u.id = t.id ∧ u.held = t.held ∧ (u.lost = true ∨ u.lost = t.lost ∧ u.lines = t.lines) := by
  rcases t.runSlice_cases now globals with ⟨-, hturn⟩ | ⟨-, s, es, hturn⟩ | ⟨-, d, hturn⟩
  · simp [hturn] at h
  · obtain rfl : t.lose s = u := by simpa [hturn] using h
    exact ⟨rfl, rfl, .inl rfl⟩
  · obtain rfl : { t with script := (t.ranScript globals).drain.1, deadline := d } = u := by
      simpa [hturn] using h
    exact ⟨rfl, rfl, .inr ⟨rfl, rfl⟩⟩

/-- A turn of a script that does not wait once it has taken up what has come runs a slice. -/
theorem turn_of_ready (h : (t.attend now).isReady = true) :
    t.turn now globals = (t.attend now).runSlice now globals := by
  rw [turn, if_pos h]

/-- A turn of a script that waits only takes up what has come. -/
theorem turn_of_not_ready (h : (t.attend now).isReady = false) :
    t.turn now globals = ⟨some (t.attend now), globals, []⟩ := by
  rw [turn, if_neg (by simp [h])]

/-- A script that does not wait runs a slice in its turn, and nothing else is done. -/
theorem turn_of_isReady (h : t.isReady = true) :
    t.turn now globals = t.runSlice now globals := by
  obtain ⟨hlost, hheld, -⟩ := isReady_iff.mp h
  have hattend : t.attend now = t := by
    rw [attend, if_neg (by simp [hlost]), if_neg (by simp [hheld]), if_pos h]
  rw [turn_of_ready (by rwa [hattend]), hattend]

/-- A turn keeps the number of its task and whether it is held. -/
theorem turn_frame {u : Task} (h : (t.turn now globals).task = some u) :
    u.id = t.id ∧ u.held = t.held := by
  cases hready : (t.attend now).isReady with
  | true =>
    rw [turn_of_ready hready] at h
    simpa using And.intro (runSlice_frame h).1 (runSlice_frame h).2.1
  | false =>
    rw [turn_of_not_ready hready] at h
    obtain rfl := Option.some.inj h
    exact ⟨attend_id t now, attend_held t now⟩

/-- A task that rests has nothing to do in its turn. -/
theorem turn_of_rests (h : t.rests now = true) (globals : Store) :
    t.turn now globals = ⟨some t, globals, []⟩ := by
  have hready : t.isReady = false := by
    rcases rests_iff.mp h with hlost | ⟨hready, -⟩
    · simp [isReady, hlost]
    · exact hready
  have hattend : t.attend now = t := by
    have hattends := t.attends now
    generalize t.attend now = u, t.attendMoments now = ms at hattends ⊢
    cases hattends with
    | nothing => rfl
    | drop hlost hheld => rw [← ((rests_iff_of_lives hlost).mp h).2.2]
    | wake hready hdue =>
      obtain ⟨m, hm, -⟩ := isDue_iff.mp hdue
      rw [((rests_iff_of_lives (mem_awaited?.mp hm).1).mp h).2.1] at hdue
      cases hdue
    | offer hlost hheld hready hdue hlines =>
      rw [((rests_iff_of_lives hlost).mp h).2.2] at hlines
      cases hlines
  have hunready : (t.attend now).isReady = false := by rw [hattend, hready]
  rw [turn_of_not_ready hunready, hattend]

end Task

/-- What the stream makes of a chunk. -/
def readChunk (s : Session) (chunk : Text) : Stream × List Stream.Command :=
  { s.stream with globals := s.globals }.read chunk

/-- The lines that a chunk completes in the main window. -/
def linesOf (s : Session) (chunk : Text) : List Text :=
  (completedLines (s.unfinished ++ mainText (s.readChunk chunk).2)).1

/-- The session in which a chunk has been read and its lines are ready for the tasks. -/
def withChunk (s : Session) (chunk : Text) : Session :=
  (s.withStream (s.readChunk chunk).1).broadcast (mainText (s.readChunk chunk).2)

/-- The session with one more task. -/
def withTask (s : Session) (name : Text) (script : Script) : Session :=
  { s with
    tasks := s.tasks ++ [{ id := s.nextId, name := name, script := script }]
    nextId := s.nextId + 1 }

/-- A chunk without a fault is read and brings its lines, and one with a fault is only read. -/
theorem happen_ingest (s : Session) (chunk : Text) :
    s.happen (.ingest chunk) =
      if (Stream.Command.firstFault? (s.readChunk chunk).2).isSome then
        s.withStream (s.readChunk chunk).1
      else s.withChunk chunk := by
  have hread : { s.stream with globals := s.globals }.read chunk = s.readChunk chunk := rfl
  cases hfault : Stream.Command.firstFault? (s.readChunk chunk).2 <;>
    simp [happen, read, hread, hfault, withChunk]

/-- The commands of a chunk are those that the stream yields, unless there is a fault among them. -/
theorem read_snd (s : Session) (chunk : Text) :
    (s.read chunk).2 =
      match Stream.Command.firstFault? (s.readChunk chunk).2 with
      | some f => .error f
      | none => .ok (s.readChunk chunk).2 := by
  have hread : { s.stream with globals := s.globals }.read chunk = s.readChunk chunk := rfl
  cases hfault : Stream.Command.firstFault? (s.readChunk chunk).2 <;>
    simp [read, hread, hfault]

/-- A script is started exactly if it can be loaded. -/
theorem launch_eq (s : Session) (name : Text) (args : List Text) :
    s.launch name args =
      match Script.load s.library name s.globals s.scriptSettings with
      | .error e => .error (.load e)
      | .ok script => .ok (s.withTask name (script.start args), s.nextId) := rfl

/-- The task with a number is one of the tasks, and was not given up. -/
theorem of_task? {s : Session} {id : Nat} {t : Task} (h : s.task? id = some t) :
    t ∈ s.tasks ∧ t.id = id ∧ t.lost = false := by
  have hfound := List.find?_some h
  simp only [Bool.and_eq_true, beq_iff_eq, Bool.not_eq_true'] at hfound
  exact ⟨List.mem_of_find?_eq_some h, hfound⟩

/-- A happening that concerns a task puts what becomes of it in its place. -/
theorem happen_of_concerns {s : Session} {e : Happening} {id : Nat} (h : e.concerns? = some id) :
    s.happen e = match s.task? id with
      | some t => s.replace t (s.outcome t e)
      | none => s := by
  cases e with
  | control c i =>
    obtain rfl := Option.some.inj h
    rw [happen, control]
    cases s.task? i <;> rfl
  | turn i =>
    obtain rfl := Option.some.inj h
    rw [happen, turn]
    cases s.task? i <;> rfl
  | ingest _ | start _ _ | setGlobal _ _ | tick _ => cases h

/-- The moments that a happening leaves behind are those of the task that it concerns. -/
theorem moments_of_task? {s : Session} {e : Happening} {id : Nat} {t : Task}
    (h : e.concerns? = some id) (htask : s.task? id = some t) :
    s.moments e = (s.momentsOf t e).map (t.id, ·) := by
  rw [moments, h, Option.bind_some, htask]

/-- There are none if there is no such task. -/
theorem moments_of_task?_eq_none {s : Session} {e : Happening} {id : Nat}
    (h : e.concerns? = some id) (htask : s.task? id = none) : s.moments e = [] := by
  rw [moments, h, Option.bind_some, htask]

/-- What a happening can do to the tasks of a session, and the moments that this leaves behind. -/
inductive Happens (s : Session) : Happening → Session → History → Prop
  /-- What becomes of one task is put in its place. -/
  | concerned {e : Happening} {t : Task} (ht : t ∈ s.tasks) (hlost : t.lost = false)
      (he : e.concerns? = some t.id) :
      Happens s e (s.replace t (s.outcome t e)) ((s.momentsOf t e).map (t.id, ·))
  /-- All tasks receive the lines of a chunk. -/
  | chunk (chunk : Text) (h : Stream.Command.firstFault? (s.readChunk chunk).2 = none) :
      Happens s (.ingest chunk) (s.withChunk chunk) []
  /-- A task is added. -/
  | started {name : Text} {args : List Text} {script : Script}
      (h : Script.load s.library name s.globals s.scriptSettings = .ok script) :
      Happens s (.start name args) (s.withTask name (script.start args)) []
  /-- The tasks are left alone. -/
  | beside {e : Happening} {s' : Session} (htasks : s'.tasks = s.tasks)
      (hnext : s'.nextId = s.nextId) (hevents : s'.events = s.events) : Happens s e s' []

/-- Whatever happens does one of these things to the tasks. -/
theorem happens (s : Session) (e : Happening) : Happens s e (s.happen e) (s.moments e) := by
  have hconcerned {id : Nat} (h : e.concerns? = some id) :
      Happens s e (s.happen e) (s.moments e) := by
    rw [happen_of_concerns h]
    cases htask : s.task? id with
    | none =>
      rw [moments_of_task?_eq_none h htask]
      exact .beside rfl rfl rfl
    | some t =>
      rw [moments_of_task? h htask]
      obtain ⟨ht, rfl, hlost⟩ := of_task? htask
      exact .concerned ht hlost h
  cases e with
  | control c id => exact hconcerned rfl
  | turn id => exact hconcerned rfl
  | ingest chunk =>
    rw [happen_ingest]
    cases hfault : Stream.Command.firstFault? (s.readChunk chunk).2 with
    | some f => exact .beside rfl rfl rfl
    | none => exact .chunk chunk hfault
  | start name args =>
    rw [happen, launch_eq]
    cases hload : Script.load s.library name s.globals s.scriptSettings with
    | error e => exact .beside rfl rfl rfl
    | ok script => exact .started hload
  | setGlobal name value => exact .beside rfl rfl rfl
  | tick moment => exact .beside rfl rfl rfl

/-- After one task has been replaced, there are the others and what has become of it. -/
theorem mem_replace {s : Session} {t : Task} (ht : t ∈ s.tasks) {u : Turn} {t' : Task} :
    t' ∈ (s.replace t u).tasks ↔ t' ∈ s.tasks ∧ t'.id ≠ t.id ∨ u.task = some t' := by
  rw [replace, List.mem_filterMap]
  constructor
  · rintro ⟨v, hv, hv'⟩
    split at hv'
    · exact .inr hv'
    · rename_i hid
      obtain rfl := Option.some.inj hv'
      exact .inl ⟨hv, by simpa using hid⟩
  · rintro (⟨ht', hid⟩ | hu)
    · exact ⟨t', ht', if_neg (by simpa using hid)⟩
    · exact ⟨t, ht, by simpa using hu⟩

/-- Lines that come in do not change what a task is. -/
theorem exists_receive (t : Task) (lines : List Text) :
    ∃ kept, t.receive lines = { t with lines := kept } :=
  ⟨_, by rw [Task.receive]⟩

/-- Lines that come in leave the number. -/
@[simp] theorem Task.receive_id (t : Task) (lines : List Text) : (t.receive lines).id = t.id := by
  rw [Task.receive]

/-- Lines that come in give up no task. -/
@[simp] theorem Task.receive_lost (t : Task) (lines : List Text) :
    (t.receive lines).lost = t.lost := by
  rw [Task.receive]

/-- All tasks receive the lines of a chunk. -/
theorem withChunk_tasks (s : Session) (chunk : Text) :
    (s.withChunk chunk).tasks = s.tasks.map fun (t : Task) => t.receive (s.linesOf chunk) := rfl

/-- A task that is there after a chunk is one that has received its lines. -/
theorem mem_withChunk {s : Session} {chunk : Text} {u : Task} :
    u ∈ (s.withChunk chunk).tasks ↔ ∃ t ∈ s.tasks, t.receive (s.linesOf chunk) = u := by
  rw [withChunk_tasks, List.mem_map]

end Mudline.Session
