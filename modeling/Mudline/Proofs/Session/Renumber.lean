import Mudline.Proofs.Session.Turn

/-!
# Numbers make no difference

What a task does in a turn or when it is told something does not depend on its number: with another
number it does the same, and is left with the other number. So if one task is left out of a session
and the numbers behind its own move up by one, all that is done to the tasks that remain is done as
before.
-/

namespace Mudline.Session

/-- The task with another number. -/
def Task.withId (i : Nat) (t : Task) : Task :=
  { t with id := i }

/-- What becomes of the task with another number. -/
def Turn.withId (i : Nat) (u : Turn) : Turn :=
  { u with task := u.task.map (Task.withId i) }

namespace Task

variable {t : Task} {now : Nat} {globals : Store} (i : Nat)

/-- The number is the new one. -/
@[simp] theorem withId_id : (t.withId i).id = i := rfl

/-- Another number leaves the name. -/
@[simp] theorem withId_name : (t.withId i).name = t.name := rfl

/-- Another number leaves open whether the task was given up. -/
@[simp] theorem withId_lost : (t.withId i).lost = t.lost := rfl

/-- Another number makes no difference to whether the script runs now. -/
@[simp] theorem withId_isReady : (t.withId i).isReady = t.isReady := rfl

/-- A task may keep its number. -/
@[simp] theorem withId_self (t : Task) : t.withId t.id = t := rfl

/-- Lines reach a task under any number. -/
theorem withId_receive (lines : List Text) :
    (t.withId i).receive lines = (t.receive lines).withId i := by
  simp only [receive, withId]

/-- What a task takes up does not depend on its number. -/
theorem withId_attend : (t.withId i).attend now = (t.attend now).withId i := by
  have hdue : (t.withId i).isDue now = t.isDue now := rfl
  have hheld : (t.withId i).held = t.held := rfl
  have hlines : (t.withId i).lines = t.lines := rfl
  rw [attend, attend, withId_lost, hheld, withId_isReady, hdue, hlines]
  split
  · rfl
  split
  · rfl
  split
  · rfl
  split
  · rfl
  cases t.lines <;> rfl

/-- The wait of a task is over at the same moment under any number. -/
theorem withId_arm (s : Script) : (t.withId i).arm now s = (t.arm now s).withId i := by
  rw [arm, arm]
  cases waitTime? s.status with
  | none => rfl
  | some d =>
    dsimp only
    cases endOfWait? now d <;> rfl

/-- A slice runs in the same way under any number. -/
theorem withId_runSlice :
    (t.withId i).runSlice now globals = (t.runSlice now globals).withId i := by
  have hran : (t.withId i).ranScript globals = t.ranScript globals := rfl
  have hlose (s : Script) : (t.withId i).lose s = (t.lose s).withId i := rfl
  rw [runSlice_eq, runSlice_eq, hran]
  cases (t.ranScript globals).status <;> simp [Turn.withId, withId_arm, hlose]

/-- What a task does in a turn does not depend on its number. -/
theorem withId_turn : (t.withId i).turn now globals = (t.turn now globals).withId i := by
  rw [turn, turn, withId_attend]
  rw [withId_isReady, withId_runSlice]
  split <;> rfl

end Task

/-- What a task does when it is told something does not depend on its number. -/
theorem Control.apply_withId (c : Control) (i : Nat) (t : Task) (globals : Store) :
    c.apply (t.withId i) globals = (c.apply t globals).withId i := by
  cases c <;> rfl

/-- The number that a task has if the one with the number `b` is never started. -/
def renumbered (b id : Nat) : Nat :=
  if b < id then id - 1 else id

section Renumbered

variable {b i j : Nat}

/-- The tasks that remain have different numbers as before. -/
theorem renumbered_inj (hi : i ≠ b) (hj : j ≠ b) : renumbered b i = renumbered b j ↔ i = j := by
  simp only [renumbered]
  split <;> split <;> omega

/-- The numbers of tasks that remain are compared as before. -/
theorem renumbered_beq (hi : i ≠ b) (hj : j ≠ b) :
    (renumbered b i == renumbered b j) = (i == j) := by
  rw [Bool.eq_iff_iff, beq_iff_eq, beq_iff_eq, renumbered_inj hi hj]

/-- The numbers up to the one that is left out stay. -/
theorem renumbered_of_lt (h : i < b) : renumbered b i = i :=
  if_neg (Nat.not_lt_of_lt h)

end Renumbered

/-- The task with the number that it has if another is never started. -/
def Task.renumber (b : Nat) (t : Task) : Task :=
  t.withId (renumbered b t.id)

/-- The tasks that remain if one is never started. -/
def leaveOut (b : Nat) (ts : List Task) : List Task :=
  (ts.filter (·.id != b)).map (Task.renumber b)

section LeaveOut

variable {b : Nat}

/-- The task that is never started does not remain. -/
theorem leaveOut_cons_self {t : Task} (ht : t.id = b) (ts : List Task) :
    leaveOut b (t :: ts) = leaveOut b ts := by
  simp [leaveOut, ht]

/-- Every other task remains with the number that it then has. -/
theorem leaveOut_cons_of_ne {t : Task} (ht : t.id ≠ b) (ts : List Task) :
    leaveOut b (t :: ts) = t.renumber b :: leaveOut b ts := by
  simp [leaveOut, ht]

/-- A task may be left out of two lists one after the other. -/
theorem leaveOut_append (b : Nat) (ts us : List Task) :
    leaveOut b (ts ++ us) = leaveOut b ts ++ leaveOut b us := by
  simp [leaveOut]

/-- What remains are the other tasks with their new numbers. -/
theorem mem_leaveOut {ts : List Task} {u : Task} :
    u ∈ leaveOut b ts ↔ ∃ t ∈ ts, t.id ≠ b ∧ t.renumber b = u := by
  simp [leaveOut, and_assoc]

/-- What becomes of each task that remains becomes of it as before. -/
theorem leaveOut_filterMap {f g : Task → Option Task} (hid : ∀ t, ∀ t' ∈ f t, t'.id = t.id)
    (hfg : ∀ t, t.id ≠ b → (f t).map (Task.renumber b) = g (t.renumber b)) (ts : List Task) :
    leaveOut b (ts.filterMap f) = (leaveOut b ts).filterMap g := by
  induction ts with
  | nil => rfl
  | cons t rest ih =>
    by_cases ht : t.id = b
    · rw [leaveOut_cons_self ht, ← ih]
      cases hf : f t with
      | none => rw [List.filterMap_cons_none hf]
      | some t' => rw [List.filterMap_cons_some hf, leaveOut_cons_self ((hid t t' hf).trans ht)]
    · rw [leaveOut_cons_of_ne ht]
      have hg := hfg t ht
      cases hf : f t with
      | none =>
        rw [hf] at hg
        rw [List.filterMap_cons_none hf, List.filterMap_cons_none hg.symm, ih]
      | some t' =>
        rw [hf] at hg
        have ht' : t'.id ≠ b := fun h => ht ((hid t t' hf).symm.trans h)
        rw [List.filterMap_cons_some hf, List.filterMap_cons_some hg.symm,
          leaveOut_cons_of_ne ht', ih]

/-- The first of the tasks that remain with some property is the one that was the first before. -/
theorem find?_leaveOut {p q : Task → Bool} (hpq : ∀ t, t.id ≠ b → q (t.renumber b) = p t)
    (hp : ∀ t, t.id = b → p t = false) (ts : List Task) :
    (leaveOut b ts).find? q = (ts.find? p).map (Task.renumber b) := by
  induction ts with
  | nil => rfl
  | cons t rest ih =>
    by_cases ht : t.id = b
    · rw [leaveOut_cons_self ht, List.find?_cons, hp t ht, ih]
    · rw [leaveOut_cons_of_ne ht, List.find?_cons, List.find?_cons, hpq t ht]
      cases p t with
      | true => rfl
      | false => exact ih

/-- Tasks with smaller numbers are not touched. -/
theorem leaveOut_of_lt {ts : List Task} (h : ∀ t ∈ ts, t.id < b) : leaveOut b ts = ts := by
  induction ts with
  | nil => rfl
  | cons t rest ih =>
    obtain ⟨ht, hrest⟩ := List.forall_mem_cons.mp h
    rw [leaveOut_cons_of_ne (Nat.ne_of_lt ht), ih hrest, Task.renumber, renumbered_of_lt ht,
      Task.withId_self]

end LeaveOut

/-- What remains of a list by numbers if one task is never started. -/
def unlist {α : Type} (b : Nat) (es : List (Nat × α)) : List (Nat × α) :=
  (es.filter (·.1 != b)).map fun e => (renumbered b e.1, e.2)

section Unlist

variable {α : Type} {b : Nat}

/-- What remains of two lists remains one after the other. -/
@[simp] theorem unlist_append (es fs : List (Nat × α)) :
    unlist b (es ++ fs) = unlist b es ++ unlist b fs := by
  simp [unlist]

/-- Nothing remains of what belongs to the task that is left out. -/
@[simp] theorem unlist_map_self (xs : List α) : unlist b (xs.map (b, ·)) = [] := by
  simp [unlist]

/-- What belongs to a task that remains is listed under its new number. -/
theorem unlist_map_of_ne {id : Nat} (h : id ≠ b) (xs : List α) :
    unlist b (xs.map (id, ·)) = xs.map (renumbered b id, ·) := by
  have hkept : xs.filter (fun _ => id != b) = xs := List.filter_eq_self.mpr fun _ _ => by simp [h]
  simp [unlist, List.filter_map, Function.comp_def, hkept]

/-- What is listed under smaller numbers is not touched. -/
theorem unlist_of_lt {es : List (Nat × α)} (h : ∀ e ∈ es, e.1 < b) : unlist b es = es := by
  induction es with
  | nil => rfl
  | cons e rest ih =>
    obtain ⟨he, hrest⟩ := List.forall_mem_cons.mp h
    have hlater := ih hrest
    rw [unlist] at hlater
    simp [unlist, Nat.ne_of_lt he, renumbered_of_lt he, hlater]

end Unlist

/-- The session in which one task was never started. -/
def without (b : Nat) (s : Session) : Session :=
  { s with
    tasks := leaveOut b s.tasks
    nextId := s.nextId - 1
    events := unlist b s.events }

section Without

variable {b : Nat} {s : Session}

/-- The other tasks are listed under their new numbers. -/
theorem without_running (b : Nat) (s : Session) : (s.without b).running = unlist b s.running := by
  simp [running, without, leaveOut, unlist, List.filter_map, Function.comp_def, Task.renumber]

/-- A task that remains is found by its new number. -/
theorem without_task? {id : Nat} (hid : id ≠ b) :
    (s.without b).task? (renumbered b id) = (s.task? id).map (Task.renumber b) := by
  refine find?_leaveOut (fun t ht => ?_) (fun t ht => ?_) s.tasks
  · rw [Task.renumber, Task.withId_id, Task.withId_lost, renumbered_beq ht hid]
  · have hother : (t.id == id) = false := beq_false_of_ne fun h => hid (h.symm.trans ht)
    rw [hother, Bool.false_and]

/-- What becomes of the task that is left out makes no difference if it leaves the shared variables
as they are. -/
theorem without_replace_self {t : Task} {u : Turn} (ht : t.id = b)
    (hu : ∀ t' ∈ u.task, t'.id = t.id) (hglobals : u.globals = s.globals) :
    (s.replace t u).without b = s.without b := by
  have htasks : leaveOut b (s.replace t u).tasks = (leaveOut b s.tasks).filterMap some := by
    refine leaveOut_filterMap (fun v v' hv' => ?_) (fun v hv => ?_) s.tasks
    · split at hv'
      · rename_i hsame
        exact (hu v' hv').trans (beq_iff_eq.mp hsame).symm
      · rw [Option.some.inj hv']
    · have hother : ¬(v.id == t.id) = true := by simpa [ht] using hv
      rw [if_neg hother, Option.map_some]
  rw [List.filterMap_some] at htasks
  simp only [without, htasks]
  simp [replace, hglobals, ht]

/-- What becomes of a task that remains is put in its place as before. -/
theorem without_replace_of_ne {t : Task} {u : Turn} (ht : t.id ≠ b)
    (hu : ∀ t' ∈ u.task, t'.id = t.id) :
    (s.replace t u).without b =
      (s.without b).replace (t.renumber b) (u.withId (renumbered b t.id)) := by
  have htasks : leaveOut b (s.replace t u).tasks = (leaveOut b s.tasks).filterMap fun v =>
      if v.id == (t.renumber b).id then (u.withId (renumbered b t.id)).task else some v := by
    refine leaveOut_filterMap (fun v v' hv' => ?_) (fun v hv => ?_) s.tasks
    · split at hv'
      · rename_i hsame
        exact (hu v' hv').trans (beq_iff_eq.mp hsame).symm
      · rw [Option.some.inj hv']
    · simp only [Task.renumber, Task.withId_id, renumbered_beq hv ht]
      split
      · cases htask : u.task with
        | none => simp [Turn.withId, htask]
        | some t' => simp [Turn.withId, htask, Task.renumber, hu t' htask]
      · rfl
  simp only [without, htasks]
  simp [replace, Task.renumber, Turn.withId, unlist_map_of_ne ht]

/-- A chunk brings its lines to the tasks that remain. -/
theorem without_withChunk (b : Nat) (s : Session) (chunk : Text) :
    (s.withChunk chunk).without b = (s.without b).withChunk chunk := by
  have htasks : leaveOut b (s.withChunk chunk).tasks = ((s.without b).withChunk chunk).tasks := by
    rw [withChunk_tasks, withChunk_tasks, ← List.filterMap_eq_map, ← List.filterMap_eq_map]
    refine leaveOut_filterMap (fun t t' ht' => ?_) (fun t ht => ?_) s.tasks
    · obtain rfl := Option.some.inj ht'
      exact t.receive_id _
    · simp only [Function.comp_apply, Option.map_some, Task.renumber, Task.receive_id,
        Task.withId_receive]
      rfl
  rw [without, htasks]
  rfl

/-- A task that is started later has a number that is smaller by one. -/
theorem without_withTask (hb : b < s.nextId) (name : Text) (script : Script) :
    (s.withTask name script).without b = (s.without b).withTask name script := by
  have hnumber : renumbered b s.nextId = s.nextId - 1 := if_pos hb
  have hnew : leaveOut b [{ id := s.nextId, name := name, script := script }] =
      [{ id := s.nextId - 1, name := name, script := script }] := by
    rw [leaveOut_cons_of_ne (Nat.ne_of_gt hb), Task.renumber, hnumber]
    rfl
  simp only [without, withTask, leaveOut_append, hnew]
  rw [Nat.add_sub_cancel, Nat.sub_add_cancel (Nat.one_le_of_lt hb)]

/-- If all tasks rest, so do those that remain. -/
theorem AtRest.without (hs : s.AtRest) (b : Nat) : (s.without b).AtRest := by
  intro u hu
  obtain ⟨t, ht, -, rfl⟩ := mem_leaveOut.mp hu
  exact hs t ht

end Without

end Mudline.Session
