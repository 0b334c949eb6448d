import Mudline.Proofs.Session.Quiet

/-!
# What reaches a script

The lines that a chunk completes wait in a buffer of its own for each task, which keeps the last of
them only. Those that are kept are offered to the script one by one and in order, one in each turn
in which the script neither runs nor is woken. None is left over once the task rests, unless the
script has ended or was given up.
-/

namespace Mudline.Session

namespace Task

variable {t : Task} {now : Nat} {globals : Store}

/-- A turn offers the first lines that wait for a task that is not held, one or none, and unless the
task is given up the others still wait. -/
theorem hears_turn (hheld : t.held = false) (now : Nat) (globals : Store) :
    ∃ left, (t.turnMoments now globals).filterMap Moment.line? ++ left = t.lines ∧
      ∀ u, (t.turn now globals).task = some u → u.lost = true ∨ u.lines = left := by
  refine ⟨(t.attend now).lines, ?_, ?_⟩
  · have hran : (if (t.attend now).isReady then
        [Moment.ran ((t.attend now).ranScript globals)] else []).filterMap Moment.line? = [] := by
      split <;> rfl
    have hattends := t.attends now
    rw [turnMoments, List.filterMap_append, hran, List.append_nil]
    generalize t.attend now = u, t.attendMoments now = ms at hattends ⊢
    cases hattends with
    | nothing => rfl
    | drop hlost hheld' =>
      rw [hheld] at hheld'
      cases hheld'
    | wake hready hdue => rfl
    | offer hlost hheld hready hdue hlines =>
      rw [hlines]
      rfl
  · intro u hu
    cases hready : (t.attend now).isReady with
    | false =>
      rw [turn_of_not_ready hready] at hu
      obtain rfl := Option.some.inj hu
      exact .inr rfl
    | true =>
      rw [turn_of_ready hready] at hu
      exact (runSlice_frame hu).2.2.imp_right And.right

/-- A script is offered a line in a turn only if it neither runs nor is woken. -/
theorem waits_of_mem_turnMoments {s : Script} {line : Text}
    (h : .offered s line ∈ t.turnMoments now globals) : s.status ≠ .running := by
  rcases List.mem_append.mp h with hattended | hran
  · have hattends := t.attends now
    generalize t.attend now = u, t.attendMoments now = ms at hattends hattended
    cases hattends with
    | nothing | drop | wake => cases hattended
    | offer hlost hheld hready hdue hlines =>
      obtain ⟨rfl, -⟩ : s = t.script ∧ _ := by simpa using hattended
      intro hrunning
      rw [isReady_iff.mpr ⟨hlost, hheld, hrunning⟩] at hready
      cases hready
  · split at hran <;> simp at hran

/-- A turn of a waiting script whose moment has not come offers it the first line. -/
theorem turn_of_waiting {line : Text} {rest : List Text} (hlost : t.lost = false)
    (hheld : t.held = false) (hready : t.isReady = false) (hdue : t.isDue now = false)
    (hlines : t.lines = line :: rest) :
    t.attendMoments now = [.offered t.script line] ∧
      t.attend now = { t with script := (t.script.feed line).1, lines := rest } := by
  have hattends := t.attends now
  generalize t.attend now = u, t.attendMoments now = ms at hattends ⊢
  cases hattends with
  | nothing h =>
    rcases h with hlost' | ⟨-, hready' | hrests⟩
    · rw [hlost] at hlost'
      cases hlost'
    · rw [hready] at hready'
      cases hready'
    · rw [((rests_iff_of_lives hlost).mp hrests).2.2] at hlines
      cases hlines
  | drop hlost hheld' =>
    rw [hheld] at hheld'
    cases hheld'
  | wake hready hdue' =>
    rw [hdue] at hdue'
    cases hdue'
  | offer hlost hheld hready hdue hlines' =>
    obtain ⟨rfl, rfl⟩ := List.cons.inj (hlines.symm.trans hlines')
    exact ⟨rfl, rfl⟩

end Task

/-- A line that fits no pattern leaves the script as it is. -/
theorem feed_of_hit?_eq_none {s : Script} {line : Text}
    (h : Script.hit? s.awaited line = none) : (s.feed line).1 = s := by
  rw [Script.feed, h]
  split <;> rfl

/-- A line that fits a pattern makes a waiting script go on. -/
theorem feed_of_hit? {s : Script} {line : Text} (hlistens : s.status.listens = true)
    (h : (Script.hit? s.awaited line).isSome = true) : (s.feed line).2 = true := by
  obtain ⟨⟨a, groups⟩, hhit⟩ := Option.isSome_iff_exists.mp h
  rw [Script.feed, if_pos hlistens, hhit]
  cases hlabel : a.label <;> simp [hlabel]

/-- A script is offered a line only if it does not run, whatever happens. -/
theorem waits_of_mem_history {s : Session} {es : List Happening} {id : Nat} {script : Script}
    {line : Text} (h : (id, .offered script line) ∈ s.history es) : script.status ≠ .running := by
  induction es generalizing s with
  | nil => cases h
  | cons e es ih =>
    rcases List.mem_append.mp h with hnow | hlater
    · have hhappens := s.happens e
      generalize s.happen e = s', s.moments e = ms at hhappens hnow
      cases hhappens with
      | concerned ht hlost he =>
        obtain ⟨m, hm, hentry⟩ := List.mem_map.mp hnow
        obtain ⟨-, rfl⟩ := Prod.mk.inj hentry
        cases e with
        | turn i => exact Task.waits_of_mem_turnMoments hm
        | control c i => cases c <;> simp [momentsOf, Control.moments] at hm
        | ingest _ | start _ _ | setGlobal _ _ | tick _ => cases hm
      | chunk | started | beside => cases hnow
    · exact ih hlater

section Turns

variable {s : Session}

/-- A turn of another task leaves a task alone. -/
theorem turn_of_ne {t : Task} (ht : t ∈ s.tasks) {id : Nat} (hid : id ≠ t.id) :
    t ∈ (s.happen (.turn id)).tasks ∧ History.of t.id (s.moments (.turn id)) = [] := by
  rw [happen_of_concerns (e := .turn id) rfl]
  cases htask : s.task? id with
  | none => exact ⟨ht, by rw [moments_of_task?_eq_none rfl htask]; rfl⟩
  | some u =>
    rw [moments_of_task? rfl htask]
    obtain ⟨hu, rfl, -⟩ := of_task? htask
    refine ⟨(mem_replace hu).mpr (.inl ⟨ht, hid.symm⟩), History.of_eq_nil fun e he => ?_⟩
    obtain ⟨m, -, rfl⟩ := List.mem_map.mp he
    exact hid

/-- In its turn, a task becomes what the turn makes of it. -/
theorem turn_self (hs : s.Registered) {t : Task} (ht : t ∈ s.tasks) (hlost : t.lost = false) :
    (∀ u, u ∈ (s.happen (.turn t.id)).tasks ∧ u.id = t.id ↔
      (t.turn s.now s.globals).task = some u) ∧
    History.of t.id (s.moments (.turn t.id)) = t.turnMoments s.now s.globals := by
  have htask := hs.task?_eq ht hlost
  rw [happen_of_concerns (e := .turn t.id) rfl, moments_of_task? rfl htask, htask]
  refine ⟨fun u => ⟨?_, fun hu => ?_⟩, History.of_map_self _ _⟩
  · rintro ⟨hu, hid⟩
    rcases (mem_replace ht).mp hu with ⟨-, hne⟩ | hbecomes
    · exact absurd hid hne
    · exact hbecomes
  · exact ⟨(mem_replace ht).mpr (.inr hu), (Task.turn_frame hu).1⟩

/-- To a task that is not there or was given up, nothing happens in any turn. -/
theorem turns_of_gone {id : Nat} (hgone : ∀ t ∈ s.tasks, t.id = id → t.lost = true)
    (ids : List Nat) :
    History.of id (s.history (turns ids)) = [] ∧
      ∀ t ∈ (s.after (turns ids)).tasks, t.id = id → t.lost = true := by
  induction ids generalizing s with
  | nil => exact ⟨rfl, hgone⟩
  | cons i ids ih =>
    have hnext : History.of id (s.moments (.turn i)) = [] ∧
        ∀ t ∈ (s.happen (.turn i)).tasks, t.id = id → t.lost = true := by
      have hhappens := s.happens (.turn i)
      generalize s.happen (.turn i) = s', s.moments (.turn i) = ms at hhappens ⊢
      generalize hturn : Happening.turn i = e at hhappens
      cases hhappens with
      | @concerned _ t ht hlost he =>
        have hne : t.id ≠ id := fun hid => by simp [hgone t ht hid] at hlost
        refine ⟨History.of_eq_nil fun entry hentry => ?_, fun u hu hid => ?_⟩
        · obtain ⟨m, -, rfl⟩ := List.mem_map.mp hentry
          exact hne
        · rcases (mem_replace ht).mp hu with ⟨hu, -⟩ | hbecomes
          · exact hgone u hu hid
          · exact absurd ((outcome_id hbecomes).symm.trans hid) hne
      | chunk | started => cases hturn
      | beside htasks hnext hevents => exact ⟨rfl, htasks ▸ hgone⟩
    obtain ⟨hnothing, hstill⟩ := ih hnext.2
    refine ⟨?_, hstill⟩
    rw [turns, List.map_cons, history, History.of_append, hnext.1]
    exact hnothing

/-- In the turns of the tasks, a task that is not held is offered the lines that wait for it, one
after another, up to those that still wait in the end. -/
theorem hears_turns (hs : s.Registered) {t : Task} (ht : t ∈ s.tasks) (hheld : t.held = false)
    (hlost : t.lost = false) (ids : List Nat) :
    ∃ left, (History.of t.id (s.history (turns ids))).filterMap Moment.line? ++ left = t.lines ∧
      ∀ u ∈ (s.after (turns ids)).tasks, u.id = t.id → u.lost = true ∨ u.lines = left := by
  induction ids generalizing s t with
  | nil =>
    refine ⟨t.lines, rfl, fun u hu hid => .inr ?_⟩
    rw [hs.eq_of_id hu ht hid]
  | cons i ids ih =>
    have hnext := hs.happen (.turn i)
    rw [turns, List.map_cons, history, History.of_append, List.filterMap_append, after_cons]
    by_cases hid : i = t.id
    · subst hid
      obtain ⟨hbecomes, hmoments⟩ := turn_self hs ht hlost
      obtain ⟨left, hoffered, hleft⟩ := t.hears_turn hheld s.now s.globals
      rw [hmoments]
      -- A task that does not go on is offered nothing in the turns that follow.
      by_cases hgoes : ∃ u, (t.turn s.now s.globals).task = some u ∧ u.lost = false
      · obtain ⟨u, hu, hlives⟩ := hgoes
        obtain ⟨hmem, huid⟩ := (hbecomes u).mpr hu
        have hlines : u.lines = left := (hleft u hu).resolve_left (by simp [hlives])
        have hstill : u.held = false := (Task.turn_frame hu).2.trans hheld
        obtain ⟨rest, hrest, hend⟩ := ih hnext hmem hstill hlives
        rw [huid, hlines] at hrest
        rw [huid] at hend
        exact ⟨rest, by rw [List.append_assoc]; exact hrest.symm ▸ hoffered, hend⟩
      · have hgone : ∀ u ∈ (s.happen (.turn t.id)).tasks, u.id = t.id → u.lost = true := by
          intro u hu huid
          by_contra hlives
          exact hgoes ⟨u, (hbecomes u).mp ⟨hu, huid⟩, by simpa using hlives⟩
        obtain ⟨hnothing, hstill⟩ := turns_of_gone hgone ids
        rw [turns] at hnothing hstill
        refine ⟨left, by rw [hnothing]; simpa using hoffered, fun u hu huid => .inl ?_⟩
        exact hstill u hu huid
    · obtain ⟨hmem, hnothing⟩ := turn_of_ne ht hid
      rw [hnothing]
      exact ih hnext hmem hheld hlost

/-- Lines for which a waiting script does not wait leave it as it is, and the next line is offered
to the same script. So it is reached as it is by the first line for which it waits, unless the turns
stop before, with lines still waiting. -/
theorem reaches_turns (hs : s.Registered) {t : Task} (ht : t ∈ s.tasks) (hheld : t.held = false)
    (hlost : t.lost = false) (hready : t.isReady = false) (hdue : t.isDue s.now = false)
    {before : List Text} (hbefore : ∀ b ∈ before, (t.script.feed b).1 = t.script) {line : Text}
    {rest : List Text} (hlines : t.lines = before ++ line :: rest) (ids : List Nat) :
    let offers := (before ++ [line]).map (Moment.offered t.script ·)
    let moments := History.of t.id (s.history (turns ids))
    offers <+: moments ∨ moments <+: offers ∧
      ∃ u ∈ (s.after (turns ids)).tasks, u.id = t.id ∧ u.rests s.now = false := by
  induction ids generalizing s t before with
  | nil =>
    refine .inr ⟨List.nil_prefix, t, ht, rfl, Bool.eq_false_iff.mpr fun hrests => ?_⟩
    rw [((Task.rests_iff_of_lives hlost).mp hrests).2.2] at hlines
    simp at hlines
  | cons i ids ih =>
    have hnext := hs.happen (.turn i)
    have hnow : (s.happen (.turn i)).now = s.now := turn_now s i
    rw [turns, List.map_cons, history, History.of_append, after_cons]
    by_cases hid : i = t.id
    · subst hid
      obtain ⟨hbecomes, hmoments⟩ := turn_self hs ht hlost
      rw [hmoments]
      cases before with
      | nil =>
        left
        have hattends := Task.turn_of_waiting hlost hheld hready hdue hlines
        rw [Task.turnMoments, hattends.1, List.append_assoc]
        exact List.prefix_append _ _
      | cons b before =>
        obtain ⟨hoffered, hattended⟩ := Task.turn_of_waiting hlost hheld hready hdue hlines
        have hsame : (t.script.feed b).1 = t.script := hbefore b List.mem_cons_self
        rw [hsame] at hattended
        have hunready : (t.attend s.now).isReady = false := by rw [hattended]; exact hready
        have hturn : t.turn s.now s.globals = ⟨some (t.attend s.now), s.globals, []⟩ :=
          Task.turn_of_not_ready hunready
        obtain ⟨hmem, -⟩ := (hbecomes (t.attend s.now)).mpr (by rw [hturn])
        rw [hattended] at hmem
        have hms : t.turnMoments s.now s.globals = [.offered t.script b] := by
          rw [Task.turnMoments, hoffered, hunready]
          rfl
        rw [hms]
        have hlater := ih hnext hmem hheld hlost hready (hnow ▸ hdue)
          (fun b' hb' => hbefore b' (List.mem_cons_of_mem b hb')) rfl
        rw [hnow] at hlater
        simpa [turns, List.cons_prefix_cons] using hlater
    · obtain ⟨hmem, hnothing⟩ := turn_of_ne ht hid
      rw [hnothing]
      have hlater := ih hnext hmem hheld hlost hready (hnow ▸ hdue) hbefore hlines
      rwa [hnow] at hlater

end Turns

/-- The lines that wait for a task once a chunk has been read, with those of the chunk at the
end. -/
def waitingLines (s : Session) (chunk : Text) (t : Task) : List Text :=
  t.lines ++ s.linesOf chunk

/-- The lines that the buffer of a task has lost by then. -/
def missedLines (s : Session) (chunk : Text) (t : Task) : List Text :=
  (s.waitingLines chunk t).take ((s.waitingLines chunk t).length - keptLines)

/-- What a task has missed and what it has received are the lines that wait for it. -/
theorem missedLines_append_receive (s : Session) (chunk : Text) (t : Task) :
    s.missedLines chunk t ++ (t.receive (s.linesOf chunk)).lines = s.waitingLines chunk t := by
  simp only [missedLines, waitingLines, Task.receive, List.take_append_drop]

/-- Exactly the lines that overfill the buffer are missed. -/
theorem missedLines_eq_nil_iff {s : Session} {chunk : Text} {t : Task} :
    s.missedLines chunk t = [] ↔ (s.waitingLines chunk t).length ≤ keptLines := by
  constructor
  · intro h
    have hlength := congrArg List.length h
    rw [missedLines, List.length_take, List.length_nil] at hlength
    omega
  · intro h
    rw [missedLines, Nat.sub_eq_zero_of_le h, List.take_zero]

/-- Of the lines that wait for a task that is not held once a chunk has been read, its script is
offered all that fit into its buffer, each once and in order, and only when it does not run. This is
so in whatever order the tasks have their turns then. Lines are left over only if the script ends or
is given up, or as long as there is something to do for its task; and if there was nothing to do for
it before the chunk, no line waited. A script that waits for one of several patterns is reached, as
it is, by the first line that fits one of them, and goes on. All of this misses exactly the lines
that overfill the buffer. -/
theorem offered_iff_fits (c : Configuration) (library : Script.Library)
    (report : Regex.Error → Text) (allowance : Nat) (es : List Happening) (chunk : Text) (t : Task)
    (ht : t ∈ ((fresh c library report allowance).after es).tasks) (hheld : t.held = false)
    (hlost : t.lost = false)
    (hsound : Stream.Command.firstFault?
      (((fresh c library report allowance).after es).readChunk chunk).2 = none) :
    let s := (fresh c library report allowance).after es
    (t.rests s.now = true → t.lines = []) ∧
    (∃ ids, (s.ingest chunk).1 = (s.happen (.ingest chunk)).after (turns ids)) ∧
    ∀ ids,
      let s' := (s.happen (.ingest chunk)).after (turns ids)
      let moments := History.of t.id ((s.happen (.ingest chunk)).history (turns ids))
      (∃ left,
        s.missedLines chunk t ++ (moments.filterMap Moment.line? ++ left) =
          s.waitingLines chunk t ∧
        (moments.filterMap Moment.line? ++ left = s.waitingLines chunk t ↔
          (s.waitingLines chunk t).length ≤ keptLines) ∧
        ∀ t' ∈ s'.tasks, t'.id = t.id →
          t'.lost = true ∨ t'.lines = left ∧ (t'.rests s.now = true → left = [])) ∧
      (∀ script line, .offered script line ∈ moments → script.status ≠ .running) ∧
      ∀ before line rest,
        s.waitingLines chunk t = s.missedLines chunk t ++ (before ++ line :: rest) →
        t.script.status.listens = true → t.isDue s.now = false →
        (∀ b ∈ before, Script.hit? t.script.awaited b = none) →
        (Script.hit? t.script.awaited line).isSome = true →
          let offers := (before ++ [line]).map (Moment.offered t.script ·)
          (offers <+: moments ∨ moments <+: offers ∧
              ∃ t' ∈ s'.tasks, t'.id = t.id ∧ t'.rests s.now = false) ∧
            (t.script.feed line).2 = true := by
  intro s
  have hregistered : s.Registered := (registered_fresh c library report allowance).after es
  have hchunk : s.happen (.ingest chunk) = s.withChunk chunk := by
    rw [happen_ingest, hsound, if_neg (by simp)]
  have hmem : t.receive (s.linesOf chunk) ∈ (s.withChunk chunk).tasks :=
    mem_withChunk.mpr ⟨t, ht, rfl⟩
  have hwaiting := missedLines_append_receive s chunk t
  obtain ⟨kept, hkept⟩ := exists_receive t (s.linesOf chunk)
  have hnext : (s.withChunk chunk).Registered := hchunk ▸ hregistered.happen (.ingest chunk)
  rw [hkept] at hmem hwaiting
  refine ⟨fun hrests => ((Task.rests_iff_of_lives hlost).mp hrests).2.2, ?_, fun ids => ?_⟩
  · exact ⟨_, settle_eq (s.happen (.ingest chunk))⟩
  · rw [hchunk]
    obtain ⟨left, hoffered, hend⟩ := hears_turns hnext hmem hheld hlost ids
    refine ⟨⟨left, by rw [hoffered, hwaiting], ?_, ?_⟩, ?_, ?_⟩
    · rw [hoffered, ← missedLines_eq_nil_iff, ← hwaiting]
      simp
    · intro t' ht' hid
      rcases hend t' ht' hid with hgiven | hlines
      · exact .inl hgiven
      · cases hlives : t'.lost with
        | true => exact .inl rfl
        | false =>
          refine .inr ⟨hlines, fun hrests => ?_⟩
          rw [← hlines, ((Task.rests_iff_of_lives hlives).mp hrests).2.2]
    · exact fun script line hm => waits_of_mem_history (History.mem_of.mp hm)
    · intro before line rest hlines hlistens hdue hbefore hhit
      have hkeeps : kept = before ++ line :: rest := by
        rw [← hwaiting] at hlines
        exact List.append_cancel_left hlines
      have hready : t.isReady = false := by
        rw [Bool.eq_false_iff]
        intro hready
        rw [(Task.isReady_iff.mp hready).2.2] at hlistens
        cases hlistens
      exact ⟨reaches_turns hnext hmem hheld hlost hready hdue
        (fun b hb => feed_of_hit?_eq_none (hbefore b hb)) hkeeps ids, feed_of_hit? hlistens hhit⟩

/-- A script that waits for a goblin and then ends. -/
def watchLibrary : Script.Library := fun name =>
  if name = ['w'] then some ["waitfor goblin"] else none

/-- The watch begins. -/
def watchCourse : List Happening :=
  [.start ['w'] [], .turn 1]

/-- The session in which the watch has begun. -/
def watchSession : Session :=
  (new {} watchLibrary).after watchCourse

/-- A chunk of many lines, of which a goblin comes first. -/
def floodChunk (n : Nat) : Text :=
  "goblin\n".toList ++ (List.replicate n ['.', '\n']).flatten

/-- Among few lines, the goblin is noticed, and the watch ends. -/
theorem offered_iff_fits_watch :
    let noticed := watchSession.happen (.ingest (floodChunk 1))
    ∃ t ∈ watchSession.tasks, t.held = false ∧ t.lost = false ∧
      Stream.Command.firstFault? (watchSession.readChunk (floodChunk 1)).2 = none ∧
      (∃ left, (History.of t.id (noticed.history (turns [1]))).filterMap Moment.line? ++ left =
        watchSession.waitingLines (floodChunk 1) t) ∧
      [Moment.offered t.script "goblin".toList] <+: History.of t.id (noticed.history (turns [1])) ∧
      (noticed.after (turns [1])).tasks.length = 0 := by
  intro noticed
  obtain ⟨t, htasks⟩ := List.length_eq_one_iff.mp
    (show watchSession.tasks.length = 1 by decide +kernel)
  have hfacts : ∀ t ∈ watchSession.tasks, t.held = false ∧ t.lost = false ∧
      watchSession.waitingLines (floodChunk 1) t = ["goblin".toList, ['.']] ∧
      watchSession.missedLines (floodChunk 1) t = [] ∧ t.script.status.listens = true ∧
      t.isDue watchSession.now = false ∧
      (Script.hit? t.script.awaited "goblin".toList).isSome = true := by
    decide +kernel
  have ht : t ∈ watchSession.tasks := by simp [htasks]
  obtain ⟨hheld, hlost, hwaiting, hmissed, hlistens, hdue, hhit⟩ := hfacts t ht
  have hsound : Stream.Command.firstFault? (watchSession.readChunk (floodChunk 1)).2 = none := by
    decide +kernel
  have hended : (noticed.after (turns [1])).tasks.length = 0 := by decide +kernel
  obtain ⟨-, -, hturns⟩ :=
    offered_iff_fits {} watchLibrary Regex.Error.message usualAllowance watchCourse (floodChunk 1) t
      ht hheld hlost hsound
  obtain ⟨⟨left, -, hall, -⟩, -, hreaches⟩ := hturns [1]
  have hfits : (watchSession.waitingLines (floodChunk 1) t).length ≤ keptLines := by
    rw [hwaiting]
    decide
  have hlines : watchSession.waitingLines (floodChunk 1) t =
      watchSession.missedLines (floodChunk 1) t ++ ([] ++ "goblin".toList :: [['.']]) := by
    rw [hwaiting, hmissed]
    rfl
  obtain ⟨hreached | ⟨-, t', ht', -⟩, -⟩ :=
    hreaches [] "goblin".toList [['.']] hlines hlistens hdue nofun hhit
  · exact ⟨t, ht, hheld, hlost, hsound, ⟨left, hall.mpr hfits⟩, hreached, hended⟩
  · exact absurd hended (Nat.ne_of_gt (List.length_pos_of_mem ht'))

/-- The turns that the watch has until it rests. -/
def watchTurns : List Happening :=
  turns (List.replicate 256 1)

/-- Among too many lines, the goblin is missed, and the watch goes on. -/
theorem flood_missed :
    let flooded := watchSession.happen (.ingest (floodChunk 256))
    watchSession.AtRest ∧
    watchSession.tasks.map (fun t => (t.id, t.held, t.lost, t.script.status)) =
      [(1, false, false, .waitingFor)] ∧
    (watchSession.tasks.map fun t => (Script.hit? t.script.awaited "goblin").isSome) = [true] ∧
    watchSession.linesOf (floodChunk 256) = "goblin".toList :: List.replicate 256 ['.'] ∧
    (History.of 1 (flooded.history watchTurns)).filterMap Moment.line? =
      List.replicate 256 ['.'] ∧
    (flooded.after watchTurns).AtRest ∧
    (flooded.after watchTurns).tasks.map (fun t => (t.id, t.held, t.lost, t.script.status)) =
      [(1, false, false, .waitingFor)] := by
  decide +kernel

/-- So a script that goes on waiting is not always offered all the lines of a chunk. -/
theorem not_always_offered :
    ¬∀ (c : Configuration) (library : Script.Library) (report : Regex.Error → Text)
        (allowance : Nat) (es : List Happening) (chunk : Text) (ids : List Nat),
      let s := (fresh c library report allowance).after es
      let s' := (s.happen (.ingest chunk)).after (turns ids)
      s.AtRest → s'.AtRest → ∀ t ∈ s.tasks, t.held = false → t.lost = false →
        (∃ t' ∈ s'.tasks, t'.id = t.id ∧ t'.lost = false ∧ t'.script.status.listens = true) →
        (History.of t.id ((s.happen (.ingest chunk)).history (turns ids))).filterMap Moment.line? =
          s.linesOf chunk := by
  intro h
  obtain ⟨hrest, hbefore, -, hlines, hoffered, hrest', hafter⟩ := flood_missed
  obtain ⟨t, ht, hfacts⟩ := List.mem_map.mp
    (hbefore ▸ List.mem_singleton_self (1, false, false, Script.Status.waitingFor))
  obtain ⟨t', ht', hfacts'⟩ := List.mem_map.mp
    (hafter ▸ List.mem_singleton_self (1, false, false, Script.Status.waitingFor))
  simp only [Prod.mk.injEq] at hfacts hfacts'
  have hwaits : t'.script.status.listens = true := by
    rw [hfacts'.2.2.2]
    rfl
  have hall := h {} watchLibrary Regex.Error.message usualAllowance watchCourse (floodChunk 256)
    (List.replicate 256 1) hrest hrest' t ht hfacts.2.1 hfacts.2.2.1
    ⟨t', ht', hfacts'.1.trans hfacts.1.symm, hfacts'.2.2.1, hwaits⟩
  rw [hfacts.1] at hall
  have hlength := congrArg List.length (hoffered.symm.trans (hall.trans hlines))
  rw [List.length_cons] at hlength
  omega

end Mudline.Session
