import Mudline.Proofs.Session.Registry

/-!
# Tasks with nothing left to say

After a turn a task is quiet: its script has not ended and has nothing to say that was not taken.
The one exception is a script that a line has sent to a label that it does not have. It ends between
two slices, and since no slice follows, nobody takes its complaint or its task away. It stays like
that, so that the moments of a task tell whether it is quiet. The moments of a session account in
the same way for all that has come out of it.
-/

namespace Mudline.Session

/-- The moments of a task in two histories are those of the first and then those of the second. -/
@[simp] theorem History.of_append (id : Nat) (h k : History) :
    History.of id (h ++ k) = History.of id h ++ History.of id k :=
  List.filterMap_append

/-- The moments of a task are those that the history has under its number. -/
theorem History.mem_of {id : Nat} {h : History} {m : Moment} :
    m ∈ History.of id h ↔ (id, m) ∈ h := by
  simp [History.of]

/-- Where all moments have the number of a task, all of them are its own. -/
@[simp] theorem History.of_map_self (id : Nat) (ms : List Moment) :
    History.of id (ms.map (id, ·)) = ms := by
  simp [History.of, List.filterMap_map]

/-- Where no moment has the number of a task, none is its own. -/
theorem History.of_eq_nil {id : Nat} {h : History} (hid : ∀ e ∈ h, e.1 ≠ id) :
    History.of id h = [] := by
  rw [History.of, List.filterMap_eq_nil_iff]
  rintro ⟨i, m⟩ he
  exact if_neg (hid (i, m) he)

/-- What is said in two histories is said in the first and then in the second. -/
@[simp] theorem History.said_append (h k : History) :
    History.said (h ++ k) = h.said ++ k.said :=
  List.flatMap_append

/-- What is said at the moments of one task comes under its number. -/
@[simp] theorem History.said_map (id : Nat) (ms : List Moment) :
    History.said (ms.map (id, ·)) = (ms.flatMap Moment.said).map (id, ·) := by
  simp [History.said, List.flatMap_map, List.map_flatMap]

/-- The script of a task goes on, and what it had to say has been taken. -/
def Task.IsQuiet (t : Task) : Prop :=
  t.script.status ≠ .finished ∧ t.script.events = []

/-- The script of a task has ended and has something to say. -/
def Task.IsStranded (t : Task) : Prop :=
  t.script.status = .finished ∧ t.script.events ≠ []

/-- A task is quiet if no line has stranded its script, and stranded if one has. Nothing is said
about a task that was given up. -/
def Task.Fits (t : Task) (ms : List Moment) : Prop :=
  t.lost = false →
    t.IsQuiet ∧ (∀ m ∈ ms, ¬m.Strands) ∨ t.IsStranded ∧ ∃ m ∈ ms, m.Strands

namespace Task

variable {t u : Task} {now : Nat} {globals : Store} {ms earlier : List Moment}

/-- A script that is quiet stays so when it is woken. -/
theorem IsQuiet.wake (h : t.IsQuiet) : t.wake.IsQuiet := by
  rcases t.wake_script with ⟨awaited, hruns, -⟩ | hsame
  · rw [IsQuiet, hruns]
    exact ⟨by simp, h.2⟩
  · rwa [IsQuiet, hsame]

/-- A script that has ended is not woken. -/
theorem IsStranded.wake (h : t.IsStranded) : t.wake.IsStranded := by
  rcases t.wake_script with ⟨-, -, halive⟩ | hsame
  · exact absurd h.1 halive
  · rwa [IsStranded, hsame]

/-- Taking up what has come is told by its moments, those before among them. -/
theorem Attends.fits (h : Attends now t u ms) (hfits : t.Fits earlier) :
    u.Fits (earlier ++ ms) := by
  intro hlost
  have hfits' := hfits (h.frame.2.2 ▸ hlost)
  cases h with
  | nothing | drop =>
    rw [List.append_nil]
    exact hfits'
  | wake hready hdue =>
    rw [List.append_nil]
    exact hfits'.imp (fun h => ⟨h.1.wake, h.2⟩) fun h => ⟨h.1.wake, h.2⟩
  | @offer line rest hlives hheld hready hdue hlines =>
    rcases hfits' with ⟨hquiet, hfree⟩ | ⟨hstranded, m, hm, hstrands⟩
    · rcases feed_cases t.script line with ⟨hharmless, hsame | ⟨hruns, hsilent⟩⟩ |
        ⟨hstrands, hended⟩
      · refine .inl ⟨?_, List.forall_mem_append.mpr ⟨hfree, by simpa using hharmless⟩⟩
        rwa [IsQuiet, hsame]
      · refine .inl ⟨?_, List.forall_mem_append.mpr ⟨hfree, by simpa using hharmless⟩⟩
        exact ⟨by simp [hruns], hsilent.trans hquiet.2⟩
      · exact .inr ⟨hended, _, by simp, hstrands⟩
    · -- A script that has ended waits for no line.
      have hsame : (t.script.feed line).1 = t.script := by
        have hdeaf : t.script.status.listens = false := by rw [hstranded.1]; rfl
        simp [Script.feed, hdeaf]
      refine .inr ⟨?_, m, List.mem_append_left _ hm, hstrands⟩
      rwa [IsStranded, hsame]

/-- Whatever a slice leaves in its task has not ended, and what it had to say has been taken. -/
theorem isQuiet_of_runSlice (h : (t.runSlice now globals).task = some u) (hlost : u.lost = false) :
    u.IsQuiet := by
  rcases t.runSlice_cases now globals with ⟨-, hturn⟩ | ⟨-, s, es, hturn⟩ | ⟨hgoes, d, hturn⟩
  · simp [hturn] at h
  · obtain rfl : t.lose s = u := by simpa [hturn] using h
    simp [lose] at hlost
  · obtain rfl : { t with script := (t.ranScript globals).drain.1, deadline := d } = u := by
      simpa [hturn] using h
    exact ⟨hgoes, rfl⟩

/-- Whether a task is quiet after a turn is told by its moments, those of the turn among them. -/
theorem fits_turn (hfits : t.Fits earlier) (h : (t.turn now globals).task = some u) :
    u.Fits (earlier ++ t.turnMoments now globals) := by
  have hattended := (t.attends now).fits hfits
  cases hready : (t.attend now).isReady with
  | false =>
    rw [turn_of_not_ready hready] at h
    obtain rfl := Option.some.inj h
    simpa [turnMoments, hready] using hattended
  | true =>
    rw [turn_of_ready hready] at h
    intro hlost
    obtain ⟨hlives, -, hrunning⟩ := isReady_iff.mp hready
    rcases hattended hlives with ⟨-, hfree⟩ | ⟨⟨hended, -⟩, -⟩
    · refine .inl ⟨isQuiet_of_runSlice h hlost, ?_⟩
      rw [turnMoments, if_pos hready, ← List.append_assoc]
      exact List.forall_mem_append.mpr ⟨hfree, by simp [Moment.Strands]⟩
    · rw [hrunning] at hended
      cases hended

/-- Nothing that is taken up is said. -/
theorem said_attendMoments (t : Task) (now : Nat) :
    (t.attendMoments now).flatMap Moment.said = [] := by
  rw [attendMoments]
  split
  · rfl
  · cases t.lines <;> rfl

/-- Unless its task is given up, what a script has to say in a turn comes out. -/
theorem events_turn (h : ∀ u ∈ (t.turn now globals).task, u.lost = false) :
    (t.turn now globals).events = (t.turnMoments now globals).flatMap Moment.said := by
  rw [turnMoments, List.flatMap_append, said_attendMoments, List.nil_append]
  cases hready : (t.attend now).isReady with
  | false =>
    rw [turn_of_not_ready hready]
    rfl
  | true =>
    rw [turn_of_ready hready] at h ⊢
    simp only [if_true, List.flatMap_cons, List.flatMap_nil, List.append_nil, Moment.said]
    rcases (t.attend now).runSlice_cases now globals with ⟨-, hturn⟩ | ⟨-, s, es, hturn⟩ |
      ⟨-, d, hturn⟩
    · rw [hturn]
    · have hgiven := h ((t.attend now).lose s) (by rw [hturn]; rfl)
      simp [lose] at hgiven
    · rw [hturn]

/-- A script that has ended in a slice has left its task. -/
theorem turn_task_of_ended {s : Script} (hs : .ran s ∈ t.turnMoments now globals)
    (hended : s.status = .finished) : (t.turn now globals).task = none := by
  rcases List.mem_append.mp hs with hattended | hran
  · rw [attendMoments] at hattended
    split at hattended
    · cases hattended
    · cases hlines : t.lines <;> simp [hlines] at hattended
  · split at hran
    · rename_i hready
      obtain rfl : s = (t.attend now).ranScript globals := by simpa using hran
      rw [turn_of_ready hready]
      rcases (t.attend now).runSlice_cases now globals with ⟨-, hturn⟩ | ⟨hgoes, -⟩ | ⟨hgoes, -⟩
      · rw [hturn]
      · exact absurd hended hgoes
      · exact absurd hended hgoes
    · cases hran

end Task

section Outcome

variable {s : Session} {t u : Task} {e : Happening}

/-- What becomes of a task is told by its moments, those of the happening among them. -/
theorem fits_outcome {earlier : List Moment} (hfits : t.Fits earlier)
    (h : (s.outcome t e).task = some u) : u.Fits (earlier ++ s.momentsOf t e) := by
  have hsame : t.Fits (earlier ++ []) := by rwa [List.append_nil]
  cases e with
  | turn i => exact Task.fits_turn hfits h
  | control c i =>
    cases c with
    | stop => cases h
    | pause | resume =>
      obtain rfl := Option.some.inj h
      exact hsame
  | ingest _ | start _ _ | setGlobal _ _ | tick _ =>
    obtain rfl := Option.some.inj h
    exact hsame

/-- Unless a task is given up, what its script has to say comes out. -/
theorem events_outcome (h : ∀ u ∈ (s.outcome t e).task, u.lost = false) :
    (s.outcome t e).events = (s.momentsOf t e).flatMap Moment.said := by
  cases e with
  | turn i => exact Task.events_turn h
  | control c i =>
    cases c with
    | stop => simp [outcome, momentsOf, Control.apply, Control.moments, Moment.said, Script.drain]
    | pause | resume => rfl
  | ingest _ | start _ _ | setGlobal _ _ | tick _ => rfl

/-- A script that has ended in a slice has left its task. -/
theorem outcome_of_ended {script : Script} (hs : .ran script ∈ s.momentsOf t e)
    (hended : script.status = .finished) : (s.outcome t e).task = none := by
  cases e with
  | turn i => exact Task.turn_task_of_ended hs hended
  | control c i => cases c <;> simp [momentsOf, Control.moments] at hs
  | ingest _ | start _ _ | setGlobal _ _ | tick _ => cases hs

end Outcome

/-- A history accounts for a session. -/
structure Recorded (s : Session) (h : History) : Prop where
  /-- The numbers are in order. -/
  registered : s.Registered
  /-- The moments are those of numbers that have been given. -/
  known : ∀ e ∈ h, e.1 < s.nextId
  /-- The moments of a task tell whether it is quiet. -/
  fits : ∀ t ∈ s.tasks, t.Fits (History.of t.id h)
  /-- A script that has ended in a slice is not listed. -/
  ended : ∀ id script, (id, .ran script) ∈ h → script.status = .finished →
    ∀ t ∈ s.tasks, t.id ≠ id
  /-- Unless a task is given up, what the scripts had to say has come out. -/
  said : (∀ t ∈ s.tasks, t.lost = false) → s.events = h.said

/-- A script that has been loaded and started has nothing to say yet and has not ended. -/
theorem isQuiet_start {library : Script.Library} {name : Text} {globals : Store}
    {settings : Script.Settings} {script : Script}
    (h : Script.load library name globals settings = .ok script) (args : List Text) :
    (script.start args).status ≠ .finished ∧ (script.start args).events = [] := by
  rw [Script.load] at h
  cases hlisting : Script.Listing.load library name with
  | error e =>
    rw [hlisting] at h
    cases h
  | ok listing =>
    rw [hlisting] at h
    obtain rfl := Except.ok.inj h
    exact ⟨by simp [Script.start], rfl⟩

namespace Recorded

variable {s : Session} {h : History}

/-- What becomes of one task is recorded. -/
theorem replace (hs : Recorded s h) {t : Task} (ht : t ∈ s.tasks) (hlost : t.lost = false)
    (e : Happening) (hregistered : (s.replace t (s.outcome t e)).Registered) :
    Recorded (s.replace t (s.outcome t e)) (h ++ (s.momentsOf t e).map (t.id, ·)) := by
  have hother {id : Nat} (hne : id ≠ t.id) :
      History.of id ((s.momentsOf t e).map (t.id, ·)) = [] := by
    refine History.of_eq_nil fun entry he => ?_
    obtain ⟨m, -, rfl⟩ := List.mem_map.mp he
    exact hne.symm
  refine ⟨hregistered, ?_, ?_, ?_, ?_⟩
  · intro entry he
    rcases List.mem_append.mp he with hearlier | hnew
    · exact hs.known entry hearlier
    · obtain ⟨m, -, rfl⟩ := List.mem_map.mp hnew
      exact hs.registered.given t.id (List.mem_map_of_mem ht)
  · intro u hu
    rw [History.of_append]
    rcases (mem_replace ht).mp hu with ⟨hu, hne⟩ | hbecomes
    · rw [hother hne, List.append_nil]
      exact hs.fits u hu
    · rw [outcome_id hbecomes, History.of_map_self]
      exact fits_outcome (hs.fits t ht) hbecomes
  · intro id script hran hended u hu
    rcases List.mem_append.mp hran with hearlier | hnew
    · rcases (mem_replace ht).mp hu with ⟨hu, -⟩ | hbecomes
      · exact hs.ended id script hearlier hended u hu
      · rw [outcome_id hbecomes]
        exact hs.ended id script hearlier hended t ht
    · obtain ⟨m, hm, hentry⟩ := List.mem_map.mp hnew
      obtain ⟨rfl, rfl⟩ := Prod.mk.inj hentry
      rcases (mem_replace ht).mp hu with ⟨-, hne⟩ | hbecomes
      · exact hne
      · rw [outcome_of_ended hm hended] at hbecomes
        cases hbecomes
  · intro hlives
    have hearlier := hs.said fun u hu => by
      by_cases hsame : u.id = t.id
      · rw [hs.registered.eq_of_id hu ht hsame]
        exact hlost
      · exact hlives u ((mem_replace ht).mpr (.inl ⟨hu, hsame⟩))
    have hsaid : (s.outcome t e).events = (s.momentsOf t e).flatMap Moment.said :=
      events_outcome fun u hu => hlives u ((mem_replace ht).mpr (.inr hu))
    rw [History.said_append, History.said_map, ← hearlier, ← hsaid]
    rfl

/-- Lines that come in are not recorded. -/
theorem withChunk (hs : Recorded s h) (chunk : Text)
    (hregistered : (s.withChunk chunk).Registered) : Recorded (s.withChunk chunk) h := by
  have hmem {u : Task} (hu : u ∈ (s.withChunk chunk).tasks) :
      ∃ t ∈ s.tasks, ∃ lines, u = { t with lines := lines } := by
    obtain ⟨t, ht, rfl⟩ := mem_withChunk.mp hu
    exact ⟨t, ht, exists_receive t _⟩
  refine ⟨hregistered, hs.known, ?_, ?_, ?_⟩
  · intro u hu
    obtain ⟨t, ht, lines, rfl⟩ := hmem hu
    exact hs.fits t ht
  · intro id script hran hended u hu
    obtain ⟨t, ht, lines, rfl⟩ := hmem hu
    exact hs.ended id script hran hended t ht
  · intro hlives
    refine hs.said fun t ht => ?_
    have hlost := hlives _ (mem_withChunk.mpr ⟨t, ht, rfl⟩)
    rwa [Task.receive_lost] at hlost

/-- A new task has no moments. -/
theorem withTask (hs : Recorded s h) (name : Text) {script : Script}
    (hquiet : script.status ≠ .finished ∧ script.events = [])
    (hregistered : (s.withTask name script).Registered) :
    Recorded (s.withTask name script) h := by
  have hnew : ∀ e ∈ h, e.1 ≠ s.nextId := fun e he heq =>
    absurd (hs.known e he) (by rw [heq]; exact Nat.lt_irrefl _)
  refine ⟨hregistered, fun e he => Nat.lt_succ_of_lt (hs.known e he), ?_, ?_, ?_⟩
  · intro t ht
    rcases List.mem_append.mp ht with hold | hlast
    · exact hs.fits t hold
    · rw [List.mem_singleton.mp hlast, History.of_eq_nil hnew]
      exact fun _ => .inl ⟨hquiet, by simp⟩
  · intro id script' hran hended t ht
    rcases List.mem_append.mp ht with hold | hlast
    · exact hs.ended id script' hran hended t hold
    · rw [List.mem_singleton.mp hlast]
      exact fun heq => hnew _ hran heq.symm
  · exact fun hlives => hs.said fun t ht => hlives t (List.mem_append_left _ ht)

/-- Whatever happens is recorded. -/
theorem happen (hs : Recorded s h) (e : Happening) : Recorded (s.happen e) (h ++ s.moments e) := by
  have hregistered := hs.registered.happen e
  have hhappens := s.happens e
  generalize s.happen e = s', s.moments e = ms at hhappens hregistered ⊢
  cases hhappens with
  | concerned ht hlost he => exact hs.replace ht hlost e hregistered
  | chunk chunk hsound => simpa using hs.withChunk chunk hregistered
  | @started name args script hload =>
    simpa using hs.withTask name (isQuiet_start hload args) hregistered
  | beside htasks hnext hevents =>
    rw [List.append_nil]
    refine ⟨hregistered, ?_, ?_, ?_, ?_⟩
    · exact hnext ▸ hs.known
    · exact htasks ▸ hs.fits
    · exact htasks ▸ hs.ended
    · rw [htasks, hevents]
      exact hs.said

/-- So is every course. -/
theorem after (hs : Recorded s h) (es : List Happening) :
    Recorded (s.after es) (h ++ s.history es) := by
  induction es generalizing s h with
  | nil => simpa [history] using hs
  | cons e es ih =>
    rw [history, ← List.append_assoc]
    exact ih (hs.happen e)

end Recorded

/-- A session that has just been made has no history. -/
theorem recorded_fresh (c : Configuration) (library : Script.Library)
    (report : Regex.Error → Text) (allowance : Nat) :
    Recorded (fresh c library report allowance) [] := by
  refine ⟨registered_fresh c library report allowance, ?_, ?_, ?_, ?_⟩ <;>
    simp [fresh, History.said]

/-- Whatever has happened to a session, whatever scripts it runs and in whatever order they have had
their turns, a task that was not given up is quiet exactly if no line has stranded its script, and
stranded exactly if one has. A script that has ended in a slice is no longer listed, and unless a
task was given up, everything that the scripts had to say in their slices and when they were stopped
has come out, in this order. -/
theorem quiet_iff_never_stranded (c : Configuration) (library : Script.Library)
    (report : Regex.Error → Text) (allowance : Nat) (es : List Happening) :
    let s := (fresh c library report allowance).after es
    let h := (fresh c library report allowance).history es
    (∀ t ∈ s.tasks, t.lost = false →
      (t.script.status ≠ .finished ∧ t.script.events = [] ↔ ∀ m, (t.id, m) ∈ h → ¬m.Strands) ∧
      (t.script.status = .finished ∧ t.script.events ≠ [] ↔ ∃ m, (t.id, m) ∈ h ∧ m.Strands)) ∧
    (∀ id script, (id, .ran script) ∈ h → script.status = .finished → ∀ t ∈ s.tasks, t.id ≠ id) ∧
    ((∀ t ∈ s.tasks, t.lost = false) → s.events = h.said) := by
  intro s h
  have hrecorded : Recorded s h := (recorded_fresh c library report allowance).after es
  refine ⟨?_, hrecorded.ended, hrecorded.said⟩
  intro t ht hlost
  have hmem {m : Moment} : m ∈ History.of t.id h ↔ (t.id, m) ∈ h := History.mem_of
  rcases hrecorded.fits t ht hlost with ⟨hquiet, hfree⟩ | ⟨hstranded, m, hm, hstrands⟩
  · refine ⟨⟨fun _ m hm => hfree m (hmem.mpr hm), fun _ => hquiet⟩, ?_, ?_⟩
    · exact fun h => absurd h.1 hquiet.1
    · rintro ⟨m, hm, hstrands⟩
      exact absurd hstrands (hfree m (hmem.mpr hm))
  · refine ⟨⟨?_, ?_⟩, fun _ => ⟨m, hmem.mp hm, hstrands⟩, fun _ => hstranded⟩
    · exact fun h => absurd hstranded.1 h.1
    · exact fun h => absurd hstrands (h m (hmem.mp hm))

/-- A script that waits for a goblin and then goes to a label that it does not have. -/
def huntLibrary : Script.Library := fun name =>
  if name = ['h'] then some ["match nowhere goblin", "matchwait"] else none

/-- The hunt starts, and a goblin comes. -/
def huntCourse : List Happening :=
  [.start ['h'] [], .turn 1, .ingest "A goblin arrives.\n", .turn 1]

/-- Nobody in the hunt is given up, so all that was said has come out. -/
theorem quiet_iff_never_stranded_hunt :
    let s := (new {} huntLibrary).after huntCourse
    (∀ t ∈ s.tasks, t.lost = false) ∧
      s.events = ((new {} huntLibrary).history huntCourse).said := by
  intro s
  have hlives : ∀ t ∈ s.tasks, t.lost = false := by decide +kernel
  obtain ⟨-, -, hsaid⟩ :=
    quiet_iff_never_stranded {} huntLibrary Regex.Error.message usualAllowance huntCourse
  exact ⟨hlives, hsaid hlives⟩

/-- The hunt is over and nothing is left to do, but it is still listed, and its complaint has not
come out. -/
theorem hunt_stranded :
    let s := (new {} huntLibrary).after huntCourse
    s.AtRest ∧ s.running = [(1, ['h'])] ∧ s.tasks.map (·.lost) = [false] ∧
    s.tasks.map (·.script.status) = [.finished] ∧
    s.tasks.map (·.script.events) = [[.echo "[h(2)]: label 'nowhere' not found\n"]] ∧
    s.events = [] := by
  decide +kernel

/-- So tasks that were not given up are not always quiet, even if all of them rest. -/
theorem not_always_quiet :
    ¬∀ (c : Configuration) (library : Script.Library) (report : Regex.Error → Text)
        (allowance : Nat) (es : List Happening),
      ((fresh c library report allowance).after es).AtRest →
      (∀ t ∈ ((fresh c library report allowance).after es).tasks, t.lost = false) →
        ∀ t ∈ ((fresh c library report allowance).after es).tasks,
          t.script.status ≠ .finished ∧ t.script.events = [] := by
  intro h
  obtain ⟨hrest, -, hlost, hstatus, -, -⟩ := hunt_stranded
  have hlives : ∀ t ∈ ((new {} huntLibrary).after huntCourse).tasks, t.lost = false := by
    intro t ht
    have hmem : t.lost ∈ ((new {} huntLibrary).after huntCourse).tasks.map (·.lost) :=
      List.mem_map_of_mem ht
    rw [hlost] at hmem
    exact List.mem_singleton.mp hmem
  obtain ⟨t, ht, hended⟩ : ∃ t ∈ ((new {} huntLibrary).after huntCourse).tasks,
      t.script.status = .finished :=
    List.mem_map.mp (by rw [hstatus]; exact List.mem_singleton_self _)
  have hquiet := h {} huntLibrary Regex.Error.message usualAllowance huntCourse hrest hlives t ht
  exact hquiet.1 hended

end Mudline.Session
