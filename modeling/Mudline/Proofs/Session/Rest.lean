import Mudline.Proofs.Session.Absence

/-!
# Steps without a task

In a step, the tasks have turns until all of them rest. If one task is never started, there may be
fewer rounds, and the clock stops less often. That makes no difference, since a task that rests has
nothing to do in its turn. So if all tasks come to rest in every step, the steps that are left lead
to the session without the task that is left out.
-/

namespace Mudline.Session

/-- While the clock moves on to `last`, all tasks come to rest wherever it stops. -/
def RestsOnTheWay (s : Session) (last : Nat) : Nat → Prop
  | 0 => True
  | n + 1 => ∀ m ∈ s.nextMoment?, m ≤ last →
    { s with now := max s.now m }.settle.AtRest ∧
      { s with now := max s.now m }.settle.RestsOnTheWay last n

/-- All tasks come to rest in a step: at its end, and wherever the clock stops before. -/
def Settles (s : Session) (a : Step) : Prop :=
  (s.step a).AtRest ∧
    match a with
    | .sleep millis => s.RestsOnTheWay (s.now + millis) millis
    | .ingest _ | .start _ _ | .control _ _ | .stopAll | .setGlobal _ _ => True

/-- All tasks come to rest in each of several steps. -/
def AllSettle (s : Session) : List Step → Prop
  | [] => True
  | a :: rest => s.Settles a ∧ (s.step a).AllSettle rest

/-- Tests whether all tasks come to rest while the clock moves on. -/
def decideRestsOnTheWay (s : Session) (last : Nat) : (n : Nat) → Decidable (s.RestsOnTheWay last n)
  | 0 => .isTrue trivial
  | n + 1 =>
    have := fun s : Session => s.decideRestsOnTheWay last n
    inferInstanceAs (Decidable (∀ m ∈ s.nextMoment?, m ≤ last →
      { s with now := max s.now m }.settle.AtRest ∧
        { s with now := max s.now m }.settle.RestsOnTheWay last n))

instance (s : Session) (last n : Nat) : Decidable (s.RestsOnTheWay last n) :=
  s.decideRestsOnTheWay last n

instance (s : Session) (a : Step) : Decidable (s.Settles a) :=
  match a with
  | .sleep _ => inferInstanceAs (Decidable (_ ∧ _))
  | .ingest _ | .start _ _ | .control _ _ | .stopAll | .setGlobal _ _ =>
    inferInstanceAs (Decidable (_ ∧ True))

/-- Tests whether all tasks come to rest in each of several steps. -/
def decideAllSettle (s : Session) : (steps : List Step) → Decidable (s.AllSettle steps)
  | [] => .isTrue trivial
  | a :: rest =>
    have := (s.step a).decideAllSettle rest
    inferInstanceAs (Decidable (s.Settles a ∧ (s.step a).AllSettle rest))

instance (s : Session) (steps : List Step) : Decidable (s.AllSettle steps) :=
  s.decideAllSettle steps

/-- What is left of a step if a task is never started. -/
def Step.without (b : Nat) : Step → Option Step
  | .control c id => if id = b then none else some (.control c (renumbered b id))
  | a => some a

section AtRest

variable {s : Session}

/-- Whether all tasks rest is what is tested before a round. -/
theorem atRest_iff : s.atRest = true ↔ s.AtRest :=
  List.all_eq_true

/-- All tasks rest until the first moment for which one of them waits. -/
theorem AtRest.tick (hs : s.AtRest) {m : Nat} (hm : ∀ d, s.Awaits d → m < d) :
    { s with now := m }.AtRest := by
  intro t ht
  rcases Task.rests_iff.mp (hs t ht) with hlost | ⟨hready, -, hlines⟩
  · exact Task.rests_iff.mpr (.inl hlost)
  · refine Task.rests_iff.mpr (.inr ⟨hready, ?_, hlines⟩)
    rw [Bool.eq_false_iff]
    intro hdue
    obtain ⟨d, hd, hover⟩ := Task.isDue_iff.mp hdue
    exact Nat.not_lt.mpr hover (hm d ⟨t, ht, hd⟩)

/-- If all tasks rest, a turn changes nothing. -/
theorem AtRest.turn (hs : s.AtRest) (hr : s.Registered) (id : Nat) : s.turn id = s := by
  rw [Session.turn]
  cases htask : s.task? id with
  | none => rfl
  | some t =>
    obtain ⟨ht, -, -⟩ := of_task? htask
    have htasks : (s.tasks.filterMap fun v => if v.id == t.id then some t else some v) =
        s.tasks.filterMap some := by
      refine List.filterMap_congr fun v hv => ?_
      split
      · rename_i hsame
        rw [hr.eq_of_id hv ht (beq_iff_eq.mp hsame)]
      · rfl
    rw [List.filterMap_some] at htasks
    dsimp only
    rw [Task.turn_of_rests (hs t ht), replace, htasks, List.map_nil, List.append_nil]

/-- Nor does a round of turns. -/
theorem AtRest.round (hs : s.AtRest) (hr : s.Registered) : s.round = s := by
  rw [Session.round]
  generalize s.tasks.map (·.id) = ids
  induction ids with
  | nil => rfl
  | cons id ids ih => rw [List.foldl_cons, hs.turn hr, ih]

/-- If all tasks rest, there is no round. -/
theorem AtRest.settleFor (hs : s.AtRest) (n : Nat) : s.settleFor n = s := by
  cases n with
  | zero => rfl
  | succ n => rw [Session.settleFor, if_pos (atRest_iff.mpr hs)]

end AtRest

section Clock

variable {s : Session} {last : Nat}

/-- If no task waits for a moment up to `last`, the clock goes there at once. -/
theorem advance_of_later (hlater : ∀ d, s.Awaits d → last < d) (hlast : s.now ≤ last)
    {n : Nat} (hn : last ≤ s.now + n) : s.advance last n = { s with now := last } := by
  cases n with
  | zero =>
    obtain rfl := Nat.le_antisymm hlast hn
    rfl
  | succ n =>
    rw [advance]
    cases hnext : s.nextMoment? with
    | none => rfl
    | some m => exact if_pos (hlater m (nextMoment?_eq_some_iff.mp hnext).1)

/-- The clock may stop at a moment that is earlier than all those for which the tasks wait. -/
theorem advance_of_stop {m : Nat} (hforward : s.now ≤ m) (hlater : ∀ d, s.Awaits d → m < d)
    (n : Nat) : s.advance last (n + 1) = { s with now := m }.advance last (n + 1) := by
  have hsame : { s with now := m }.nextMoment? = s.nextMoment? := rfl
  rw [advance, advance, hsame]
  cases hnext : s.nextMoment? with
  | none => rfl
  | some d =>
    have hmd := hlater d (nextMoment?_eq_some_iff.mp hnext).1
    have hmax : max s.now d = max m d := by omega
    dsimp only
    rw [hmax]

/-- The clock goes on from the first moment for which a task waits. -/
theorem advance_of_nextMoment? {m : Nat} (hnext : s.nextMoment? = some m) (hforward : s.now ≤ m)
    (hm : m ≤ last) (n : Nat) :
    s.advance last (n + 1) = { s with now := m }.settle.advance last n := by
  rw [advance, hnext]
  dsimp only
  rw [if_neg (Nat.not_lt.mpr hm), Nat.max_eq_right hforward]

end Clock

/-- The number of a task has been given, and the numbers are in order. -/
structure Gave (s : Session) (b : Nat) : Prop where
  /-- The numbers are in order. -/
  registered : s.Registered
  /-- The number is not a new one. -/
  given : b < s.nextId

section Without

variable {b : Nat} {s : Session}

/-- No course takes a number back. -/
theorem Gave.after (hs : s.Gave b) (es : List Happening) : (s.after es).Gave b :=
  after_induction (P := fun s => s.Gave b) (fun s e h =>
    ⟨h.registered.happen e, Nat.lt_of_lt_of_le h.given (nextId_le_happen s e)⟩) hs es

/-- No turns do. -/
theorem Gave.settle (hs : s.Gave b) : s.settle.Gave b :=
  settle_eq s ▸ hs.after _

/-- No step does. -/
theorem Gave.step (hs : s.Gave b) (a : Step) : (s.step a).Gave b :=
  after_course s a ▸ hs.after _

/-- Without a task, the numbers are in order. -/
theorem Gave.registered_without (hs : s.Gave b) : (s.without b).Registered := by
  have hids : (s.without b).ids = (s.ids.filter (· != b)).map (renumbered b) := by
    simp [ids, Session.without, leaveOut, List.filter_map, Function.comp_def, Task.renumber]
  constructor
  · rw [hids, List.pairwise_map]
    refine (hs.registered.increasing.sublist List.filter_sublist).imp_of_mem fun hi hj hlt => ?_
    have hi' := List.of_mem_filter hi
    have hj' := List.of_mem_filter hj
    simp only [bne_iff_ne, ne_eq] at hi' hj'
    simp only [renumbered]
    split <;> split <;> omega
  · intro id hid
    rw [hids, List.mem_map] at hid
    obtain ⟨i, hi, rfl⟩ := hid
    obtain ⟨hmem, hne⟩ := List.mem_filter.mp hi
    have hold := hs.registered.given i hmem
    have hgiven := hs.given
    simp only [bne_iff_ne, ne_eq] at hne
    change renumbered b i < s.nextId - 1
    simp only [renumbered]
    split <;> omega

/-- If the same is done to every task, it is done to all those that are left. -/
theorem filterMap_each {f : Nat → Happening}
    (hf : ∀ id, (f id).without b = if id = b then none else some (f (renumbered b id)))
    (ts : List Task) :
    (ts.map fun t => f t.id).filterMap (Happening.without b) =
      (leaveOut b ts).map fun t => f t.id := by
  induction ts with
  | nil => rfl
  | cons t ts ih =>
    rw [List.map_cons]
    by_cases ht : t.id = b
    · rw [List.filterMap_cons_none ((hf t.id).trans (if_pos ht)), leaveOut_cons_self ht, ih]
    · rw [List.filterMap_cons_some ((hf t.id).trans (if_neg ht)), leaveOut_cons_of_ne ht, ih]
      rfl

/-- A round goes as if the task that is left out had never been there. -/
theorem without_round (hs : s.Gave b)
    (hquiet : s.SharesNothing b (Session.turns (s.tasks.map (·.id)))) :
    s.round.without b = (s.without b).round := by
  have hturns : (Session.turns (s.tasks.map (·.id))).filterMap (Happening.without b) =
      Session.turns ((s.without b).tasks.map (·.id)) := by
    rw [Session.turns, Session.turns, List.map_map, List.map_map]
    exact filterMap_each (fun _ => rfl) s.tasks
  rw [round, round, ← after_turns, ← after_turns, without_after hs.given hquiet, hturns]

/-- So do all rounds until all tasks rest, though there may be fewer of them. -/
theorem without_settleFor (hs : s.Gave b) {n : Nat}
    (hquiet : s.SharesNothing b (Session.turns (s.turnsFor n))) :
    (s.settleFor n).without b = (s.without b).settleFor n := by
  induction n generalizing s with
  | zero => rfl
  | succ n ih =>
    rw [settleFor]
    cases hrest : s.atRest with
    | true =>
      have hleft := (atRest_iff.mp hrest).without b
      rw [if_pos rfl, hleft.settleFor]
    | false =>
      have hround : s.after (Session.turns (s.tasks.map (·.id))) = s.round := after_turns s _
      rw [turnsFor, hrest, if_neg (by simp), Session.turns, List.map_append] at hquiet
      obtain ⟨hnow, hlater⟩ := sharesNothing_append.mp hquiet
      change (s.after (Session.turns (s.tasks.map (·.id)))).SharesNothing b _ at hlater
      rw [hround] at hlater
      rw [if_neg (by simp), ih (hround ▸ hs.after _) hlater, without_round hs hnow, settleFor]
      -- Those that are left may rest already, and then the round has changed nothing.
      split
      · rename_i hleft
        rw [atRest_iff] at hleft
        rw [hleft.round hs.registered_without, hleft.settleFor]
      · rfl

/-- The tasks settle as if the task that is left out had never been there. -/
theorem without_settle (hs : s.Gave b) (hquiet : s.SharesNothing b s.settling) :
    s.settle.without b = (s.without b).settle :=
  without_settleFor hs hquiet

/-- The tasks that are left wait for moments for which they waited before. -/
theorem awaits_of_without {d : Nat} (hd : (s.without b).Awaits d) : s.Awaits d := by
  obtain ⟨u, hu, hawaited⟩ := hd
  obtain ⟨t, ht, -, rfl⟩ := mem_leaveOut.mp hu
  exact ⟨t, ht, hawaited⟩

/-- If all tasks rest, the first moment for which one of them waits may be one for which only the
task that is left out does. Then the clock may stop there all the same, and nothing happens. -/
theorem advance_without (hrest : s.AtRest) {m last : Nat} (hnext : s.nextMoment? = some m)
    (hm : m ≤ last) {n : Nat} (hn : last ≤ s.now + n) :
    ∃ k, last ≤ m + k ∧
      (s.without b).advance last n = { s.without b with now := m }.settle.advance last k := by
  obtain ⟨hawaited, hfirst⟩ := nextMoment?_eq_some_iff.mp hnext
  have hforward : s.now < m := hrest.lt_awaited hawaited
  obtain ⟨k, rfl⟩ : ∃ k, n = k + 1 := ⟨n - 1, by omega⟩
  by_cases hleft : (s.without b).Awaits m
  · have hsame : (s.without b).nextMoment? = some m :=
      nextMoment?_eq_some_iff.mpr ⟨hleft, fun d hd => hfirst d (awaits_of_without hd)⟩
    exact ⟨k, by omega, advance_of_nextMoment? hsame (Nat.le_of_lt hforward) hm k⟩
  · have hlater : ∀ d, (s.without b).Awaits d → m < d := fun d hd =>
      Nat.lt_of_le_of_ne (hfirst d (awaits_of_without hd)) fun h => hleft (h ▸ hd)
    have hstill : { s.without b with now := m }.settle = { s.without b with now := m } :=
      ((hrest.without b).tick hlater).settleFor _
    refine ⟨k + 1, by omega, ?_⟩
    rw [hstill]
    exact advance_of_stop (s := s.without b) (Nat.le_of_lt hforward) hlater k

/-- The clock moves on as if the task that is left out had never been there. -/
theorem without_advance (hs : s.Gave b) (hrest : s.AtRest) {last n n' : Nat}
    (hlast : s.now ≤ last) (hn : last ≤ s.now + n) (hn' : last ≤ s.now + n')
    (hway : s.RestsOnTheWay last n) (hquiet : s.SharesNothing b (s.advancing last n)) :
    (s.advance last n).without b = (s.without b).advance last n' := by
  have hfree {s : Session} (hlater : ∀ d, s.Awaits d → last < d) {n n' : Nat}
      (hlast : s.now ≤ last) (hn : last ≤ s.now + n) (hn' : last ≤ s.now + n') :
      (s.advance last n).without b = (s.without b).advance last n' := by
    have hleft : ∀ d, (s.without b).Awaits d → last < d :=
      fun d hd => hlater d (awaits_of_without hd)
    rw [advance_of_later hlater hlast hn, advance_of_later hleft hlast hn']
    rfl
  -- At every stop the clock has gone on by a millisecond at least, so neither session runs out of
  -- steps, though the one without the task may stop less often and need fewer of them.
  induction n generalizing s n' with
  | zero =>
    have hnow := Nat.le_antisymm hlast hn
    exact hfree (fun d hd => hnow ▸ hrest.lt_awaited hd) hlast hn hn'
  | succ n ih =>
    cases hnext : s.nextMoment? with
    | none => exact hfree (fun d hd => (nextMoment?_eq_none_iff.mp hnext d hd).elim) hlast hn hn'
    | some m =>
      obtain ⟨hawaited, hfirst⟩ := nextMoment?_eq_some_iff.mp hnext
      have hforward : s.now < m := hrest.lt_awaited hawaited
      by_cases hend : last < m
      · exact hfree (fun d hd => Nat.lt_of_lt_of_le hend (hfirst d hd)) hlast hn hn'
      · have hm := Nat.le_of_not_lt hend
        have hmax := Nat.max_eq_right (Nat.le_of_lt hforward)
        obtain ⟨hstop, hlater⟩ := hway m hnext hm
        rw [advancing, hnext] at hquiet
        dsimp only at hquiet
        rw [if_neg hend, SharesNothing, sharesNothing_append, happen, ← settle_eq] at hquiet
        rw [hmax] at hstop hlater hquiet
        obtain ⟨-, hquietNow, hquietLater⟩ := hquiet
        have hticked : ({ s with now := m } : Session).Gave b := hs.after [.tick m]
        obtain ⟨k, hk, hgoes⟩ := advance_without (b := b) hrest hnext hm hn'
        have hsettled : { s with now := m }.settle.without b =
            { s.without b with now := m }.settle := without_settle hticked hquietNow
        have hnow := settle_now { s with now := m }
        rw [advance_of_nextMoment? hnext (Nat.le_of_lt hforward) hm, hgoes, ← hsettled]
        refine ih hticked.settle hstop ?_ ?_ ?_ hlater hquietLater
        all_goals
          rw [hnow]
          dsimp only
          omega

/-- A step fails without the task that is left out if it fails with it. -/
theorem without_fails {a a' : Step} (ha : a.without b = some a') :
    (s.without b).fails a' = s.fails a := by
  cases a with
  | start name args =>
    obtain rfl := Option.some.inj ha
    have hload : Script.load (s.without b).library name (s.without b).globals
        (s.without b).scriptSettings = Script.load s.library name s.globals s.scriptSettings := rfl
    rw [fails, fails, launch_eq, launch_eq, hload]
    cases Script.load s.library name s.globals s.scriptSettings <;> rfl
  | control c id =>
    rw [Step.without] at ha
    split at ha
    · cases ha
    · rename_i hid
      obtain rfl := Option.some.inj ha
      rw [fails, fails, control, control, without_task? hid]
      cases s.task? id <;> rfl
  | ingest _ | stopAll | setGlobal _ _ | sleep _ =>
    obtain rfl := Option.some.inj ha
    rfl

/-- What is done in a step is done as if the task that is left out had never been there. -/
theorem without_begins (hs : s.Gave b) (hrest : s.AtRest) {a a' : Step}
    (ha : a.without b = some a') (hsettles : s.Settles a)
    (hquiet : s.SharesNothing b (s.begins a)) :
    (s.after (s.begins a)).without b = (s.without b).after ((s.without b).begins a') := by
  cases a with
  | ingest chunk =>
    obtain rfl := Option.some.inj ha
    exact without_happen (e := .ingest chunk) hs.given rfl
  | start name args =>
    obtain rfl := Option.some.inj ha
    exact without_happen (e := .start name args) hs.given rfl
  | setGlobal name value =>
    obtain rfl := Option.some.inj ha
    exact without_happen (e := .setGlobal name value) hs.given rfl
  | control c id =>
    rw [Step.without] at ha
    split at ha
    · cases ha
    · rename_i hid
      obtain rfl := Option.some.inj ha
      exact without_happen (e := .control c id) hs.given (if_neg hid)
  | stopAll =>
    obtain rfl := Option.some.inj ha
    rw [without_after hs.given hquiet]
    exact congrArg _ (filterMap_each (f := .control .stop) (fun _ => rfl) s.tasks)
  | sleep millis =>
    obtain rfl := Option.some.inj ha
    rw [begins, begins, after_advancing, after_advancing]
    have hlast : s.now ≤ s.now + millis := Nat.le_add_right s.now millis
    exact without_advance hs hrest hlast (Nat.le_refl _) (Nat.le_refl _) hsettles.2 hquiet

/-- A step that is left out tells the task that is left out something. -/
theorem Step.eq_control_of_without {a : Step} (ha : a.without b = none) : ∃ c, a = .control c b := by
  cases a with
  | control c id =>
    rw [Step.without] at ha
    split at ha
    · rename_i hid
      exact ⟨c, by rw [hid]⟩
    · cases ha
  | ingest _ | start _ _ | stopAll | setGlobal _ _ | sleep _ => cases ha

/-- A step goes as if the task that is left out had never been there, and one that is done to this
task alone changes nothing without it. -/
theorem without_step (hs : s.Gave b) (hrest : s.AtRest) {a : Step}
    (hsettles : s.Settles a) (hquiet : s.SharesNothing b (s.course a)) :
    (s.step a).without b = (s.without b).afterSteps (a.without b).toList := by
  rw [step_eq]
  rw [course] at hquiet
  cases hfails : s.fails a with
  | true =>
    rw [if_pos rfl]
    cases ha : a.without b with
    | none => rfl
    | some a' =>
      change s.without b = (s.without b).step a'
      rw [step_eq, without_fails ha, hfails, if_pos rfl]
  | false =>
    rw [hfails, if_neg (by simp), sharesNothing_append] at hquiet
    obtain ⟨hbegins, hsettling⟩ := hquiet
    rw [if_neg (by simp), without_settle (hs.after _) hsettling]
    cases ha : a.without b with
    | some a' =>
      change _ = (s.without b).step a'
      rw [step_eq, without_fails ha, hfails, if_neg (by simp),
        without_begins hs hrest ha hsettles hbegins]
    | none =>
      obtain ⟨c, rfl⟩ := Step.eq_control_of_without ha
      have hcontrol : (s.happen (.control c b)).without b = s.without b :=
        without_happen_self (if_pos rfl) fun h => by cases h
      change ((s.happen (.control c b)).without b).settle = s.without b
      rw [hcontrol]
      exact (hrest.without b).settleFor _

/-- If all tasks come to rest in every step, the steps that are left lead to the session without the
task that is left out. -/
theorem without_afterSteps (hs : s.Gave b) (hrest : s.AtRest) {steps : List Step}
    (hsettle : s.AllSettle steps)
    (hquiet : s.SharesNothing b (s.courses steps)) :
    (s.afterSteps steps).without b =
      (s.without b).afterSteps (steps.filterMap (Step.without b)) := by
  induction steps generalizing s with
  | nil => rfl
  | cons a steps ih =>
    rw [courses, sharesNothing_append, after_course] at hquiet
    have hlater := ih (hs.step a) hsettle.1.1 hsettle.2 hquiet.2
    rw [without_step hs hrest hsettle.1 hquiet.1] at hlater
    change ((s.step a).afterSteps steps).without b = _
    rw [hlater, ← afterSteps_append]
    cases ha : a.without b with
    | none =>
      rw [List.filterMap_cons_none ha]
      rfl
    | some a' =>
      rw [List.filterMap_cons_some ha]
      rfl

/-- When a task has just been started and has settled, without it the session is as before. -/
theorem without_step_start (hs : s.Registered) (hevents : ∀ e ∈ s.events, e.1 < s.nextId)
    (hrest : s.AtRest) {name : Text} {args : List Text}
    (hgiven : s.given? (.start name args) = some b)
    (hquiet : s.SharesNothing b (s.course (.start name args))) :
    (s.step (.start name args)).Gave b ∧ (s.step (.start name args)).without b = s := by
  have hfails : s.fails (.start name args) = false := by
    rw [given?] at hgiven
    rw [fails]
    cases hlaunch : s.launch name args with
    | error e =>
      rw [hlaunch] at hgiven
      cases hgiven
    | ok launched => rfl
  obtain ⟨hb, hsame⟩ := without_start hs hevents hgiven
  rw [course, hfails, if_neg (by simp), sharesNothing_append] at hquiet
  rw [step_eq, hfails, if_neg (by simp)]
  have hgave : (s.happen (.start name args)).Gave b := ⟨hs.happen _, hb⟩
  change (s.happen (.start name args)).settle.Gave b ∧
    (s.happen (.start name args)).settle.without b = s
  refine ⟨hgave.settle, ?_⟩
  rw [without_settle hgave hquiet.2, hsame]
  exact hrest.settleFor _

/-- All tasks come to rest in several steps if they do so in one part and then in the other. -/
theorem allSettle_append {steps more : List Step} :
    s.AllSettle (steps ++ more) ↔ s.AllSettle steps ∧ (s.afterSteps steps).AllSettle more := by
  induction steps generalizing s with
  | nil => simp [AllSettle, afterSteps]
  | cons a steps ih => simp [AllSettle, ih, and_assoc, afterSteps]

/-- If all tasks come to rest in every step, they rest at the end. -/
theorem AllSettle.atRest (hrest : s.AtRest) {steps : List Step} (hsettle : s.AllSettle steps) :
    (s.afterSteps steps).AtRest := by
  induction steps generalizing s with
  | nil => exact hrest
  | cons a steps ih => exact ih hsettle.1.1 hsettle.2

end Without

end Mudline.Session
