import Mudline.Proofs.Script.Sharing
import Mudline.Proofs.Session.Registry
import Mudline.Proofs.Session.Renumber

/-!
# What happens without a task

If one task is never started, what is left of a course is possible all the same and leads to the
session without this task, as long as its script sets no shared variable. The proof follows both
sessions: a happening that concerns the task that is left out changes nothing without it, and any
other leaves the two sessions alike.
-/

namespace Mudline.Session

/-- In a turn of a task, no line of its script sets a shared variable. -/
def Task.SharesNothing (t : Task) (now : Nat) (globals : Store) : Prop :=
  (t.attend now).isReady = true → ∀ k < sliceLength,
    ({ (t.attend now).script with globals := globals }.runFor k).setsShared = false

instance (t : Task) (now : Nat) (globals : Store) : Decidable (t.SharesNothing now globals) :=
  inferInstanceAs (Decidable ((t.attend now).isReady = true → ∀ k < sliceLength, _))

/-- In a course, the script of the task with a number sets no shared variable. -/
def SharesNothing (s : Session) (b : Nat) : List Happening → Prop
  | [] => True
  | e :: rest =>
    (e = .turn b → ∀ t ∈ s.task? b, t.SharesNothing s.now s.globals) ∧
      (s.happen e).SharesNothing b rest

/-- Tests whether a script sets no shared variable in a course. -/
def decideSharesNothing (s : Session) (b : Nat) :
    (es : List Happening) → Decidable (s.SharesNothing b es)
  | [] => .isTrue trivial
  | e :: rest =>
    have := (s.happen e).decideSharesNothing b rest
    inferInstanceAs (Decidable (_ ∧ (s.happen e).SharesNothing b rest))

instance (s : Session) (b : Nat) (es : List Happening) : Decidable (s.SharesNothing b es) :=
  s.decideSharesNothing b es

/-- What is left of a happening if a task is never started. -/
def Happening.without (b : Nat) : Happening → Option Happening
  | .control c id => if id = b then none else some (.control c (renumbered b id))
  | .turn id => if id = b then none else some (.turn (renumbered b id))
  | e => some e

variable {b : Nat} {s : Session}

/-- A script sets no shared variable in a course if it sets none in its parts. -/
theorem sharesNothing_append {es fs : List Happening} :
    s.SharesNothing b (es ++ fs) ↔ s.SharesNothing b es ∧ (s.after es).SharesNothing b fs := by
  induction es generalizing s with
  | nil => simp [SharesNothing]
  | cons e es ih => simp [SharesNothing, ih, and_assoc]

/-- A turn in which no line sets a shared variable leaves all as they are. -/
theorem Task.SharesNothing.globals {t : Task} {now : Nat} {globals : Store}
    (h : t.SharesNothing now globals) : (t.turn now globals).globals = globals := by
  cases hready : (t.attend now).isReady with
  | false => rw [turn_of_not_ready hready]
  | true =>
    rw [turn_of_ready hready, runSlice_globals_eq]
    exact Script.runFor_globals (h hready)

/-- A happening that is left out concerns the task that is left out. -/
theorem Happening.concerns?_of_without {e : Happening} (he : e.without b = none) :
    e.concerns? = some b := by
  cases e with
  | control c id | turn id =>
    rw [Happening.without] at he
    split at he
    · rename_i hid
      exact congrArg some hid
    · cases he
  | ingest _ | start _ _ | setGlobal _ _ | tick _ => cases he

/-- A happening that concerns the task that is left out changes nothing without it, if its script
sets no shared variable. -/
theorem without_happen_self {e : Happening} (he : e.without b = none)
    (hquiet : e = .turn b → ∀ t ∈ s.task? b, t.SharesNothing s.now s.globals) :
    (s.happen e).without b = s.without b := by
  rw [happen_of_concerns (Happening.concerns?_of_without he)]
  cases htask : s.task? b with
  | none => rfl
  | some t =>
    refine without_replace_self (of_task? htask).2.1 (fun t' ht' => outcome_id ht') ?_
    cases e with
    | turn id =>
      obtain rfl := Option.some.inj (Happening.concerns?_of_without he)
      exact (hquiet rfl t htask).globals
    | control c id => cases c <;> rfl
    | ingest _ | start _ _ | setGlobal _ _ | tick _ => rfl

/-- A happening that concerns another task concerns it without the task that is left out. -/
theorem without_concerned {e e' : Happening} {id : Nat} (hid : id ≠ b)
    (he : e.concerns? = some id) (he' : e'.concerns? = some (renumbered b id))
    (houtcome : ∀ t, (s.without b).outcome (t.renumber b) e' =
      (s.outcome t e).withId (renumbered b t.id)) :
    (s.happen e).without b = (s.without b).happen e' := by
  rw [happen_of_concerns he, happen_of_concerns he', without_task? hid]
  cases htask : s.task? id with
  | none => rfl
  | some t =>
    have ht : t.id ≠ b := by rwa [(of_task? htask).2.1]
    rw [Option.map_some]
    dsimp only
    rw [houtcome t]
    exact without_replace_of_ne ht fun t' ht' => outcome_id ht'

/-- Anything else happens as if the task that is left out had never been there. -/
theorem without_happen (hb : b < s.nextId) {e e' : Happening} (he : e.without b = some e') :
    (s.happen e).without b = (s.without b).happen e' := by
  cases e with
  | ingest chunk =>
    obtain rfl := Option.some.inj he
    have hread : (s.without b).readChunk chunk = s.readChunk chunk := rfl
    rw [happen_ingest, happen_ingest, hread, ← without_withChunk]
    split <;> rfl
  | start name args =>
    obtain rfl := Option.some.inj he
    have hload : Script.load (s.without b).library name (s.without b).globals
        (s.without b).scriptSettings = Script.load s.library name s.globals s.scriptSettings := rfl
    rw [happen, happen, launch_eq, launch_eq, hload]
    cases Script.load s.library name s.globals s.scriptSettings with
    | error e => rfl
    | ok script => exact without_withTask hb name (script.start args)
  | setGlobal name value | tick moment =>
    obtain rfl := Option.some.inj he
    rfl
  | control c id =>
    rw [Happening.without] at he
    split at he
    · cases he
    · rename_i hid
      obtain rfl := Option.some.inj he
      exact without_concerned hid rfl rfl fun t => c.apply_withId _ t s.globals
  | turn id =>
    rw [Happening.without] at he
    split at he
    · cases he
    · rename_i hid
      obtain rfl := Option.some.inj he
      exact without_concerned hid rfl rfl fun t => t.withId_turn _

/-- What can happen can happen without the task that is left out. -/
theorem allows_without {e e' : Happening} (he : e.without b = some e') (h : s.Allows e) :
    (s.without b).Allows e' := by
  cases e with
  | tick moment =>
    obtain rfl := Option.some.inj he
    refine ⟨h.1, fun hmoves u hu d hd => ?_⟩
    obtain ⟨t, ht, -, rfl⟩ := mem_leaveOut.mp hu
    exact h.2 hmoves t ht d hd
  | ingest _ | start _ _ | setGlobal _ _ =>
    obtain rfl := Option.some.inj he
    trivial
  | control c id | turn id =>
    rw [Happening.without] at he
    split at he
    · cases he
    · obtain rfl := Option.some.inj he
      trivial

/-- No happening takes a number back. -/
theorem nextId_le_happen (s : Session) (e : Happening) : s.nextId ≤ (s.happen e).nextId := by
  rw [(ids_happen s e).2]
  exact Nat.le_add_right _ _

/-- A course goes on as if the task that is left out had never been there. -/
theorem without_after (hb : b < s.nextId) {es : List Happening} (hquiet : s.SharesNothing b es) :
    (s.after es).without b = (s.without b).after (es.filterMap (Happening.without b)) := by
  induction es generalizing s with
  | nil => rfl
  | cons e rest ih =>
    rw [after_cons, ih (Nat.lt_of_lt_of_le hb (nextId_le_happen s e)) hquiet.2]
    cases he : e.without b with
    | none => rw [List.filterMap_cons_none he, without_happen_self he hquiet.1]
    | some e' => rw [List.filterMap_cons_some he, without_happen hb he, after_cons]

/-- A course that is possible is so without the task that is left out. -/
theorem possible_without (hb : b < s.nextId) {es : List Happening} (hquiet : s.SharesNothing b es)
    (hpossible : s.Possible es) : (s.without b).Possible (es.filterMap (Happening.without b)) := by
  induction es generalizing s with
  | nil => trivial
  | cons e rest ih =>
    have hrest := ih (Nat.lt_of_lt_of_le hb (nextId_le_happen s e)) hquiet.2 hpossible.2
    cases he : e.without b with
    | none =>
      rw [without_happen_self he hquiet.1] at hrest
      rwa [List.filterMap_cons_none he]
    | some e' =>
      rw [without_happen hb he] at hrest
      rw [List.filterMap_cons_some he]
      exact ⟨allows_without he hpossible.1, hrest⟩

/-- The numbers under which events are listed have been given. -/
theorem events_given_happen (hs : s.Registered) (hevents : ∀ e ∈ s.events, e.1 < s.nextId)
    (e : Happening) : ∀ e' ∈ (s.happen e).events, e'.1 < (s.happen e).nextId := by
  have hnext := nextId_le_happen s e
  have hhappens := s.happens e
  generalize s.happen e = s', s.moments e = ms at hhappens hnext ⊢
  intro e' he'
  refine Nat.lt_of_lt_of_le ?_ hnext
  cases hhappens with
  | concerned ht hlost he =>
    rcases List.mem_append.mp he' with hold | hnew
    · exact hevents e' hold
    · obtain ⟨x, -, rfl⟩ := List.mem_map.mp hnew
      exact hs.given _ (List.mem_map_of_mem ht)
  | chunk chunk h => exact hevents e' he'
  | started h => exact hevents e' he'
  | beside htasks hnextId hsame => exact hevents e' (hsame ▸ he')

/-- So it is after every course. -/
theorem events_given_after (hs : s.Registered) (hevents : ∀ e ∈ s.events, e.1 < s.nextId)
    (es : List Happening) : ∀ e ∈ (s.after es).events, e.1 < (s.after es).nextId :=
  (after_induction (P := fun s => s.Registered ∧ ∀ e ∈ s.events, e.1 < s.nextId)
    (fun _ e hs => ⟨hs.1.happen e, events_given_happen hs.1 hs.2 e⟩) ⟨hs, hevents⟩ es).2

/-- When a task has just been started and is left out, the session is as before. -/
theorem without_start (hs : s.Registered) (hevents : ∀ e ∈ s.events, e.1 < s.nextId)
    {e : Happening} (hb : s.given? e = some b) :
    b < (s.happen e).nextId ∧ (s.happen e).without b = s := by
  obtain ⟨rfl, name, args, script, rfl, hload⟩ := given?_eq_some hb
  have hstarts : s.happen (.start name args) = s.withTask name (script.start args) := by
    rw [happen, launch_eq, hload]
    rfl
  have htasks : leaveOut s.nextId s.tasks = s.tasks :=
    leaveOut_of_lt fun t ht => hs.given t.id (List.mem_map_of_mem ht)
  have hnew (t : Task) (ht : t.id = s.nextId) : leaveOut s.nextId [t] = [] :=
    leaveOut_cons_self ht []
  rw [hstarts]
  refine ⟨Nat.lt_succ_self _, ?_⟩
  simp only [without, withTask, leaveOut_append, htasks, unlist_of_lt hevents, Nat.add_sub_cancel]
  rw [hnew _ rfl, List.append_nil]

end Mudline.Session
