import Mudline.Proofs.Session.Schedule
import Mathlib.Data.List.Nodup

/-!
# The numbers of the tasks

Each task has a number. A happening gives at most one number, which is the next one, and whatever it
does besides, it only takes tasks away: the numbers of the tasks afterwards are some of those
before, in the same order, and perhaps the new one behind them. All that can be said of the numbers
over time follows from this.
-/

namespace Mudline.Session

/-- The numbers of the tasks. -/
def ids (s : Session) : List Nat :=
  s.tasks.map (·.id)

/-- The number that a happening gives to a new task, if it starts one. -/
def given? (s : Session) : Happening → Option Nat
  | .start name args => (s.launch name args).toOption.map (·.2)
  | _ => none

/-- The tasks are numbered in the order in which they were started, and the next number is new. -/
structure Registered (s : Session) : Prop where
  /-- The numbers are increasing. -/
  increasing : s.ids.Pairwise (· < ·)
  /-- The numbers have been given. -/
  given : ∀ id ∈ s.ids, id < s.nextId

/-- What becomes of a task keeps its number. -/
theorem outcome_id {s : Session} {t u : Task} {e : Happening}
    (h : (s.outcome t e).task = some u) : u.id = t.id := by
  cases e with
  | control c i =>
    cases c with
    | stop => cases h
    | pause | resume =>
      obtain rfl := Option.some.inj h
      rfl
  | turn i => exact (Task.turn_frame h).1
  | ingest _ | start _ _ | setGlobal _ _ | tick _ =>
    obtain rfl := Option.some.inj h
    rfl

/-- Replacing a task by what has become of it adds no number and changes no order. -/
theorem ids_replace {s : Session} {t : Task} {u : Turn} (hid : ∀ t' ∈ u.task, t'.id = t.id) :
    (s.replace t u).ids.Sublist s.ids := by
  rw [ids, ids, replace]
  induction s.tasks with
  | nil => exact .slnil
  | cons v rest ih =>
    by_cases hv : v.id = t.id
    · cases hu : u.task with
      | none => simpa [hv, hu] using ih.cons t.id
      | some t' => simpa [hv, hu, hid t' hu] using ih.cons_cons t.id
    · simpa [hv] using ih.cons_cons v.id

/-- Lines that come in change no number. -/
theorem ids_withChunk (s : Session) (chunk : Text) : (s.withChunk chunk).ids = s.ids := by
  simp [ids, withChunk_tasks]

/-- The number that a happening gives is the next one. -/
theorem given?_eq_some {s : Session} {e : Happening} {id : Nat} (h : s.given? e = some id) :
    id = s.nextId ∧ ∃ name args script, e = .start name args ∧
      Script.load s.library name s.globals s.scriptSettings = .ok script := by
  cases e with
  | start name args =>
    rw [given?, launch_eq] at h
    cases hload : Script.load s.library name s.globals s.scriptSettings with
    | error e => simp [hload, Except.toOption] at h
    | ok script =>
      rw [hload] at h
      exact ⟨(Option.some.inj h).symm, name, args, script, rfl, hload⟩
  | ingest _ | control _ _ | setGlobal _ _ | turn _ | tick _ => cases h

/-- A script that can be loaded is given the next number. -/
theorem given?_start {s : Session} {name : Text} {args : List Text} {script : Script}
    (h : Script.load s.library name s.globals s.scriptSettings = .ok script) :
    s.given? (.start name args) = some s.nextId := by
  rw [given?, launch_eq, h]
  rfl

/-- After a happening, the numbers are some of those before and perhaps a new one. -/
theorem ids_happen (s : Session) (e : Happening) :
    (s.happen e).ids.Sublist (s.ids ++ (s.given? e).toList) ∧
      (s.happen e).nextId = s.nextId + (s.given? e).toList.length := by
  have hfewer {s' : Session} (hnone : s.given? e = none) (hids : s'.ids.Sublist s.ids)
      (hnext : s'.nextId = s.nextId) :
      s'.ids.Sublist (s.ids ++ (s.given? e).toList) ∧
        s'.nextId = s.nextId + (s.given? e).toList.length := by
    simpa [hnone] using ⟨hids, hnext⟩
  have hhappens := s.happens e
  cases hgiven : s.given? e with
  | some id =>
    obtain ⟨rfl, name, args, script, rfl, hload⟩ := given?_eq_some hgiven
    rw [happen, launch_eq, hload]
    simp [Except.map, Except.toOption, ids, withTask]
  | none =>
    rw [hgiven] at hfewer
    generalize s.happen e = s', s.moments e = ms at hhappens ⊢
    cases hhappens with
    | concerned ht hlost he => exact hfewer rfl (ids_replace fun t' h => outcome_id h) rfl
    | chunk chunk hsound => exact hfewer rfl (ids_withChunk s chunk ▸ List.Sublist.refl _) rfl
    | started hload =>
      rw [given?_start hload] at hgiven
      cases hgiven
    | beside htasks hnext hevents =>
      exact hfewer rfl (by rw [ids, ids, htasks]) hnext

namespace Registered

variable {s : Session}

/-- Two tasks with the same number are the same. -/
theorem eq_of_id (hs : s.Registered) {t u : Task} (ht : t ∈ s.tasks) (hu : u ∈ s.tasks)
    (hid : t.id = u.id) : t = u := by
  have hnodup : (s.tasks.map (·.id)).Nodup := hs.increasing.imp Nat.ne_of_lt
  exact List.inj_on_of_nodup_map hnodup ht hu hid

/-- A task that was not given up is found by its number. -/
theorem task?_eq (hs : s.Registered) {t : Task} (ht : t ∈ s.tasks) (hlost : t.lost = false) :
    s.task? t.id = some t := by
  have hfound : (s.task? t.id).isSome = true := by
    rw [task?, List.find?_isSome]
    exact ⟨t, ht, by simp [hlost]⟩
  obtain ⟨u, hu⟩ := Option.isSome_iff_exists.mp hfound
  obtain ⟨hmem, hid, -⟩ := of_task? hu
  rw [hu, hs.eq_of_id hmem ht hid]

/-- Every happening keeps the numbers in order. -/
theorem happen (hs : s.Registered) (e : Happening) : (s.happen e).Registered := by
  obtain ⟨hids, hnext⟩ := ids_happen s e
  cases hgiven : s.given? e with
  | none =>
    rw [hgiven, Option.toList_none, List.append_nil] at hids
    rw [hgiven, Option.toList_none, List.length_nil, Nat.add_zero] at hnext
    refine ⟨hs.increasing.sublist hids, fun id hid => ?_⟩
    rw [hnext]
    exact hs.given id (hids.subset hid)
  | some new =>
    obtain rfl := (given?_eq_some hgiven).1
    rw [hgiven, Option.toList_some] at hids
    rw [hgiven, Option.toList_some, List.length_singleton] at hnext
    constructor
    · refine List.Pairwise.sublist hids (List.pairwise_append.mpr ⟨hs.increasing, by simp, ?_⟩)
      simpa using hs.given
    · intro id hid
      rw [hnext]
      rcases List.mem_append.mp (hids.subset hid) with hold | hnew
      · exact Nat.lt_succ_of_lt (hs.given id hold)
      · rw [List.mem_singleton.mp hnew]
        exact Nat.lt_succ_self _

/-- So does every course. -/
theorem after (hs : s.Registered) (es : List Happening) : (s.after es).Registered :=
  after_induction (fun _ e hs => hs.happen e) hs es

end Registered

/-- A session that has just been made has no tasks. -/
theorem registered_fresh (c : Configuration) (library : Script.Library)
    (report : Regex.Error → Text) (allowance : Nat) :
    (fresh c library report allowance).Registered := by
  constructor <;> simp [ids, fresh]

end Mudline.Session
