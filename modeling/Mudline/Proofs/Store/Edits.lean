import Mudline.Proofs.Store

/-!
# Stores and the edits that led to them

A store comes about by setting and unsetting variables, one after the other. What it holds is known
from the last edit of each name, so the variable that a text means can be told from the edits alone:
it is the one with the longest name that is set, and neither the order of the other edits nor the
order in which the store keeps its variables makes a difference. Variables that several parties
share are a store that each of them edits in turn.
-/

namespace Mudline.Store

/-- A name with the value that it is set to, or with none where it is unset. -/
abbrev Edit := Text × Option Text

/-- The store after some edits, in order. -/
def edited (s : Store) (edits : List Edit) : Store :=
  edits.foldl (fun s e => s.assign e.1 e.2) s

/-- The value that the last edit of a name leaves it with. -/
def lastValue? (edits : List Edit) (name : Text) : Option Text :=
  (edits.filter (·.1 == name)).getLast?.bind Prod.snd

/-- Edits may be made in two parts. -/
theorem edited_append (s : Store) (edits more : List Edit) :
    s.edited (edits ++ more) = (s.edited edits).edited more :=
  List.foldl_append

/-- The last edit is made to the store with the others. -/
theorem edited_concat (s : Store) (edits : List Edit) (e : Edit) :
    s.edited (edits ++ [e]) = (s.edited edits).assign e.1 e.2 :=
  s.edited_append edits [e]

/-- A name has the value that it was assigned. -/
theorem get?_assign_self (s : Store) (name : Text) (value : Option Text) :
    (s.assign name value).get? name = value := by
  cases value with
  | none => exact (s.get?_unset name name).trans (if_pos (beq_self_eq_true name))
  | some value => exact (s.get?_set name value name).trans (if_pos (beq_self_eq_true name))

/-- The last value of a name is that of its last edit. -/
theorem lastValue?_concat_self (edits : List Edit) (name : Text) (value : Option Text) :
    lastValue? (edits ++ [(name, value)]) name = value := by
  simp [lastValue?]

/-- Edits of other names make no difference to the last value. -/
theorem lastValue?_concat_of_ne (edits : List Edit) {e : Edit} {name : Text} (h : name ≠ e.1) :
    lastValue? (edits ++ [e]) name = lastValue? edits name := by
  simp [lastValue?, h.symm]

/-- A variable has the value that its last edit left it with. -/
theorem get?_edited (edits : List Edit) (name : Text) :
    (empty.edited edits).get? name = lastValue? edits name := by
  induction edits using List.reverseRecOn with
  | nil => rfl
  | append_singleton edits e ih =>
    obtain ⟨key, value⟩ := e
    rw [edited_concat]
    by_cases hname : name = key
    · subst hname
      rw [get?_assign_self, lastValue?_concat_self]
    · rw [get?_assign _ hname, ih, lastValue?_concat_of_ne edits hname]

/-- That no name occurs twice. -/
def Distinct (s : Store) : Prop :=
  (s.entries.map Prod.fst).Nodup

/-- Putting a value adds the name only if it is new. -/
theorem map_fst_put (name value : Text) (entries : List (Text × Text)) :
    (put name value entries).map Prod.fst =
      if name ∈ entries.map Prod.fst then entries.map Prod.fst
      else entries.map Prod.fst ++ [name] := by
  induction entries with
  | nil => rfl
  | cons entry rest ih =>
    rw [put]
    by_cases hname : entry.1 = name
    · simp [hname]
    · have hsame : (entry.1 == name) = false := beq_eq_false_iff_ne.mpr hname
      simp only [hsame, Bool.false_eq_true, if_false, List.map_cons, ih, List.mem_cons,
        Ne.symm hname, false_or]
      split <;> rfl

/-- Setting a variable leaves the names distinct. -/
theorem Distinct.set {s : Store} (h : s.Distinct) (name value : Text) :
    (s.set name value).Distinct := by
  rw [Distinct, Store.set, map_fst_put]
  split
  · exact h
  · rename_i hnew
    refine List.nodup_append.mpr ⟨h, List.pairwise_singleton _ name, fun key hkey other hlast => ?_⟩
    rw [List.mem_singleton.mp hlast]
    exact ne_of_mem_of_not_mem hkey hnew

/-- Unsetting a variable leaves the names distinct. -/
theorem Distinct.unset {s : Store} (h : s.Distinct) (name : Text) : (s.unset name).Distinct :=
  h.sublist (List.filter_sublist.map Prod.fst)

/-- Edits keep names from occurring twice. -/
theorem Distinct.edited {s : Store} (h : s.Distinct) (edits : List Edit) :
    (s.edited edits).Distinct := by
  induction edits generalizing s with
  | nil => exact h
  | cons e edits ih =>
    obtain ⟨name, _ | value⟩ := e
    · exact ih (h.unset name)
    · exact ih (h.set name value)

/-- With distinct names, the entries are the values of the names. -/
theorem get?_eq_some_iff {s : Store} (h : s.Distinct) {name value : Text} :
    s.get? name = some value ↔ (name, value) ∈ s.entries := by
  refine ⟨mem_of_get?, fun hmem => ?_⟩
  obtain ⟨front, back, hentries⟩ := List.append_of_mem hmem
  rw [get?, List.lookup_eq_some_iff]
  refine ⟨front, back, hentries, fun e he => bne_iff_ne.mpr ?_⟩
  rw [Distinct, hentries, List.map_append, List.map_cons] at h
  rintro rfl
  exact (List.nodup_append.mp h).2.2 _ (List.mem_map_of_mem he) _ List.mem_cons_self rfl

/-- In whatever order the variables of a store are gone through, each has its value. -/
theorem get?_of_perm {s : Store} (h : s.Distinct) {entries : List (Text × Text)}
    (hperm : entries.Perm s.entries) (name : Text) : get? ⟨entries⟩ name = s.get? name := by
  have hdistinct : Distinct ⟨entries⟩ := (hperm.map Prod.fst).nodup_iff.mpr h
  refine Option.ext fun value => ?_
  rw [get?_eq_some_iff hdistinct, get?_eq_some_iff h]
  exact hperm.mem_iff

/-- What a party does to shared variables while no other reads or writes them. -/
inductive Turn
  /-- It sets one. -/
  | set (name value : Text)
  /-- It removes one. -/
  | remove (name : Text)
  /-- It sets several. -/
  | setAll (entries : List (Text × Text))
  /-- It sets and removes several. -/
  | update (edits : List Edit)

/-- The shared variables after a turn. -/
def Turn.run (s : Store) : Turn → Store
  | .set name value => s.set name value
  | .remove name => s.unset name
  | .setAll entries => s.setAll entries
  | .update edits => s.edited edits

/-- The edits that a turn consists of. -/
def Turn.edits : Turn → List Edit
  | .set name value => [(name, some value)]
  | .remove name => [(name, none)]
  | .setAll entries => entries.map fun e => (e.1, some e.2)
  | .update edits => edits

/-- Shared variables after the turns of all parties. -/
def shared (turns : List Turn) : Store :=
  turns.foldl Turn.run empty

/-- A turn makes its edits. -/
theorem Turn.run_eq (s : Store) (turn : Turn) : turn.run s = s.edited turn.edits := by
  cases turn with
  | set | remove | update => rfl
  | setAll entries =>
    rw [run, Turn.edits, edited, List.foldl_map]
    rfl

/-- Whoever makes the edits, and however many in one turn, they lead to the same store. -/
theorem shared_eq (turns : List Turn) : shared turns = empty.edited (turns.flatMap Turn.edits) := by
  have hturns (s : Store) : turns.foldl Turn.run s = s.edited (turns.flatMap Turn.edits) := by
    induction turns generalizing s with
    | nil => rfl
    | cons turn turns ih => rw [List.foldl_cons, ih, Turn.run_eq, List.flatMap_cons, edited_append]
  exact hturns empty

/-- That a text means a variable after some edits: of all names that are set and that the text
starts with, its name is longer than any other. -/
structure Means (edits : List Edit) (t name value : Text) : Prop where
  /-- The name is not empty. -/
  filled : name ≠ []
  /-- The text starts with it. -/
  starts : name <+: t
  /-- Its last edit set it to the value. -/
  value : lastValue? edits name = some value
  /-- All other names that are set and start the text are shorter. -/
  longest : ∀ other, (lastValue? edits other).isSome = true → other <+: t → other ≠ name →
    other.length < name.length

/-- The longest name after edits is the one that they mean. -/
theorem isLongest_edited_iff {edits : List Edit} {t name value : Text} :
    IsLongest (empty.edited edits) t name value ↔ Means edits t name value := by
  constructor
  · rintro ⟨hfilled, hstarts, hvalue, hlongest⟩
    simp only [get?_edited] at hvalue hlongest
    refine ⟨hfilled, hstarts, hvalue, fun other hset hbegins hne => ?_⟩
    -- two prefixes of one text that are as long as each other are the same
    refine (hlongest other hset hbegins).lt_of_ne fun hlength => hne ?_
    exact (List.prefix_of_prefix_length_le hbegins hstarts hlength.le).eq_of_length hlength
  · rintro ⟨hfilled, hstarts, hvalue, hlongest⟩
    refine ⟨hfilled, hstarts, by rw [get?_edited, hvalue], fun other hset hbegins => ?_⟩
    rw [get?_edited] at hset
    by_cases hsame : other = name
    · rw [hsame]
    · exact (hlongest other hset hbegins hsame).le

/-- No name is meant if the text begins with none that has a value. -/
theorem longestAtStart?_eq_none_iff {s : Store} {t : Text} :
    s.longestAtStart? t = none ↔ ∀ name, name ≠ [] → name <+: t → s.get? name = none := by
  constructor
  · intro hnone name hfilled hstarts
    rw [longestAtStart?_eq] at hnone
    rw [← lookup_candidates (isCandidate_iff.mpr ⟨hfilled, hstarts⟩), eq_nil_of_foldl_longer hnone]
    rfl
  · intro hunset
    refine Option.eq_none_iff_forall_ne_some.mpr fun ⟨name, value⟩ hfound => ?_
    have hlongest := isLongest_of_longestAtStart? hfound
    exact absurd ((hunset name hlongest.filled hlongest.starts).symm.trans hlongest.value) nofun

/-- After any edits, what is found for a text is the variable that it means, and nothing exactly
when no name that it starts with is set. Other edits that leave the same variables, another order of
the variables in the store, and the same edits made in turn by parties that share the variables all
make no difference to what is found. -/
theorem longest_name_is_meant (edits : List Edit) (t : Text) :
    (∀ name value, (empty.edited edits).longestAtStart? t = some (name, value) ↔
        Means edits t name value) ∧
      ((empty.edited edits).longestAtStart? t = none ↔
        ∀ name, name ≠ [] → name <+: t → lastValue? edits name = none) ∧
      (∀ others, (∀ name, (empty.edited others).get? name = (empty.edited edits).get? name) →
        (empty.edited others).longestAtStart? t = (empty.edited edits).longestAtStart? t) ∧
      (∀ entries, entries.Perm (empty.edited edits).entries →
        longestAtStart? ⟨entries⟩ t = (empty.edited edits).longestAtStart? t) ∧
      ∀ turns, turns.flatMap Turn.edits = edits →
        (shared turns).longestAtStart? t = (empty.edited edits).longestAtStart? t ∧
          ∀ name, (shared turns).get? name = (empty.edited edits).get? name := by
  have hempty : empty.Distinct := List.nodup_nil
  have hdistinct : (empty.edited edits).Distinct := hempty.edited edits
  refine ⟨fun name value => ?_, ?_, fun others hsame => ?_, fun entries hperm => ?_, ?_⟩
  · rw [longestAtStart?_eq_some_iff, isLongest_edited_iff]
  · simp only [longestAtStart?_eq_none_iff, get?_edited]
  · exact longestAtStart?_congr fun name _ => hsame name
  · exact longestAtStart?_congr fun name _ => get?_of_perm hdistinct hperm name
  · rintro turns rfl
    rw [shared_eq]
    exact ⟨rfl, fun _ => rfl⟩

/-- A longer name wins as long as it is set, whenever the shorter ones were. -/
example :
    let edits : List Edit := [("count", some "9"), ("c", some "1"), ("counts", some "7"),
      ("counts", none), ("count", some "8")]
    let turns : List Turn := [.setAll [("count", "9"), ("c", "1")], .remove "count"]
    (empty.edited edits).longestAtStart? "countsdown" = some ("count".toList, "8".toList) ∧
      (shared turns).longestAtStart? "countsdown" = some ("c".toList, "1".toList) := by decide

end Mudline.Store
