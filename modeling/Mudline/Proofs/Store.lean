import Mathlib.Data.List.Infix
import Mudline.Store

/-!
# What a store holds

A store is known by the values of its variables: the order in which they were set makes no
difference to what is read. This file says what setting and unsetting variables changes, and which
variable is meant by a text that goes on behind a name: the one with the longest name that is set.
-/

namespace Mudline.Store

/-- What is put under a name is found there, and nothing else changes. -/
theorem lookup_put (name value other : Text) (entries : List (Text × Text)) :
    (put name value entries).lookup other =
      if other == name then some value else entries.lookup other := by
  induction entries with
  | nil => cases hname : other == name <;> simp [put, List.lookup_cons, hname]
  | cons entry rest ih =>
    obtain ⟨key, old⟩ := entry
    rw [put]
    cases hentry : key == name with
    | true =>
      have hkey : key = name := by simpa using hentry
      cases hname : other == name <;> simp [List.lookup_cons, hkey, hname]
    | false =>
      simp only [Bool.false_eq_true, if_false, List.lookup_cons, ih]
      cases hother : other == key with
      | true =>
        have hkey : other = key := by simpa using hother
        simp [hkey, hentry]
      | false => rfl

/-- Setting a variable changes that one and no other. -/
theorem get?_set (s : Store) (name value other : Text) :
    (s.set name value).get? other = if other == name then some value else s.get? other :=
  lookup_put name value other s.entries

/-- Among the entries whose names are kept, a name that is kept has the value that it has among
all. -/
theorem lookup_filter (keep : Text → Bool) (name : Text) (entries : List (Text × Text)) :
    (entries.filter fun entry => keep entry.1).lookup name =
      if keep name then entries.lookup name else none := by
  induction entries with
  | nil => cases keep name <;> rfl
  | cons entry rest ih =>
    obtain ⟨key, value⟩ := entry
    rw [List.filter_cons, List.lookup_cons]
    cases hname : name == key with
    | true =>
      obtain rfl : name = key := by simpa using hname
      cases hkeep : keep name <;> simp [hkeep, ih]
    | false => cases hkey : keep key <;> simp [List.lookup_cons, hname, ih]

/-- Unsetting a variable changes that one and no other. -/
theorem get?_unset (s : Store) (name other : Text) :
    (s.unset name).get? other = if other == name then none else s.get? other := by
  rw [get?, unset, lookup_filter (· != name)]
  cases hname : other == name <;> simp [bne, hname, get?]

/-- The store in which a variable has been set or unset. -/
def assign (s : Store) (name : Text) : Option Text → Store
  | none => s.unset name
  | some value => s.set name value

/-- An assignment leaves all other names. -/
theorem get?_assign (s : Store) {name other : Text} (h : other ≠ name) (value : Option Text) :
    (s.assign name value).get? other = s.get? other := by
  have hname : ¬(other == name) = true := by simpa using h
  cases value with
  | none => exact (s.get?_unset name other).trans (if_neg hname)
  | some value => exact (s.get?_set name value other).trans (if_neg hname)

/-- The value of a name is an entry. -/
theorem mem_of_get? {s : Store} {name value : Text} (h : s.get? name = some value) :
    (name, value) ∈ s.entries := by
  obtain ⟨front, back, hentries, -⟩ := List.lookup_eq_some_iff.mp h
  exact hentries ▸ List.mem_append_right front List.mem_cons_self

variable {s : Store} {entries : List (Text × Text)} {name value : Text}

/-- A variable that is not among those that are set keeps its value. -/
theorem get?_setAll_of_notMem (h : ∀ value, (name, value) ∉ entries) :
    (s.setAll entries).get? name = s.get? name := by
  induction entries generalizing s with
  | nil => rfl
  | cons entry rest ih =>
    obtain ⟨first, old⟩ := entry
    have hne : (name == first) = false := by
      rw [beq_eq_false_iff_ne]
      rintro rfl
      exact h old List.mem_cons_self
    have hrest : ((s.set first old).setAll rest).get? name = (s.set first old).get? name :=
      ih fun value hmem => h value (List.mem_cons_of_mem _ hmem)
    rw [get?_set, hne] at hrest
    exact hrest

/-- Variables may be set in two parts. -/
theorem setAll_append (front rest : List (Text × Text)) :
    s.setAll (front ++ rest) = (s.setAll front).setAll rest :=
  List.foldl_append

/-- A variable has the value that it was set to last. -/
theorem get?_setAll_of_last {front rest : List (Text × Text)} (h : ∀ v, (name, v) ∉ rest) :
    (s.setAll (front ++ (name, value) :: rest)).get? name = some value := by
  have hset : (((s.setAll front).set name value).setAll rest).get? name =
      ((s.setAll front).set name value).get? name := get?_setAll_of_notMem h
  rw [get?_set, if_pos (beq_self_eq_true name)] at hset
  rw [setAll_append]
  exact hset

/-- A variable that is set once has the value that it was set to. -/
theorem get?_setAll_of_mem (hnames : (entries.map Prod.fst).Nodup) (h : (name, value) ∈ entries) :
    (s.setAll entries).get? name = some value := by
  obtain ⟨front, rest, rfl⟩ := List.append_of_mem h
  refine get?_setAll_of_last fun v hv => ?_
  rw [List.map_append, List.map_cons] at hnames
  have hrest := (List.nodup_cons.mp (List.nodup_append.mp hnames).2.1).1
  exact hrest (List.mem_map.mpr ⟨_, hv, rfl⟩)

/-- That a variable is the one whose name, as the longest, a text starts with. -/
structure IsLongest (s : Store) (t name value : Text) : Prop where
  /-- A name is not empty. -/
  filled : name ≠ []
  /-- The text starts with it. -/
  starts : name <+: t
  /-- It is set. -/
  value : s.get? name = some value
  /-- No longer name that is set starts the text. -/
  longest : ∀ other, (s.get? other).isSome = true → other <+: t → other.length ≤ name.length

/-- One of two entries is the longer one. -/
theorem longer_ne_none (best : Option (Text × Text)) (entry : Text × Text) :
    longer best entry ≠ none := by
  cases best with
  | none => exact Option.some_ne_none _
  | some found =>
    rw [longer]
    split <;> exact Option.some_ne_none _

/-- Among some entries there is a longest one. -/
theorem eq_nil_of_foldl_longer {entries : List (Text × Text)}
    (h : entries.foldl longer none = none) : entries = [] := by
  obtain rfl | ⟨init, last, rfl⟩ := List.eq_nil_or_concat' entries
  · rfl
  · rw [List.foldl_concat] at h
    exact absurd h (longer_ne_none _ _)

/-- Of the longest entries the first is found. -/
theorem foldl_longer {entries : List (Text × Text)} {found : Text × Text}
    (h : entries.foldl longer none = some found) : ∃ front back, entries = front ++ found :: back ∧
      (∀ e ∈ front, e.1.length < found.1.length) ∧ ∀ e ∈ back, e.1.length ≤ found.1.length := by
  induction entries using List.reverseRecOn generalizing found with
  | nil => cases h
  | append_singleton entries last ih =>
    rw [List.foldl_concat] at h
    cases hbest : entries.foldl longer none with
    | none =>
      rw [hbest] at h
      obtain rfl := Option.some.inj h
      exact ⟨[], [], by simp [eq_nil_of_foldl_longer hbest], by simp, by simp⟩
    | some best =>
      obtain ⟨front, back, rfl, hfront, hback⟩ := ih hbest
      rw [hbest, longer] at h
      split at h
      · rename_i hlonger
        obtain rfl := Option.some.inj h
        have hbefore : ∀ e ∈ front, e.1.length < last.1.length :=
          fun e he => (hfront e he).trans hlonger
        have hbehind : ∀ e ∈ back, e.1.length < last.1.length :=
          fun e he => (hback e he).trans_lt hlonger
        refine ⟨front ++ best :: back, [], rfl, ?_, by simp⟩
        exact List.forall_mem_append.mpr ⟨hbefore, List.forall_mem_cons.mpr ⟨hlonger, hbehind⟩⟩
      · rename_i hlonger
        obtain rfl := Option.some.inj h
        refine ⟨front, back ++ [last], by simp, hfront, ?_⟩
        exact List.forall_mem_append.mpr ⟨hback, by simpa using hlonger⟩

variable {t : Text}

/-- Whether a text starts with a name. -/
def isCandidate (t name : Text) : Bool :=
  !name.isEmpty && name.isPrefixOf t

/-- A name may be meant if it is not empty and the text begins with it. -/
theorem isCandidate_iff {name : Text} : isCandidate t name = true ↔ name ≠ [] ∧ name <+: t := by
  simp [isCandidate]

/-- The entries whose names a text starts with. -/
def candidates (s : Store) (t : Text) : List (Text × Text) :=
  s.entries.filter fun entry => isCandidate t entry.1

/-- The name that is meant is the longest of those that may be. -/
theorem longestAtStart?_eq (s : Store) (t : Text) :
    s.longestAtStart? t = (s.candidates t).foldl longer none := rfl

/-- A name that may be meant is found among the candidates with its value. -/
theorem lookup_candidates {other : Text} (h : isCandidate t other = true) :
    (s.candidates t).lookup other = s.get? other :=
  (lookup_filter (isCandidate t) other s.entries).trans (if_pos h)

/-- The variable that is found has the longest name. -/
theorem isLongest_of_longestAtStart? (h : s.longestAtStart? t = some (name, value)) :
    IsLongest s t name value := by
  rw [longestAtStart?_eq] at h
  obtain ⟨front, back, hentries, hfront, hback⟩ := foldl_longer h
  have hmem : (name, value) ∈ s.candidates t :=
    hentries ▸ List.mem_append_right front List.mem_cons_self
  have hcandidate : isCandidate t name = true := (List.mem_filter.mp hmem).2
  obtain ⟨hfilled, hstarts⟩ := isCandidate_iff.mp hcandidate
  refine ⟨hfilled, hstarts, ?_, fun other hset hbegins => ?_⟩
  · rw [← lookup_candidates hcandidate, hentries, List.lookup_eq_some_iff]
    refine ⟨front, back, rfl, fun e he => ?_⟩
    rw [bne_iff_ne]
    rintro rfl
    exact absurd (hfront e he) (lt_irrefl _)
  · by_cases hnil : other = []
    · simp [hnil]
    · obtain ⟨v, hv⟩ := Option.isSome_iff_exists.mp hset
      rw [← lookup_candidates (isCandidate_iff.mpr ⟨hnil, hbegins⟩), hentries,
        List.lookup_eq_some_iff] at hv
      obtain ⟨before, behind, hsplit, -⟩ := hv
      have hentry : (other, v) ∈ front ++ (name, value) :: back :=
        hsplit ▸ List.mem_append_right before List.mem_cons_self
      rcases List.mem_append.mp hentry with hentry | hentry
      · exact (hfront _ hentry).le
      · rcases List.mem_cons.mp hentry with heq | hentry
        · rw [(Prod.mk.inj heq).1]
        · exact hback _ hentry

/-- At most one variable has the longest name. -/
theorem IsLongest.unique {name' value' : Text} (h : IsLongest s t name value)
    (h' : IsLongest s t name' value') : (name, value) = (name', value') := by
  have hset : (s.get? name).isSome = true := Option.isSome_iff_exists.mpr ⟨_, h.value⟩
  have hset' : (s.get? name').isSome = true := Option.isSome_iff_exists.mpr ⟨_, h'.value⟩
  have hle := h'.longest name hset h.starts
  have hge := h.longest name' hset' h'.starts
  obtain rfl : name = name' :=
    (List.prefix_of_prefix_length_le h.starts h'.starts hle).eq_of_length (le_antisymm hle hge)
  rw [Option.some.inj (h.value.symm.trans h'.value)]

/-- The variable with the longest name is found. -/
theorem longestAtStart?_eq_some_iff :
    s.longestAtStart? t = some (name, value) ↔ IsLongest s t name value := by
  refine ⟨isLongest_of_longestAtStart?, fun h => ?_⟩
  cases hfound : s.longestAtStart? t with
  | some found =>
    obtain ⟨name', value'⟩ := found
    rw [(isLongest_of_longestAtStart? hfound).unique h]
  | none =>
    have hcandidate := isCandidate_iff.mpr ⟨h.filled, h.starts⟩
    have hvalue := h.value
    rw [longestAtStart?_eq] at hfound
    rw [← lookup_candidates hcandidate, eq_nil_of_foldl_longer hfound] at hvalue
    cases hvalue

/-- What is found depends on the names that the text starts with, and on no others. -/
theorem longestAtStart?_congr {s s' : Store} (h : ∀ name, name <+: t → s.get? name = s'.get? name) :
    s.longestAtStart? t = s'.longestAtStart? t := by
  have himp {s s' : Store} (h : ∀ name, name <+: t → s.get? name = s'.get? name)
      {name value : Text} (hlongest : IsLongest s t name value) : IsLongest s' t name value := by
    refine ⟨hlongest.filled, hlongest.starts, ?_, fun other hset hbegins => ?_⟩
    · rw [← h name hlongest.starts, hlongest.value]
    · rw [← h other hbegins] at hset
      exact hlongest.longest other hset hbegins
  refine Option.ext fun ⟨name, value⟩ => ?_
  rw [longestAtStart?_eq_some_iff, longestAtStart?_eq_some_iff]
  exact ⟨himp h, himp fun name hname => (h name hname).symm⟩

end Mudline.Store
