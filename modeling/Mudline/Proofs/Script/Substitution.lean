import Mudline.Proofs.Store
import Mudline.Proofs.Text.Entries
import Mudline.Script.Reference

/-!
# What replaced references are made of

A line is rewritten, round after round, from its own characters, from what its references stand for
and from the brackets that replace parentheses around an index. So a variable cannot be named whose
name holds a character that occurs in none of these, however often references are replaced and
however names are put together from other references.
-/

namespace Mudline.Script

/-- An index in parentheses stands behind a name, and both are as long as they can be. -/
theorem parenIndex?_eq_some_iff {after name digits : Text} :
    parenIndex? after = some (name, digits) ↔ (name ≠ [] ∧ ∀ c ∈ name, isIndexedNameChar c = true) ∧
      (digits ≠ [] ∧ ∀ c ∈ digits, Text.isDigit c = true) ∧
        ∃ rest, after = name ++ '(' :: (digits ++ ')' :: rest) := by
  constructor
  · intro h
    rw [parenIndex?] at h
    split at h
    · rename_i rest hrest
      dsimp only at h
      split at h
      · rename_i hshape
        obtain ⟨rfl, rfl⟩ := Prod.mk.inj (Option.some.inj h)
        simp only [Bool.and_eq_true, Bool.not_eq_true', List.isEmpty_eq_false_iff,
          beq_iff_eq] at hshape
        obtain ⟨⟨hname, hdigits⟩, hclose⟩ := hshape
        obtain ⟨more, hmore⟩ := List.head?_eq_some_iff.mp hclose
        refine ⟨⟨hname, fun _ => List.mem_takeWhile_imp⟩,
          ⟨hdigits, fun _ => List.mem_takeWhile_imp⟩, more, ?_⟩
        rw [← hmore, List.takeWhile_append_dropWhile, ← hrest, List.takeWhile_append_dropWhile]
      · cases h
    · cases h
  · rintro ⟨⟨hname, hnamechars⟩, ⟨hdigits, hdigitchars⟩, rest, rfl⟩
    have hopen : isIndexedNameChar '(' = false := by decide
    have hclose : Text.isDigit ')' = false := by decide
    simp [parenIndex?, List.takeWhile_append_of_pos hnamechars,
      List.dropWhile_append_of_pos hnamechars, List.takeWhile_append_of_pos hdigitchars,
      List.dropWhile_append_of_pos hdigitchars, hopen, hclose, hname, hdigits]

/-- Rewriting an index keeps its name and its digits. -/
theorem bracketAfter_zero (c : Char) (rest : Text) :
    (∃ name digits, parenIndex? rest = some (name, digits) ∧ bracketAfter 0 (c :: rest) =
      c :: name ++ '[' :: digits ++ ']' :: bracketAfter (name.length + digits.length + 2) rest) ∨
    bracketAfter 0 (c :: rest) = c :: bracketAfter 0 rest := by
  rw [bracketAfter]
  split
  · rename_i name digits hindex
    split at hindex
    · exact .inl ⟨name, digits, hindex, rfl⟩
    · cases hindex
  · exact .inr rfl

section Characters

variable {P : Char → Prop}

/-- No character comes in but the brackets. -/
theorem forall_mem_bracketAfter (hopen : P '[') (hclose : P ']') {t : Text} (ht : ∀ c ∈ t, P c)
    (skip : Nat) : ∀ c ∈ bracketAfter skip t, P c := by
  induction t generalizing skip with
  | nil =>
    rw [bracketAfter]
    simp
  | cons c rest ih =>
    obtain ⟨hc, hrest⟩ := List.forall_mem_cons.mp ht
    cases skip with
    | succ skip => exact ih hrest skip
    | zero =>
      obtain ⟨name, digits, hindex, heq⟩ | heq := bracketAfter_zero c rest
      · obtain ⟨-, -, more, rfl⟩ := parenIndex?_eq_some_iff.mp hindex
        have hparts : (∀ d ∈ name, P d) ∧ ∀ d ∈ digits, P d := by
          simp only [List.forall_mem_append, List.forall_mem_cons] at hrest
          exact ⟨hrest.1, hrest.2.2.1⟩
        rw [heq]
        simp only [List.forall_mem_append, List.forall_mem_cons]
        exact ⟨⟨⟨hc, hparts.1⟩, hopen, hparts.2⟩, hclose, ih hrest _⟩
      · rw [heq]
        exact List.forall_mem_cons.mpr ⟨hc, ih hrest 0⟩

/-- What a named reference stands for is made of its sigil, its name and its value. -/
theorem forall_mem_indexed {sigil : Char} {name value : Text} (hsigil : P sigil)
    (hname : ∀ c ∈ name, P c) (hvalue : ∀ c ∈ value, P c) (tail : Text) :
    ∀ c ∈ (indexed sigil name value tail).1, P c := by
  rw [indexed]
  split
  · exact hvalue
  · split
    · exact List.forall_mem_cons.mpr ⟨hsigil, hname⟩
    · split
      · rename_i i _
        exact fun c hc => hvalue c (Text.mem_of_mem_entryAt (i := i) hc)
      · exact hvalue

/-- That a scope holds no character but those with a property, as far as it can be read through
names of such characters. -/
structure Scope.Within (P : Char → Prop) (scope : Scope) : Prop where
  /-- The arguments. -/
  slots : ∀ slot ∈ scope.slots, ∀ c ∈ slot, P c
  /-- The groups of the last match. -/
  captures : ∀ group ∈ scope.captures, ∀ c ∈ group, P c
  /-- The values of the variables of the script that can be named. -/
  locals : ∀ name value, (∀ c ∈ name, P c) → scope.locals.get? name = some value → ∀ c ∈ value, P c
  /-- The values of the shared variables that can be named. -/
  globals : ∀ name value, (∀ c ∈ name, P c) → scope.globals.get? name = some value →
    ∀ c ∈ value, P c

/-- What holds of a text and of all values holds of the value of a name. -/
theorem forall_mem_namedValue? {sigil : Char} {store : Store} {after : Text} (hsigil : P sigil)
    (hafter : ∀ c ∈ after, P c)
    (hstore : ∀ name value, (∀ c ∈ name, P c) → store.get? name = some value → ∀ c ∈ value, P c)
    {out : Text} {taken : Nat} (h : namedValue? sigil store after = some (out, taken)) :
    ∀ c ∈ out, P c := by
  obtain ⟨⟨name, value⟩, hlongest, heq⟩ := Option.map_eq_some_iff.mp h
  have hfound := Store.longestAtStart?_eq_some_iff.mp hlongest
  have hname : ∀ c ∈ name, P c := fun c hc => hafter c (hfound.starts.subset hc)
  have hvalue : ∀ c ∈ value, P c := hstore name value hname hfound.value
  obtain ⟨rfl, -⟩ := Prod.mk.inj heq
  exact forall_mem_indexed hsigil hname hvalue _

variable {scope : Scope}

/-- What holds of a scope holds of its captures. -/
theorem Scope.Within.captureValue? (h : scope.Within P) {after out : Text} {taken : Nat}
    (hvalue : Script.captureValue? scope after = some (out, taken)) : ∀ c ∈ out, P c := by
  obtain ⟨d, -, hgroup⟩ := Option.bind_eq_some_iff.mp hvalue
  obtain ⟨group, hmem, heq⟩ := Option.bind_eq_some_iff.mp hgroup
  obtain ⟨rfl, -⟩ := Prod.mk.inj (Option.some.inj heq)
  exact h.captures _ (List.mem_of_getElem? hmem)

/-- What a reference stands for is made of the characters of the scope and of the line. -/
theorem Scope.Within.resolve? (h : scope.Within P) {sigil : Char} {after out : Text} {taken : Nat}
    (hsigil : P sigil) (hafter : ∀ c ∈ after, P c)
    (hvalue : Script.resolve? scope sigil after = some (out, taken)) : ∀ c ∈ out, P c := by
  rw [Script.resolve?.eq_def] at hvalue
  split at hvalue
  · split at hvalue
    · rename_i d _
      have hslot : ∀ c ∈ (scope.slots[d]?).getD [], P c := by
        cases hget : scope.slots[d]? with
        | none => simp
        | some slot => exact h.slots slot (List.mem_of_getElem? hget)
      obtain ⟨rfl, -⟩ := Prod.mk.inj (Option.some.inj hvalue)
      exact forall_mem_indexed hsigil (fun c hc => hafter c (List.mem_of_mem_take hc)) hslot _
    · exact forall_mem_namedValue? hsigil hafter h.locals hvalue
  · split at hvalue
    · exact h.captureValue? hvalue
    · exact forall_mem_namedValue? hsigil hafter h.globals hvalue
  · exact h.captureValue? hvalue
  · cases hvalue

/-- A reference in front is replaced by what it stands for. -/
theorem expandAfter_zero (scope : Scope) (c : Char) (rest : Text) :
    expandAfter scope 0 (c :: rest) = match resolve? scope c rest with
      | some (out, taken) => out ++ expandAfter scope taken rest
      | none => c :: expandAfter scope 0 rest := rfl

/-- What holds of a scope and a text holds of the text with its references replaced. -/
theorem Scope.Within.expandAfter (h : scope.Within P) {t : Text} (ht : ∀ c ∈ t, P c) (skip : Nat) :
    ∀ c ∈ Script.expandAfter scope skip t, P c := by
  induction t generalizing skip with
  | nil =>
    rw [Script.expandAfter]
    simp
  | cons c rest ih =>
    obtain ⟨hc, hrest⟩ := List.forall_mem_cons.mp ht
    cases skip with
    | succ skip => exact ih hrest skip
    | zero =>
      rw [expandAfter_zero]
      split
      · rename_i out taken hvalue
        exact List.forall_mem_append.mpr ⟨h.resolve? hc hrest hvalue, ih hrest taken⟩
      · exact List.forall_mem_cons.mpr ⟨hc, ih hrest 0⟩

/-- However often references are replaced, no other character comes in. -/
theorem Scope.Within.expand (h : scope.Within P) (hopen : P '[') (hclose : P ']') (rounds : Nat)
    {t : Text} (ht : ∀ c ∈ t, P c) : ∀ c ∈ Script.expand scope rounds t, P c := by
  induction rounds generalizing t with
  | zero => exact ht
  | succ rounds ih =>
    have hnext : ∀ c ∈ expandOnce scope (bracketIndices t), P c :=
      h.expandAfter (forall_mem_bracketAfter hopen hclose ht 0) 0
    rw [Script.expand]
    split
    · exact hnext
    · exact ih hnext

end Characters

/-- That two scopes differ in the variables of one name at most. -/
structure Scope.AgreeApart (n : Text) (scope other : Scope) : Prop where
  /-- The arguments are the same. -/
  slots : scope.slots = other.slots
  /-- The groups of the last match are the same. -/
  captures : scope.captures = other.captures
  /-- Any other variable of the script has the same value, or is set in neither. -/
  locals : ∀ name, name ≠ n → scope.locals.get? name = other.locals.get? name
  /-- Any other shared variable has the same value, or is set in neither. -/
  globals : ∀ name, name ≠ n → scope.globals.get? name = other.globals.get? name

section Agreement

variable {n : Text} {scope other : Scope}

/-- A variable whose name does not stand behind a sigil is not read. -/
theorem Scope.AgreeApart.resolve? (h : scope.AgreeApart n other) (sigil : Char) {after : Text}
    (hafter : ¬n <+: after) :
    Script.resolve? scope sigil after = Script.resolve? other sigil after := by
  have hne {name : Text} (hname : name <+: after) : name ≠ n := by
    rintro rfl
    exact hafter hname
  have hlocals : scope.locals.longestAtStart? after = other.locals.longestAtStart? after :=
    Store.longestAtStart?_congr fun name hname => h.locals name (hne hname)
  have hglobals : scope.globals.longestAtStart? after = other.globals.longestAtStart? after :=
    Store.longestAtStart?_congr fun name hname => h.globals name (hne hname)
  simp only [Script.resolve?.eq_def, namedValue?, captureValue?, hlocals, hglobals, h.slots,
    h.captures]

/-- A text without a name is expanded alike by scopes that differ in this name only. -/
theorem Scope.AgreeApart.expandAfter (h : scope.AgreeApart n other) {t : Text}
    (ht : ¬n <:+: t) (skip : Nat) :
    Script.expandAfter scope skip t = Script.expandAfter other skip t := by
  induction t generalizing skip with
  | nil => rfl
  | cons c rest ih =>
    have hrest : ¬n <:+: rest := fun hinside => ht (List.infix_cons hinside)
    cases skip with
    | succ skip => exact ih hrest skip
    | zero =>
      have hafter : ¬n <+: rest := fun hbegins => hrest hbegins.isInfix
      rw [expandAfter_zero, expandAfter_zero, h.resolve? c hafter]
      split <;> rw [ih hrest]

/-- A name that no text of any round can hold is read in none. -/
theorem Scope.AgreeApart.expand (h : scope.AgreeApart n other) {P : Char → Prop}
    (hscope : scope.Within P) (hopen : P '[') (hclose : P ']') (hn : ∃ c ∈ n, ¬P c) (rounds : Nat)
    {t : Text} (ht : ∀ c ∈ t, P c) :
    Script.expand scope rounds t = Script.expand other rounds t := by
  induction rounds generalizing t with
  | zero => rfl
  | succ rounds ih =>
    have hbrackets : ∀ c ∈ bracketIndices t, P c := forall_mem_bracketAfter hopen hclose ht 0
    have hfree : ¬n <:+: bracketIndices t := by
      intro hinside
      obtain ⟨c, hc, hnot⟩ := hn
      exact hnot (hbrackets c (hinside.subset hc))
    have hsame : expandOnce scope (bracketIndices t) = expandOnce other (bracketIndices t) :=
      h.expandAfter hfree 0
    have hnext : ∀ c ∈ expandOnce scope (bracketIndices t), P c := hscope.expandAfter hbrackets 0
    rw [Script.expand, Script.expand, ← hsame, ih hnext]

end Agreement

/-- The characters that replacing references can bring into a line when no variable of the given
name is read: those of the line, of the arguments and groups, and of the values of all other
variables, and the brackets that take the place of parentheses. -/
inductive Supplies (scope : Scope) (n t : Text) (c : Char) : Prop
  /-- The character is in the line. -/
  | line (h : c ∈ t)
  /-- It is in an argument. -/
  | slot {slot : Text} (hmem : slot ∈ scope.slots) (h : c ∈ slot)
  /-- It is in a group of the last match. -/
  | capture {group : Text} (hmem : group ∈ scope.captures) (h : c ∈ group)
  /-- It is in the value of another variable of the script. -/
  | ownValue {name value : Text} (hne : name ≠ n) (hget : scope.locals.get? name = some value)
      (h : c ∈ value)
  /-- It is in the value of another shared variable. -/
  | sharedValue {name value : Text} (hne : name ≠ n) (hget : scope.globals.get? name = some value)
      (h : c ∈ value)
  /-- It is a bracket. -/
  | bracket (h : c = '[' ∨ c = ']')

/-- Where a name holds another character, no variable of that name is read. -/
theorem within_supplies {scope : Scope} {n t : Text} (hn : ∃ c ∈ n, ¬Supplies scope n t c) :
    scope.Within (Supplies scope n t) := by
  have hother {name : Text} (hname : ∀ c ∈ name, Supplies scope n t c) : name ≠ n := by
    rintro rfl
    obtain ⟨c, hc, hnot⟩ := hn
    exact hnot (hname c hc)
  exact
    { slots := fun _ hmem _ h => .slot hmem h
      captures := fun _ hmem _ h => .capture hmem h
      locals := fun _ _ hname hget _ h => .ownValue (hother hname) hget h
      globals := fun _ _ hname hget _ h => .sharedValue (hother hname) hget h }

/-- The scope in which the variables of one name have been set or unset. -/
def Scope.assign (scope : Scope) (n : Text) (own shared : Option Text) : Scope :=
  { scope with
    locals := scope.locals.assign n own
    globals := scope.globals.assign n shared }

/-- Assigning a name makes no difference apart from it. -/
theorem Scope.agreeApart_assign (scope : Scope) (n : Text) (own shared : Option Text) :
    scope.AgreeApart n (scope.assign n own shared) where
  slots := rfl
  captures := rfl
  locals _ hname := (scope.locals.get?_assign hname own).symm
  globals _ hname := (scope.globals.get?_assign hname shared).symm

/-- If a name holds a character that is no bracket and that the line, the arguments, the groups and
the values of all other variables do not hold, then replacing references yields the same whether the
name is set or not, to whatever value, among the variables of the script, the shared ones or both.
And each character of what it yields is a bracket or comes from one of those texts. -/
theorem unrelated_name_changes_nothing {scope : Scope} {n t : Text} {c : Char} (hc : c ∈ n)
    (hfree : ¬Supplies scope n t c) (rounds : Nat) :
    (∀ own shared, expand (scope.assign n own shared) rounds t = expand scope rounds t) ∧
      ∀ d ∈ expand scope rounds t, Supplies scope n t d := by
  have hscope := within_supplies ⟨c, hc, hfree⟩
  have hopen : Supplies scope n t '[' := .bracket (.inl rfl)
  have hclose : Supplies scope n t ']' := .bracket (.inr rfl)
  have hline : ∀ d ∈ t, Supplies scope n t d := fun _ => .line
  refine ⟨fun own shared => ?_, hscope.expand hopen hclose rounds hline⟩
  have hagree := scope.agreeApart_assign n own shared
  exact (hagree.expand hscope hopen hclose ⟨c, hc, hfree⟩ rounds hline).symm

/-- Names may be put together from values, and values may hold references themselves. -/
theorem unrelated_name_changes_nothing_hall :
    let scope : Scope :=
      { locals := ⟨[("who", "Ann|Bob"), ("i", "1")]⟩
        slots := ["to east", "to", "east"]
        captures := ["7 coins", "7"]
        globals := ⟨[("room", "%who[%i] hall"), ("who_is", "$who_is!")]⟩ }
    ('_' ∈ "who_is".toList ∧ ¬Supplies scope "who_is" "say %who(0) %1 $room, %w%2 $1" '_') ∧
      (∀ own shared, expand (scope.assign "who_is" own shared) 16 "say %who(0) %1 $room, %w%2 $1" =
        expand scope 16 "say %who(0) %1 $room, %w%2 $1") ∧
      ∀ d ∈ expand scope 16 "say %who(0) %1 $room, %w%2 $1",
        Supplies scope "who_is" "say %who(0) %1 $room, %w%2 $1" d := by
  intro scope
  have hfree : ¬Supplies scope "who_is" "say %who(0) %1 $room, %w%2 $1" '_' := by
    have hline : '_' ∉ "say %who(0) %1 $room, %w%2 $1".toList := by decide
    have hslots : ∀ slot ∈ scope.slots, '_' ∉ slot := by decide
    have hcaptures : ∀ group ∈ scope.captures, '_' ∉ group := by decide
    have hlocals : ∀ entry ∈ scope.locals.entries, '_' ∉ entry.2 := by decide
    have hglobals : ∀ entry ∈ scope.globals.entries, entry.1 ≠ "who_is" → '_' ∉ entry.2 := by decide
    have hbracket : ¬('_' = '[' ∨ '_' = ']') := by decide
    intro h
    cases h with
    | line h => exact hline h
    | slot hmem h => exact hslots _ hmem h
    | capture hmem h => exact hcaptures _ hmem h
    | ownValue _ hget h => exact hlocals _ (Store.mem_of_get? hget) h
    | sharedValue hne hget h => exact hglobals _ (Store.mem_of_get? hget) hne h
    | bracket h => exact hbracket h
  have hc : '_' ∈ "who_is".toList := by decide
  exact ⟨⟨hc, hfree⟩, unrelated_name_changes_nothing hc hfree 16⟩

end Mudline.Script
