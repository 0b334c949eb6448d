import Mudline.Proofs.Formula.ListEntry
import Mudline.Proofs.Script.Substitution

/-!
# Entries of lists in references

An entry of a list can be asked for in a formula and in a reference, there with an index in brackets
or in parentheses. All of them find the same entries, and the number of entries that a formula finds
is the number that there are.
-/

namespace Mudline

namespace Script

/-- Without a sigil there is nothing to resolve. -/
theorem resolve?_eq_none {c : Char} (h : isSigil c = false) (scope : Scope) (after : Text) :
    resolve? scope c after = none := by
  rw [resolve?.eq_def]
  split <;> first | rfl | cases h

/-- What belongs to a reference is skipped. -/
theorem expandAfter_drop (scope : Scope) (skip : Nat) (t : Text) :
    expandAfter scope skip t = expandOnce scope (t.drop skip) := by
  induction skip generalizing t with
  | zero => rfl
  | succ skip ih =>
    cases t with
    | nil => rfl
    | cons c rest => exact ih rest

/-- Skipped characters make no difference to the indices behind them. -/
theorem bracketAfter_drop (skip : Nat) (t : Text) :
    bracketAfter skip t = bracketIndices (t.drop skip) := by
  induction skip generalizing t with
  | zero => rfl
  | succ skip ih =>
    cases t with
    | nil => rfl
    | cons c rest => exact ih rest

section Plain

variable {t : Text} (h : ∀ c ∈ t, isSigil c = false)

include h

/-- A text without sigils stands for itself. -/
theorem expandOnce_of_plain (scope : Scope) : expandOnce scope t = t := by
  induction t with
  | nil => rfl
  | cons c rest ih =>
    obtain ⟨hc, hrest⟩ := List.forall_mem_cons.mp h
    rw [expandOnce, expandAfter_zero, resolve?_eq_none hc]
    exact congrArg (c :: ·) (ih hrest)

/-- A text without sigils has no indices. -/
theorem bracketIndices_of_plain : bracketIndices t = t := by
  induction t with
  | nil => rfl
  | cons c rest ih =>
    obtain ⟨hc, hrest⟩ := List.forall_mem_cons.mp h
    have hsigil : (c == '%' || c == '$') = false := by
      rw [isSigil, Bool.or_eq_false_iff] at hc
      exact hc.1
    rw [bracketIndices, bracketAfter]
    simp only [hsigil, Bool.false_eq_true, if_false]
    exact congrArg (c :: ·) (ih hrest)

/-- Where there are no references, none are replaced. -/
theorem expand_of_plain (scope : Scope) (rounds : Nat) : expand scope rounds t = t := by
  cases rounds with
  | zero => rfl
  | succ rounds => simp [expand, bracketIndices_of_plain h, expandOnce_of_plain h scope]

end Plain

/-- What is replaced by a text without references is replaced in one round. -/
theorem expand_of_once {scope : Scope} {t out : Text}
    (honce : expandOnce scope (bracketIndices t) = out) (hout : ∀ c ∈ out, isSigil c = false)
    {rounds : Nat} (hrounds : 1 ≤ rounds) :
    expand scope rounds t = out := by
  obtain ⟨rounds, rfl⟩ := Nat.exists_eq_add_of_le' hrounds
  rw [expand, honce]
  split
  · rfl
  · exact expand_of_plain hout scope rounds

/-- That a name can stand before an index in either form: it consists of letters, digits,
underscores and dots, and does not begin with a digit. -/
structure IsListName (name : Text) : Prop where
  /-- It is not empty. -/
  filled : name ≠ []
  /-- All its characters can stand before an index in parentheses. -/
  chars : ∀ c ∈ name, isIndexedNameChar c = true
  /-- It does not begin like the number of an argument or a group. -/
  first : ∀ c, name.head? = some c → Text.isDigit c = false

/-- An index in brackets behind a sigil and a name. -/
def bracketRef (sigil : Char) (name : Text) (i : Nat) : Text :=
  sigil :: (name ++ '[' :: (Text.ofNat i ++ [']']))

/-- An index in parentheses behind a sigil and a name. -/
def parenRef (sigil : Char) (name : Text) (i : Nat) : Text :=
  sigil :: (name ++ '(' :: (Text.ofNat i ++ [')']))

/-- That behind a sigil only one name is set, to a value. -/
inductive OnlyVariable (scope : Scope) (name value : Text) : Char → Prop
  /-- It is a variable of the script. -/
  | own (h : scope.locals = Store.empty.set name value) : OnlyVariable scope name value '%'
  /-- It is a shared variable. -/
  | shared (h : scope.globals = Store.empty.set name value) : OnlyVariable scope name value '$'

/-- A character of an indexed name is no sigil. -/
theorem isSigil_of_isIndexedNameChar {c : Char} (h : isIndexedNameChar c = true) :
    isSigil c = false := by
  refine Bool.eq_false_iff.mpr fun hsigil => ?_
  simp only [isSigil, Bool.or_eq_true, beq_iff_eq] at hsigil
  obtain (rfl | rfl) | rfl := hsigil <;> exact absurd h (by decide)

/-- A digit is no sigil. -/
theorem isSigil_of_mem_ofNat {i : Nat} {c : Char} (h : c ∈ Text.ofNat i) : isSigil c = false := by
  have hdigit := Text.isDigit_of_mem_ofNat h
  exact isSigil_of_isIndexedNameChar (by simp [isIndexedNameChar, hdigit])

/-- An index in brackets picks an entry of the value. -/
theorem indexed_bracket {sigil : Char} {name value : Text} {i : Nat} (hi : i ≤ Text.maxWord) :
    indexed sigil name value ('[' :: (Text.ofNat i ++ [']'])) =
      (Text.entryAt '|' value i, (Text.ofNat i).length + 2) := by
  have hbracketed : bracketed? ('[' :: (Text.ofNat i ++ [']'])) = some (Text.ofNat i) := by
    have hdigits : ∀ c ∈ Text.ofNat i, (c != ']') = true := fun c hc =>
      bne_iff_ne.mpr (Text.ne_of_isDigit (Text.isDigit_of_mem_ofNat hc) rfl)
    simp [bracketed?, List.takeWhile_append_of_pos hdigits]
  have hplain : (Text.ofNat i).any isSigil = false :=
    List.any_eq_false.mpr fun c hc => by simp [isSigil_of_mem_ofNat hc]
  have hread : Text.readWord? (Text.trim (Text.ofNat i)) = some i := by
    rw [Text.trim_ofNat, Text.readWord?_ofNat, if_pos hi]
  simp [indexed, hbracketed, hplain, hread, Text.entryAt]

section Indices

variable {sigil : Char} {name : Text} (hname : IsListName name)

include hname

/-- An index in parentheses is rewritten to one in brackets. -/
theorem bracketIndices_parenRef (hsigil : sigil = '%' ∨ sigil = '$') (i : Nat) :
    bracketIndices (parenRef sigil name i) = bracketRef sigil name i := by
  have hindex : parenIndex? (name ++ '(' :: (Text.ofNat i ++ [')'])) = some (name, Text.ofNat i) :=
    parenIndex?_eq_some_iff.mpr ⟨⟨hname.filled, hname.chars⟩,
      ⟨Text.ofNat_ne_nil i, fun _ hc => Text.isDigit_of_mem_ofNat hc⟩, [], rfl⟩
  have hlength : (name ++ '(' :: (Text.ofNat i ++ [')'])).drop
      (name.length + (Text.ofNat i).length + 2) = [] := by
    rw [List.drop_eq_nil_iff]
    simp
    omega
  have hsigil' : (sigil == '%' || sigil == '$') = true := by simpa using hsigil
  rw [parenRef, bracketIndices, bracketAfter]
  simp only [hsigil', if_true, hindex]
  rw [bracketAfter_drop, hlength, bracketRef]
  simp [bracketIndices, bracketAfter]

/-- An index in brackets stays. -/
theorem bracketIndices_bracketRef (i : Nat) :
    bracketIndices (bracketRef sigil name i) = bracketRef sigil name i := by
  have hindex : parenIndex? (name ++ '[' :: (Text.ofNat i ++ [']'])) = none := by
    have hopen : isIndexedNameChar '[' = false := by decide
    simp [parenIndex?, List.dropWhile_append_of_pos hname.chars, hopen]
  have hnumber : ∀ c ∈ Text.ofNat i ++ [']'], isSigil c = false :=
    List.forall_mem_append.mpr ⟨fun _ => isSigil_of_mem_ofNat,
      List.forall_mem_singleton.mpr (by decide)⟩
  have hplain : ∀ c ∈ name ++ '[' :: (Text.ofNat i ++ [']']), isSigil c = false :=
    List.forall_mem_append.mpr ⟨fun c hc => isSigil_of_isIndexedNameChar (hname.chars c hc),
      List.forall_mem_cons.mpr ⟨by decide, hnumber⟩⟩
  rw [bracketRef, bracketIndices, bracketAfter]
  simp only [hindex, ite_self]
  exact congrArg (sigil :: ·) (bracketIndices_of_plain hplain)

/-- Behind the name, the reference takes the whole index and stands for the entry. -/
theorem namedValue?_bracketRef {value : Text} {i : Nat} (hi : i ≤ Text.maxWord) :
    namedValue? sigil (Store.empty.set name value) (name ++ '[' :: (Text.ofNat i ++ [']'])) =
      some (Text.entryAt '|' value i, name.length + ((Text.ofNat i).length + 2)) := by
  have hset (other : Text) : (Store.empty.set name value).get? other =
      if other == name then some value else none := Store.get?_set _ _ _ _
  have hlongest : (Store.empty.set name value).longestAtStart?
      (name ++ '[' :: (Text.ofNat i ++ [']'])) = some (name, value) := by
    refine Store.longestAtStart?_eq_some_iff.mpr ⟨hname.filled, List.prefix_append _ _, ?_, ?_⟩
    · rw [hset, if_pos (beq_self_eq_true name)]
    · intro other hother _
      rw [hset] at hother
      split at hother
      · rename_i hsame
        rw [beq_iff_eq.mp hsame]
      · cases hother
  rw [namedValue?, hlongest, Option.map_some]
  dsimp only
  rw [List.drop_left, indexed_bracket hi]

/-- A name that does not begin with a digit is no argument and no group. -/
theorem leadingDigit?_name (rest : Text) : leadingDigit? (name ++ rest) = none := by
  obtain ⟨c, more, rfl⟩ := List.exists_cons_of_ne_nil hname.filled
  simp [leadingDigit?, hname.first c rfl]

/-- In one round, a reference to an entry of the only variable of its kind becomes the entry. -/
theorem expandOnce_bracketRef {scope : Scope} {value : Text}
    (hscope : OnlyVariable scope name value sigil) {i : Nat} (hi : i ≤ Text.maxWord) :
    expandOnce scope (bracketRef sigil name i) = Text.entryAt '|' value i := by
  have hnamed := @namedValue?_bracketRef sigil name hname value i hi
  have hresolve : resolve? scope sigil (name ++ '[' :: (Text.ofNat i ++ [']'])) =
      some (Text.entryAt '|' value i, name.length + ((Text.ofNat i).length + 2)) := by
    have hdigit := leadingDigit?_name hname ('[' :: (Text.ofNat i ++ [']']))
    cases hscope with
    | own hstore => rw [resolve?, hdigit, hstore, hnamed]
    | shared hstore =>
      rw [resolve?, hdigit, hstore, hnamed]
      rfl
  have hrest : (name ++ '[' :: (Text.ofNat i ++ [']'])).drop
      (name.length + ((Text.ofNat i).length + 2)) = [] := by
    rw [List.drop_eq_nil_iff]
    simp
  rw [bracketRef, expandOnce, expandAfter_zero, hresolve]
  dsimp only
  rw [expandAfter_drop, hrest]
  exact List.append_nil _

/-- Both forms of an index become the entry, in any number of rounds, where the list holds no
references. -/
theorem expand_ref {scope : Scope} {value : Text}
    (hscope : OnlyVariable scope name value sigil)
    (hvalue : ∀ c ∈ value, isSigil c = false) {i : Nat} (hi : i ≤ Text.maxWord) {rounds : Nat}
    (hrounds : 1 ≤ rounds) :
    expand scope rounds (bracketRef sigil name i) = Text.entryAt '|' value i ∧
      expand scope rounds (parenRef sigil name i) = Text.entryAt '|' value i := by
  have hsigil : sigil = '%' ∨ sigil = '$' := by
    cases hscope with
    | own => exact .inl rfl
    | shared => exact .inr rfl
  have hentry : ∀ c ∈ Text.entryAt '|' value i, isSigil c = false :=
    fun c hc => hvalue c (Text.mem_of_mem_entryAt hc)
  have honce := expandOnce_bracketRef hname hscope hi
  constructor
  · exact expand_of_once (by rw [bracketIndices_bracketRef hname, honce]) hentry hrounds
  · exact expand_of_once (by rw [bracketIndices_parenRef hname hsigil, honce]) hentry hrounds

end Indices

/-- That a list is read alike by the functions and by references: it has so many entries, and these
entries at its places. -/
structure ReadsAlike (known : Text → Bool) (list : Text) (number : Nat) (entry : Nat → Text) :
    Prop where
  /-- A formula counts the entries. -/
  counted : Function.call known "countsplit" [list, "|"] = .ok ⟨Text.ofNat number, []⟩
  /-- A formula finds the entry at each place. -/
  found : ∀ i, Function.call known "element" [Text.ofNat i, list] = .ok ⟨entry i, []⟩
  /-- The entries make up the list, if a word of the machine can number them, as it can for any list
  in its memory. -/
  whole : number ≤ Text.maxWord + 1 → Text.join "|" ((List.range number).map entry) = list
  /-- Behind the last entry there is nothing. -/
  behind : ∀ i, number ≤ i → entry i = []
  /-- A reference to the only variable finds the entry with an index in either form, if the list
  holds no references. -/
  referred : (∀ c ∈ list, isSigil c = false) → ∀ i ≤ Text.maxWord, ∀ rounds ≥ 1,
    ∀ scope name sigil, IsListName name → OnlyVariable scope name list sigil →
      expand scope rounds (bracketRef sigil name i) = entry i ∧
        expand scope rounds (parenRef sigil name i) = entry i

/-- A list without quotes at its ends is read alike by the functions and by references. -/
theorem lists_are_read_alike {list : Text} (hfirst : list.head? ≠ some '"')
    (hlast : list.getLast? ≠ some '"') (known : Text → Bool) :
    ∃ number entry, ReadsAlike known list number entry := by
  refine ⟨(Text.splitOn '|' list).length, Function.entryFound list, ?_⟩
  exact
    { counted := Function.call_countSplit hfirst hlast known
      found := Function.call_element hfirst hlast known
      whole := fun hnumber => by
        have hentries : (List.range (Text.splitOn '|' list).length).map (Function.entryFound list) =
            (List.range (Text.splitOn '|' list).length).map (Text.entryAt '|' list) := by
          refine List.map_congr_left fun i hi => Function.entryFound_of_le ?_
          rw [List.mem_range] at hi
          omega
        rw [hentries, Text.map_entryAt]
        exact Text.join_splitOn '|' list
      behind := fun _ => Function.entryFound_behind
      referred := fun hplain i hi rounds hrounds scope name sigil hname hscope => by
        rw [Function.entryFound_of_le hi]
        exact expand_ref hname hscope hplain hi hrounds }

/-- Entries may be empty, and hold blanks, quotes and brackets. -/
theorem lists_are_read_alike_path :
    ("|go \"north\"||x[1]|".toList.head? ≠ some '"' ∧
        "|go \"north\"||x[1]|".toList.getLast? ≠ some '"') ∧
      ∃ number entry, ReadsAlike (fun _ => false) "|go \"north\"||x[1]|" number entry := by
  have hfirst : "|go \"north\"||x[1]|".toList.head? ≠ some '"' := by decide
  have hlast : "|go \"north\"||x[1]|".toList.getLast? ≠ some '"' := by decide
  exact ⟨⟨hfirst, hlast⟩, lists_are_read_alike hfirst hlast _⟩

/-- One round rewrites the index and replaces the reference. -/
example :
    let scope : Scope := { locals := Store.empty.set "v" "north||south" }
    expand scope 1 "%v(2)" = "south" ∧ expand scope 1 "%v[1]" = [] ∧
      expand scope 1 "%v[3]" = [] := by decide

end Script

end Mudline
