import Mathlib.Data.List.Infix
import Mudline.Display.Entity

/-!
# Escaping and its inverse

Reading entities back undoes writing them, because it is one pass: names are replaced from the left,
they do not overlap, and what a name was replaced by is not looked at again. So a text may be read
in parts as long as no name of an entity stands across a cut.
-/

namespace Mudline.Display

/-- The entities, in the order in which they are looked for, each with the character that it stands
for. -/
def entities : List (Text × Char) :=
  [("&gt;", '>'), ("&lt;", '<'), ("&amp;", '&')]

/-- A character as it is written in character data. -/
def escapeChar (c : Char) : Text :=
  ((entities.find? fun e => e.2 == c).map Prod.fst).getD [c]

/-- A text as it is written in character data. -/
def escape (t : Text) : Text :=
  t.flatMap escapeChar

/-- That `out` is `t` with names of a table replaced. Places are tried from the left: where names
stand, the first of the table is replaced, and the search goes on behind it. -/
inductive Replaced (table : List (Text × Char)) : Text → Text → Prop
  /-- Nothing is left. -/
  | done : Replaced table [] []
  /-- A name stands here. -/
  | name {name rest out : Text} {c : Char}
      (hfirst : table.find? (fun e => e.1.isPrefixOf (name ++ rest)) = some (name, c))
      (hrest : Replaced table rest out) : Replaced table (name ++ rest) (c :: out)
  /-- No name stands here. -/
  | char {c : Char} {rest out : Text} (hnone : ∀ e ∈ table, ¬e.1 <+: c :: rest)
      (hrest : Replaced table rest out) : Replaced table (c :: rest) (c :: out)

/-- There are three entities. -/
theorem mem_entities {e : Text × Char} (h : e ∈ entities) :
    e = ("&gt;".toList, '>') ∨ e = ("&lt;".toList, '<') ∨ e = ("&amp;".toList, '&') := by
  simpa [entities] using h

/-- An entity begins with an ampersand and has no other. -/
theorem exists_cons_of_mem_entities {e : Text × Char} (h : e ∈ entities) :
    ∃ rest, e.1 = '&' :: rest ∧ '&' ∉ rest ∧ rest ≠ [] := by
  obtain rfl | rfl | rfl := mem_entities h
  · exact ⟨"gt;".toList, by decide⟩
  · exact ⟨"lt;".toList, by decide⟩
  · exact ⟨"amp;".toList, by decide⟩

/-- An entity is replaced by its character. -/
theorem unescape_entity {e : Text × Char} (h : e ∈ entities) (rest : Text) :
    unescape (e.1 ++ rest) = e.2 :: unescape rest := by
  obtain rfl | rfl | rfl := mem_entities h <;> rfl

/-- A character at which no entity begins stays. -/
theorem unescape_cons {c : Char} {rest : Text} (h : ∀ e ∈ entities, ¬e.1 <+: c :: rest) :
    unescape (c :: rest) = c :: unescape rest := by
  rw [unescape]
  · rintro more rfl rfl
    exact h ("&gt;", '>') (by decide) ⟨more, rfl⟩
  · rintro more rfl rfl
    exact h ("&lt;", '<') (by decide) ⟨more, rfl⟩
  · rintro more rfl rfl
    exact h ("&amp;", '&') (by decide) ⟨more, rfl⟩

/-- Only an ampersand begins an entity. -/
theorem unescape_cons_of_ne {c : Char} (h : c ≠ '&') (rest : Text) :
    unescape (c :: rest) = c :: unescape rest := by
  refine unescape_cons fun e he hbegins => ?_
  obtain ⟨tail, hname, -⟩ := exists_cons_of_mem_entities he
  rw [hname, List.cons_prefix_cons] at hbegins
  exact h hbegins.1.symm

/-- A text without ampersands need not be searched. -/
theorem unescape_of_notMem {t : Text} (h : '&' ∉ t) : unescape t = t := by
  induction t with
  | nil => rfl
  | cons c t ih =>
    obtain ⟨hc, hrest⟩ : '&' ≠ c ∧ '&' ∉ t := by simpa using h
    rw [unescape_cons_of_ne hc.symm, ih hrest]

/-- No entity begins another, so at most one stands at a place. -/
theorem find?_entity {e : Text × Char} (h : e ∈ entities) (rest : Text) :
    entities.find? (fun e' => e'.1.isPrefixOf (e.1 ++ rest)) = some e := by
  obtain rfl | rfl | rfl := mem_entities h <;> rfl

/-- Unescaping replaces the entities of a text from the left. -/
theorem replaced_unescape (t : Text) : Replaced entities t (unescape t) := by
  induction hlength : t.length using Nat.strong_induction_on generalizing t with
  | _ n ih =>
    by_cases hname : ∃ e ∈ entities, e.1 <+: t
    · obtain ⟨e, he, rest, rfl⟩ := hname
      obtain ⟨tail, htail, -⟩ := exists_cons_of_mem_entities he
      have hshorter : rest.length < n := by
        rw [List.length_append, htail, List.length_cons] at hlength
        omega
      rw [unescape_entity he]
      exact .name (find?_entity he rest) (ih _ hshorter rest rfl)
    · cases t with
      | nil => exact .done
      | cons c rest =>
        have hnone : ∀ e ∈ entities, ¬e.1 <+: c :: rest :=
          fun e he hbegins => hname ⟨e, he, hbegins⟩
        rw [unescape_cons hnone]
        exact .char hnone (ih _ (by simp [← hlength]) rest rfl)

/-- The replacement from the left has one result, and reading entities back yields it. -/
theorem replaced_iff {t out : Text} : Replaced entities t out ↔ out = unescape t := by
  constructor
  · intro h
    induction h with
    | done => rfl
    | name hfirst _ ih =>
      rw [ih, ← unescape_entity (List.mem_of_find?_eq_some hfirst)]
    | char hnone _ ih => rw [ih, unescape_cons hnone]
  · rintro rfl
    exact replaced_unescape t

/-- The character of an entity is escaped as the entity. -/
theorem escapeChar_entity {e : Text × Char} (h : e ∈ entities) : escapeChar e.2 = e.1 := by
  obtain rfl | rfl | rfl := mem_entities h <;> rfl

/-- Any other character is left as it is. -/
theorem escapeChar_of_notMem {c : Char} (h : ∀ e ∈ entities, e.2 ≠ c) : escapeChar c = [c] := by
  have hnone : entities.find? (fun e => e.2 == c) = none :=
    List.find?_eq_none.mpr fun e he => by simpa using h e he
  rw [escapeChar, hnone]
  rfl

/-- What was escaped is unescaped as it was. -/
theorem unescape_escape (t : Text) : unescape (escape t) = t := by
  induction t with
  | nil => rfl
  | cons c t ih =>
    have hescape : escape (c :: t) = escapeChar c ++ escape t := List.flatMap_cons
    by_cases hc : ∃ e ∈ entities, e.2 = c
    · obtain ⟨e, he, rfl⟩ := hc
      rw [hescape, escapeChar_entity he, unescape_entity he, ih]
    · have hnone : ∀ e ∈ entities, e.2 ≠ c := fun e he heq => hc ⟨e, he, heq⟩
      have hne : c ≠ '&' := fun heq => hnone ("&amp;", '&') (by decide) heq.symm
      rw [hescape, escapeChar_of_notMem hnone, List.singleton_append, unescape_cons_of_ne hne, ih]

/-- That an entity stands across the cut between two texts. -/
def Across (a b : Text) : Prop :=
  ∃ e ∈ entities, ∃ p q, p ≠ [] ∧ q ≠ [] ∧ e.1 = p ++ q ∧ p <:+ a ∧ q <+: b

/-- An entity that begins before a cut is complete there, or it stands across the cut. -/
theorem prefix_of_not_across {a b : Text} (h : ¬Across a b) (ha : a ≠ []) {e : Text × Char}
    (he : e ∈ entities) (hbegins : e.1 <+: a ++ b) : e.1 <+: a := by
  obtain hinside | ⟨q, hq⟩ := List.prefix_or_prefix_of_prefix hbegins (List.prefix_append a b)
  · exact hinside
  · have hnil : q = [] := by
      by_contra hne
      rw [← hq, List.prefix_append_right_inj] at hbegins
      exact h ⟨e, he, a, q, ha, hne, hq.symm, List.suffix_refl a, hbegins⟩
    rw [← hq, hnil, List.append_nil]

/-- An entity that begins at the end of a text begins in any text that ends like this. -/
theorem Across.of_suffix {a a' b : Text} (h : Across a b) (hsuffix : a <:+ a') : Across a' b := by
  obtain ⟨e, he, p, q, hp, hq, hname, hpa, hqb⟩ := h
  exact ⟨e, he, p, q, hp, hq, hname, hpa.trans hsuffix, hqb⟩

/-- Where no entity stands across a cut, what is before it can be read by itself. -/
theorem unescape_append {a b : Text} (h : ¬Across a b) :
    unescape (a ++ b) = unescape a ++ unescape b := by
  have hreplaced := replaced_unescape a
  generalize unescape a = out at hreplaced
  induction hreplaced with
  | done => rfl
  | @name name rest out c hfirst hrest ih =>
    have he := List.mem_of_find?_eq_some hfirst
    have hlater : ¬Across rest b := fun hacross => h (hacross.of_suffix (List.suffix_append _ _))
    rw [List.append_assoc, unescape_entity he, ih hlater, List.cons_append]
  | @char c rest out hnone hrest ih =>
    have hlater : ¬Across rest b := fun hacross => h (hacross.of_suffix (List.suffix_cons _ _))
    have hstays : ∀ e ∈ entities, ¬e.1 <+: c :: (rest ++ b) := fun e he hbegins =>
      hnone e he (prefix_of_not_across h (List.cons_ne_nil c rest) he hbegins)
    rw [List.cons_append, unescape_cons hstays, ih hlater, List.cons_append]

/-- No entity stands across a cut before an ampersand. -/
theorem not_across_ampersand (a b : Text) : ¬Across a ('&' :: b) := by
  rintro ⟨e, he, p, q, hp, hq, hname, -, hbegins⟩
  obtain ⟨rest, hrest, hnone, -⟩ := exists_cons_of_mem_entities he
  obtain ⟨c, p, rfl⟩ := List.exists_cons_of_ne_nil hp
  obtain ⟨d, q, rfl⟩ := List.exists_cons_of_ne_nil hq
  obtain ⟨rfl, -⟩ := List.cons_prefix_cons.mp hbegins
  rw [hrest, List.cons_append, List.cons.injEq] at hname
  exact hnone (hname.2 ▸ by simp)

/-- Nor does one stand across a cut behind a text without ampersands. -/
theorem not_across_of_notMem {a : Text} (h : '&' ∉ a) (b : Text) : ¬Across a b := by
  rintro ⟨e, he, p, q, hp, -, hname, hsuffix, -⟩
  obtain ⟨rest, hrest, -⟩ := exists_cons_of_mem_entities he
  obtain ⟨c, p, rfl⟩ := List.exists_cons_of_ne_nil hp
  rw [hrest, List.cons_append, List.cons.injEq] at hname
  exact h (hsuffix.subset (hname.1 ▸ List.mem_cons_self))

/-- The beginning of an entity is read as it stands. -/
theorem unescape_beginning {e : Text × Char} (he : e ∈ entities) {p q : Text} (hq : q ≠ [])
    (hname : e.1 = p ++ q) : unescape p = p := by
  have hall : ∀ e ∈ entities, ∀ k < e.1.length, unescape (e.1.take k) = e.1.take k := by decide
  have hshort : p.length < e.1.length := by
    have hpos := List.length_pos_iff.mpr hq
    rw [hname, List.length_append]
    omega
  have htake : e.1.take p.length = p := by rw [hname, List.take_left]
  rw [← htake]
  exact hall e he p.length hshort

/-- What is before a cut can be read by itself exactly if no entity stands across the cut. -/
theorem unescape_append_iff {a b : Text} :
    unescape (a ++ b) = unescape a ++ unescape b ↔ ¬Across a b := by
  refine ⟨?_, unescape_append⟩
  rintro heq ⟨e, he, p, q, hp, hq, hname, ⟨front, rfl⟩, ⟨back, rfl⟩⟩
  obtain ⟨rest, hrest, hnone, hne⟩ := exists_cons_of_mem_entities he
  obtain ⟨c, p, rfl⟩ := List.exists_cons_of_ne_nil hp
  obtain ⟨rfl, hsplit⟩ : '&' = c ∧ rest = p ++ q := by
    rwa [hrest, List.cons_append, List.cons.injEq] at hname
  have hplain : '&' ∉ q := fun hmem => hnone (hsplit ▸ List.mem_append_right p hmem)
  have hbefore : unescape (front ++ '&' :: p) = unescape front ++ '&' :: p := by
    rw [unescape_append (not_across_ampersand front p), unescape_beginning he hq hname]
  have hbehind : unescape (q ++ back) = q ++ unescape back := by
    rw [unescape_append (not_across_of_notMem hplain back),
      unescape_of_notMem hplain]
  have hwhole : unescape (front ++ '&' :: p ++ (q ++ back)) =
      unescape front ++ e.2 :: unescape back := by
    have hcut : front ++ '&' :: p ++ (q ++ back) = front ++ '&' :: (rest ++ back) := by
      rw [hsplit]
      simp
    rw [hcut, unescape_append (not_across_ampersand front _), ← List.cons_append, ← hrest,
      unescape_entity he]
  -- The whole entity becomes one character, and its two parts stay as they are.
  rw [hwhole, hbefore, hbehind] at heq
  have hlength := congrArg List.length heq
  have hlong : 0 < p.length + q.length := by
    rw [← List.length_append, ← hsplit]
    exact List.length_pos_iff.mpr hne
  simp only [List.length_append, List.length_cons] at hlength
  omega

/-- That a text ends inside an entity: with a beginning of one that is not the whole. -/
def EndsInside (t : Text) : Prop :=
  ∃ e ∈ entities, ∃ p, p ≠ [] ∧ p <+: e.1 ∧ p ≠ e.1 ∧ p <:+ t

/-- Only the beginnings of the entities need to be tried. -/
theorem endsInside_iff {t : Text} : EndsInside t ↔
    ∃ e ∈ entities, ∃ k < e.1.length, k ≠ 0 ∧ e.1.take k <:+ t := by
  constructor
  · rintro ⟨e, he, p, hp, hbegins, hproper, hends⟩
    refine ⟨e, he, p.length, ?_, by simpa using hp, ?_⟩
    · exact lt_of_le_of_ne hbegins.length_le fun heq => hproper (hbegins.eq_of_length heq)
    · rwa [← List.prefix_iff_eq_take.mp hbegins]
  · rintro ⟨e, he, k, hk, hpos, hends⟩
    have hlength : (e.1.take k).length = k := List.length_take_of_le hk.le
    refine ⟨e, he, e.1.take k, ?_, List.take_prefix k e.1, ?_, hends⟩
    · rw [← List.length_pos_iff, hlength]
      omega
    · intro hwhole
      rw [hwhole] at hlength
      omega

instance (t : Text) : Decidable (EndsInside t) :=
  decidable_of_iff' _ endsInside_iff

/-- A text across whose end an entity reaches ends inside an entity. -/
theorem Across.endsInside {a b : Text} (h : Across a b) : EndsInside a := by
  obtain ⟨e, he, p, q, hp, hq, hname, hsuffix, -⟩ := h
  refine ⟨e, he, p, hp, ⟨q, hname.symm⟩, fun heq => hq ?_, hsuffix⟩
  rwa [hname, List.self_eq_append_right] at heq

/-- Reading entities back is the replacement of their names from the left, without overlaps, and
leaves a text without ampersands as it is. It undoes writing them. Behind a text that does not end
inside an entity it goes on anew; and it does so behind a given text before another exactly if no
entity stands across the cut between the two. -/
theorem unescape_inverts_escape :
    (∀ t out, Replaced entities t out ↔ out = unescape t) ∧
      (∀ t, '&' ∉ t → unescape t = t) ∧
      (∀ t, unescape (escape t) = t) ∧
      (∀ a b, ¬EndsInside a → unescape (a ++ b) = unescape a ++ unescape b) ∧
      ∀ a b, unescape (a ++ b) = unescape a ++ unescape b ↔ ¬Across a b :=
  ⟨fun _ _ => replaced_iff, fun _ => unescape_of_notMem, unescape_escape,
    fun _ _ h => unescape_append fun hacross => h hacross.endsInside,
    fun _ _ => unescape_append_iff⟩

/-- What was read from an entity does not make another with what follows it. -/
theorem unescape_inverts_escape_sign :
    ('&' ∉ "2 > 1".toList ∧ unescape "2 > 1" = "2 > 1") ∧
      ¬EndsInside "1 &lt; 2 &amp;lt" ∧
        unescape (("1 &lt; 2 &amp;lt" : Text) ++ "; 3 &gt; 2") =
          unescape "1 &lt; 2 &amp;lt" ++ unescape "; 3 &gt; 2" := by
  obtain ⟨-, hplain, -, hcut, -⟩ := unescape_inverts_escape
  have hnone : '&' ∉ "2 > 1".toList := by decide
  have hends : ¬EndsInside "1 &lt; 2 &amp;lt" := by decide
  exact ⟨⟨hnone, hplain _ hnone⟩, hends, hcut _ _ hends⟩

/-- What an ampersand was read from is not part of another entity. -/
example : unescape (escape "&gt;") = "&gt;" ∧ unescape "&amp;gt;" = "&gt;" := by decide

end Mudline.Display
