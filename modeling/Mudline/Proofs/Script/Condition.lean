import Mathlib.Algebra.Group.Nat.Even
import Mudline.Proofs.Text.Pieces
import Mudline.Script.Line

/-!
# Where a condition ends

A conditional is cut into its condition and its body at the first place outside quotes where a
brace opens a block or the word `then` stands by itself. So a text with no such place is passed over
whole, whatever stands behind it, and the texts that can be written as conditions are those that are
not cut when they stand alone.
-/

namespace Mudline

namespace Script

/-- Outside quotes there is a brace that opens a block. -/
def HoldsBrace (c : Text) : Prop :=
  ∃ front back, c = front ++ '\x7b' :: back ∧ Even (front.count '"')

/-- Outside quotes the word `then` stands by itself, in any case: behind the start, a space, a tab
or a closing parenthesis, and before the end, a space, a tab or an opening brace. -/
def HoldsThen (c : Text) : Prop :=
  ∃ front word back, c = front ++ (word ++ back) ∧ Even (front.count '"') ∧
    Text.sameWord word "then" = true ∧ endsBefore front.getLast? = true ∧
    endsAfter back.head? = true

/-- What can be written as a condition. -/
structure IsCondition (c : Text) : Prop where
  /-- There are no blanks at its ends. -/
  trimmed : Text.trim c = c
  /-- Its quotes come in pairs. -/
  balanced : Even (c.count '"')
  /-- It does not open a block. -/
  noBrace : ¬HoldsBrace c
  /-- It does not hold the word that ends it. -/
  noThen : ¬HoldsThen c

/-- Whether a place is between quotes, behind a text that started between quotes or not. -/
def quotedAfter (quoted : Bool) : Text → Bool
  | [] => quoted
  | c :: t => quotedAfter (quoted != (c == '"')) t

/-- A text leaves the quotes closed if it closes as many as it opens. -/
theorem quotedAfter_eq_false_iff {quoted : Bool} {t : Text} :
    quotedAfter quoted t = false ↔ (quoted = false ↔ Even (t.count '"')) := by
  induction t generalizing quoted with
  | nil => simp [quotedAfter]
  | cons c t ih =>
    rw [quotedAfter, ih]
    by_cases hc : c = '"'
    · subst hc
      cases quoted <;> simp [Nat.even_add_one]
    · simp [hc, beq_false_of_ne hc]

/-- That no place in a text is one for a cut, with a character before it and between quotes or
not. -/
def Uncut (before : Option Char) (quoted : Bool) (c : Text) : Prop :=
  ∀ front back, c = front ++ back → back ≠ [] → quotedAfter quoted front = false →
    back.head? ≠ some '\x7b' ∧
      (endsBefore (front.getLast?.or before) && startsThen back) = false

/-- No cut is made in a text exactly if outside quotes it holds neither a brace nor `then`. -/
theorem uncut_iff {c : Text} : Uncut none false c ↔ ¬HoldsBrace c ∧ ¬HoldsThen c := by
  have heven (front : Text) : quotedAfter false front = false ↔ Even (front.count '"') := by
    simp [quotedAfter_eq_false_iff]
  constructor
  · intro h
    constructor
    · rintro ⟨front, back, hc, hfront⟩
      exact (h front _ hc (List.cons_ne_nil _ _) ((heven front).mpr hfront)).1 rfl
    · rintro ⟨front, word, back, hc, hfront, hword, hbefore, hafter⟩
      have hlength : word.length = 4 := Text.length_of_sameWord hword
      have hne : word ++ back ≠ [] := by
        rintro hnil
        simp [(List.append_eq_nil_iff.mp hnil).1] at hlength
      have hstarts : startsThen (word ++ back) = true := by
        rw [startsThen, ← hlength, List.take_left, List.drop_left, hword, hafter]
        rfl
      have hhere := (h front _ hc hne ((heven front).mpr hfront)).2
      rw [Option.or_none, hbefore, hstarts] at hhere
      cases hhere
  · rintro ⟨hbrace, hthen⟩ front back rfl hne hquoted
    have hfront : Even (front.count '"') := (heven front).mp hquoted
    constructor
    · intro hhead
      obtain ⟨rest, rfl⟩ := List.head?_eq_some_iff.mp hhead
      exact hbrace ⟨front, rest, rfl, hfront⟩
    · rw [Bool.eq_false_iff]
      intro hboth
      rw [Option.or_none, Bool.and_eq_true, startsThen, Bool.and_eq_true] at hboth
      obtain ⟨hbefore, hword, hafter⟩ := hboth
      exact hthen ⟨front, back.take 4, back.drop 4, by rw [List.take_append_drop], hfront, hword,
        hbefore, hafter⟩

/-- A condition is not cut within. -/
theorem IsCondition.uncut {c : Text} (h : IsCondition c) : Uncut none false c :=
  uncut_iff.mpr ⟨h.noBrace, h.noThen⟩

/-- Whether a text starts with the word that ends a condition does not depend on what comes behind
it, if that starts with a blank. -/
theorem startsThen_append {t tail : Text} (hne : t ≠ [])
    (htail : ∀ d, tail.head? = some d → d = ' ') : startsThen (t ++ tail) = startsThen t := by
  obtain rfl | ⟨rest, rfl⟩ : tail = [] ∨ ∃ rest, tail = ' ' :: rest := by
    cases tail with
    | nil => exact .inl rfl
    | cons d rest =>
      obtain rfl := htail d rfl
      exact .inr ⟨rest, rfl⟩
  · rw [List.append_nil]
  · have hblank : ' '.toLower = ' ' := by decide
    rcases t with _ | ⟨a, _ | ⟨b, _ | ⟨c, _ | ⟨d, t⟩⟩⟩⟩
    · exact absurd rfl hne
    · simp [startsThen, Text.sameWord, Text.asciiLower, hblank]
    · simp [startsThen, Text.sameWord, Text.asciiLower, hblank]
    · simp [startsThen, Text.sameWord, Text.asciiLower, hblank]
    · cases t <;> simp [startsThen, endsAfter]

/-- A text in which no cut is made is passed over. -/
theorem splitCondition_append {before : Option Char} {quoted : Bool} {c tail : Text}
    (h : Uncut before quoted c) (htail : ∀ d, tail.head? = some d → d = ' ') :
    splitCondition before quoted (c ++ tail) =
      (c ++ (splitCondition (c.getLast?.or before) (quotedAfter quoted c) tail).1,
        (splitCondition (c.getLast?.or before) (quotedAfter quoted c) tail).2) := by
  induction c generalizing before quoted with
  | nil => rfl
  | cons d c ih =>
    have hrest : Uncut (some d) (quoted != (d == '"')) c := by
      rintro front back rfl hne hquoted
      have hhere := h (d :: front) back rfl hne hquoted
      rw [Text.getLast?_cons_or] at hhere
      exact hhere
    have hfirst : quoted = false → d ≠ '\x7b' ∧
        (endsBefore before && startsThen (d :: (c ++ tail))) = false := by
      intro hquoted
      have hhere := h [] (d :: c) rfl (List.cons_ne_nil d c) hquoted
      have hsame := startsThen_append (List.cons_ne_nil d c) htail
      rw [List.cons_append] at hsame
      rw [hsame]
      simpa using hhere
    have hstep : splitCondition before quoted (d :: (c ++ tail)) =
        (d :: (splitCondition (some d) (quoted != (d == '"')) (c ++ tail)).1,
          (splitCondition (some d) (quoted != (d == '"')) (c ++ tail)).2) := by
      rw [splitCondition]
      cases quoted with
      | true => rfl
      | false =>
        obtain ⟨hbrace, hthen⟩ := hfirst rfl
        simp [hbrace, hthen]
    rw [List.cons_append, hstep, ih hrest, Text.getLast?_cons_or]
    rfl

/-- The cut is made no later than at the first place for it. -/
theorem length_splitCondition_le {before : Option Char} {quoted : Bool} {front back : Text}
    (hquoted : quotedAfter quoted front = false)
    (hcut : back.head? = some '\x7b' ∨
      (endsBefore (front.getLast?.or before) && startsThen back) = true) :
    (splitCondition before quoted (front ++ back)).1.length ≤ front.length := by
  induction front generalizing before quoted with
  | nil =>
    obtain rfl : quoted = false := hquoted
    cases back with
    | nil => simp [splitCondition]
    | cons c back =>
      rw [List.nil_append, splitCondition]
      rcases hcut with hbrace | hthen
      · obtain rfl := Option.some.inj hbrace
        rfl
      · split
        · rfl
        · rw [if_pos (by simpa using hthen)]
  | cons d front ih =>
    rw [Text.getLast?_cons_or] at hcut
    have hrest := ih hquoted hcut
    rw [List.cons_append, splitCondition]
    split
    · simp
    · split
      · simp
      · simpa using hrest

/-- A text is one condition as a whole if it is not cut within. -/
theorem splitCondition_eq_self_iff {c : Text} :
    splitCondition none false c = (c, []) ↔ Uncut none false c := by
  constructor
  · rintro hwhole front back rfl hne hquoted
    have hpos := List.length_pos_of_ne_nil hne
    by_contra hnot
    have hcut : back.head? = some '\x7b' ∨
        (endsBefore (front.getLast?.or none) && startsThen back) = true := by
      by_contra hneither
      obtain ⟨hbrace, hthen⟩ := not_or.mp hneither
      exact hnot ⟨hbrace, Bool.eq_false_iff.mpr hthen⟩
    have hlength := length_splitCondition_le hquoted hcut
    rw [hwhole, List.length_append] at hlength
    omega
  · intro h
    have hwhole : splitCondition none false (c ++ []) = (c ++ [], []) :=
      splitCondition_append h (by rintro d ⟨⟩)
    rwa [List.append_nil] at hwhole

/-- What can be written as a condition is what is not cut when it stands alone. -/
theorem isCondition_iff {c : Text} :
    IsCondition c ↔
      Text.trim c = c ∧ Even (c.count '"') ∧ splitCondition none false c = (c, []) := by
  rw [splitCondition_eq_self_iff, uncut_iff]
  constructor
  · rintro ⟨htrimmed, hbalanced, hbrace, hthen⟩
    exact ⟨htrimmed, hbalanced, hbrace, hthen⟩
  · rintro ⟨htrimmed, hbalanced, hbrace, hthen⟩
    exact ⟨htrimmed, hbalanced, hbrace, hthen⟩

instance (c : Text) : Decidable (IsCondition c) :=
  decidable_of_iff _ isCondition_iff.symm

-- Between quotes neither the word nor the brace counts.
example : IsCondition "matchre(\"then \x7b x\", \"(\\w+)\")" ∧ ¬IsCondition "(x)then y" := by
  decide

/-- A condition ends before the word that stands for itself. -/
theorem splitCondition_then {before : Option Char} (hbefore : endsBefore before = true) {v : Text}
    (hv : endsAfter v.head? = true) :
    splitCondition before false ('t' :: 'h' :: 'e' :: 'n' :: v) = ([], v) := by
  have hword : startsThen ('t' :: 'h' :: 'e' :: 'n' :: v) = true := by
    rw [startsThen, Bool.and_eq_true]
    exact ⟨rfl, hv⟩
  rw [splitCondition]
  simp [hbefore, hword]

/-- A condition ends before an opening brace. -/
theorem splitCondition_brace (before : Option Char) (v : Text) :
    splitCondition before false ('\x7b' :: v) = ([], '\x7b' :: v) := by
  rw [splitCondition]
  rfl

/-- A blank belongs to the condition before it. -/
theorem splitCondition_blank (before : Option Char) (t : Text) :
    splitCondition before false (' ' :: t) =
      (' ' :: (splitCondition (some ' ') false t).1, (splitCondition (some ' ') false t).2) := by
  have hword : startsThen (' ' :: t) = false := by
    rw [startsThen, Bool.and_eq_false_iff]
    exact .inl (Text.sameWord_cons_eq_false (by decide) _ _)
  rw [splitCondition]
  simp [hword]

end Script

end Mudline
