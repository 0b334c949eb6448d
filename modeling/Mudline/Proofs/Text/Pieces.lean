import Mathlib.Data.List.DropRight
import Mudline.Text.Search

/-!
# Trimming texts and cutting them into pieces

What trimming leaves of a text that goes on behind a front part, how the pieces of a text are put
together again, and how a text that comes bit by bit is cut at a separator.
-/

namespace Mudline

namespace Text

/-- What is checked of all characters of a text holds of each of them. -/
theorem forall_mem_of_all {p : Char → Prop} [DecidablePred p] {t : Text}
    (h : (t.all fun c => decide (p c)) = true) : ∀ c ∈ t, p c :=
  fun c hc => of_decide_eq_true (List.all_eq_true.mp h c hc)

/-- The character before a place, once the first character has been passed. -/
theorem getLast?_cons_or (c : Char) (t : Text) (before : Option Char) :
    (c :: t).getLast?.or before = t.getLast?.or (some c) := by
  rw [List.getLast?_cons]
  cases t.getLast? <;> rfl

/-- Behind a front part that ends with no blank, trimming the end takes nothing of the front. -/
theorem trimEnd_append {front : Text} {last : Char} (hlast : front.getLast? = some last)
    (hend : isBlank last = false) (t : Text) : trimEnd (front ++ t) = front ++ trimEnd t := by
  obtain ⟨init, rfl⟩ := List.getLast?_eq_some_iff.mp hlast
  simp [trimEnd, dropEndWhile, List.dropWhile_append, hend]

/-- What is trimmed at its end stays so. -/
theorem trimEnd_trimEnd (t : Text) : trimEnd (trimEnd t) = trimEnd t := by
  simp [trimEnd, dropEndWhile, List.dropWhile_idempotent]

/-- A front part that has no blank at either end is not touched by trimming. -/
theorem trim_append {front : Text} {first last : Char} (hfirst : front.head? = some first)
    (hlast : front.getLast? = some last) (hstart : isBlank first = false)
    (hend : isBlank last = false) (t : Text) : trim (front ++ t) = front ++ trimEnd t := by
  obtain ⟨rest, rfl⟩ := List.head?_eq_some_iff.mp hfirst
  have hleft : trimStart (first :: rest ++ t) = first :: rest ++ t := by simp [trimStart, hstart]
  rw [trim, hleft, trimEnd_append hlast hend]

/-- A text that is trimmed at its end is what it begins with. -/
theorem trimEnd_prefix (t : Text) : trimEnd t <+: t := by
  have hsuffix := List.dropWhile_suffix isBlank (l := t.reverse)
  simpa [trimEnd, dropEndWhile] using List.reverse_prefix.mpr hsuffix

/-- Without blanks there is nothing to trim. -/
theorem trim_eq_self {t : Text} (h : ∀ c ∈ t, isBlank c = false) : trim t = t := by
  have hdrop {u : Text} (hu : ∀ c ∈ u, isBlank c = false) : u.dropWhile isBlank = u := by
    cases u with
    | nil => rfl
    | cons c u => exact List.dropWhile_cons_of_neg (by simp [hu c List.mem_cons_self])
  have hreverse := hdrop (u := t.reverse) fun c hc => h c (List.mem_reverse.mp hc)
  rw [trim, trimEnd, trimStart, hdrop h, dropEndWhile, hreverse, List.reverse_reverse]

/-- A text does not change when it is trimmed in front if it does not begin with a blank. -/
theorem trimStart_eq_self_iff {t : Text} :
    trimStart t = t ↔ ∀ c, t.head? = some c → isBlank c = false := by
  rw [trimStart, List.dropWhile_eq_self_iff]
  cases t <;> simp

/-- A text does not change when it is trimmed at its end if it does not end with a blank. -/
theorem trimEnd_eq_self_iff {t : Text} :
    trimEnd t = t ↔ ∀ c, t.getLast? = some c → isBlank c = false := by
  have hreverse := trimStart_eq_self_iff (t := t.reverse)
  rw [List.head?_reverse] at hreverse
  rw [← hreverse, trimEnd, dropEndWhile, trimStart]
  exact ⟨fun h => by rw [← List.reverse_eq_iff]; exact h, fun h => by rw [h, List.reverse_reverse]⟩

/-- A trimmed text has no blank at either end. -/
theorem trim_eq_self_iff {t : Text} : trim t = t ↔ trimStart t = t ∧ trimEnd t = t := by
  constructor
  · intro h
    have hsuffix : trimStart t <:+ t := List.dropWhile_suffix _
    have hprefix : trim t <+: trimStart t := trimEnd_prefix _
    have hlength : t.length ≤ (trimStart t).length := by
      calc t.length = (trim t).length := by rw [h]
        _ ≤ (trimStart t).length := hprefix.length_le
    have hstart : trimStart t = t := hsuffix.eq_of_length_le hlength
    rw [trim, hstart] at h
    exact ⟨hstart, h⟩
  · rintro ⟨hstart, hend⟩
    rw [trim, hstart, hend]

/-- Blanks in front are trimmed away. -/
theorem trimStart_blanks_append {blanks : Text} (h : ∀ c ∈ blanks, isBlank c = true) (t : Text) :
    trimStart (blanks ++ t) = trimStart t :=
  List.dropWhile_append_of_pos h

/-- Blanks at the end are trimmed away. -/
theorem trimEnd_append_blanks {blanks : Text} (h : ∀ c ∈ blanks, isBlank c = true) (t : Text) :
    trimEnd (t ++ blanks) = trimEnd t := by
  have hreverse : ∀ c ∈ blanks.reverse, isBlank c = true := fun c hc => h c (List.mem_reverse.mp hc)
  rw [trimEnd, dropEndWhile, List.reverse_append, List.dropWhile_append_of_pos hreverse]
  rfl

/-- A character in front stays, or it is a blank before blanks only. -/
theorem trimEnd_cons_cases (c : Char) (t : Text) :
    trimEnd (c :: t) = [] ∧ trimEnd t = [] ∨ trimEnd (c :: t) = c :: trimEnd t := by
  simp only [trimEnd, dropEndWhile, List.reverse_cons, List.dropWhile_append]
  split
  · rename_i hnil
    rw [List.isEmpty_iff] at hnil
    cases hc : isBlank c <;> simp [hnil, hc]
  · right
    simp

/-- It makes no difference which end is trimmed first. -/
theorem trimStart_trimEnd (t : Text) : trimStart (trimEnd t) = trim t := by
  induction t with
  | nil => rfl
  | cons c t ih =>
    cases hc : isBlank c with
    | false =>
      have hfront : trimEnd ([c] ++ t) = [c] ++ trimEnd t := trimEnd_append rfl hc t
      have hstay (u : Text) : trimStart (c :: u) = c :: u := by simp [trimStart, hc]
      rw [trim, hstay, ← List.singleton_append, hfront, List.singleton_append, hstay]
    | true =>
      have hskip (u : Text) : trimStart (c :: u) = trimStart u := by simp [trimStart, hc]
      rw [trim, hskip, ← trim, ← ih]
      rcases trimEnd_cons_cases c t with ⟨hnil, hnil'⟩ | hcons
      · rw [hnil, hnil']
      · rw [hcons, hskip]

/-- Blanks in front make no difference to what is left. -/
theorem trim_blanks_append {blanks : Text} (h : ∀ c ∈ blanks, isBlank c = true) (t : Text) :
    trim (blanks ++ t) = trim t := by
  rw [trim, trimStart_blanks_append h, trim]

/-- Blanks at the end make no difference to what is left. -/
theorem trim_append_blanks {blanks : Text} (h : ∀ c ∈ blanks, isBlank c = true) (t : Text) :
    trim (t ++ blanks) = trim t := by
  rw [← trimStart_trimEnd, trimEnd_append_blanks h, trimStart_trimEnd]

/-- A text is what is left of it by trimming its start, behind blanks. -/
theorem exists_blanks_trimStart (t : Text) :
    ∃ blanks, (∀ c ∈ blanks, isBlank c = true) ∧ t = blanks ++ trimStart t :=
  ⟨t.takeWhile isBlank, fun _ => List.mem_takeWhile_imp, List.takeWhile_append_dropWhile.symm⟩

/-- A text is what is left of it by trimming its end, before blanks. -/
theorem exists_trimEnd_blanks (t : Text) :
    ∃ blanks, (∀ c ∈ blanks, isBlank c = true) ∧ t = trimEnd t ++ blanks := by
  obtain ⟨blanks, hblanks, hreverse⟩ := exists_blanks_trimStart t.reverse
  refine ⟨blanks.reverse, fun c hc => hblanks c (List.mem_reverse.mp hc), ?_⟩
  have hsplit := congrArg List.reverse hreverse
  rwa [List.reverse_reverse, List.reverse_append] at hsplit

/-- A text is what is left of it by trimming, between blanks. -/
theorem exists_blanks_trim (t : Text) : ∃ front back, (∀ c ∈ front, isBlank c = true) ∧
    (∀ c ∈ back, isBlank c = true) ∧ t = front ++ (trim t ++ back) := by
  obtain ⟨front, hfront, hstart⟩ := exists_blanks_trimStart t
  obtain ⟨back, hback, hend⟩ := exists_trimEnd_blanks (trimStart t)
  refine ⟨front, back, hfront, hback, ?_⟩
  rw [trim, ← hend]
  exact hstart

/-- Trimming the front first makes no difference. -/
theorem trim_trimStart (t : Text) : trim (trimStart t) = trim t := by
  rw [trim, trim, trimStart, trimStart, List.dropWhile_idempotent]

/-- Trimming the end first makes no difference. -/
theorem trim_trimEnd (t : Text) : trim (trimEnd t) = trim t := by
  rw [← trimStart_trimEnd, trimEnd_trimEnd, trimStart_trimEnd]

/-- What is trimmed stays so. -/
theorem trim_trim (t : Text) : trim (trim t) = trim t :=
  calc trim (trim t) = trim (trimStart (trimEnd t)) := by rw [trimStart_trimEnd]
    _ = trim (trimEnd t) := trim_trimStart _
    _ = trim t := trim_trimEnd t

/-- Nothing is left of blanks alone. -/
theorem trimEnd_eq_nil_iff {t : Text} : trimEnd t = [] ↔ ∀ c ∈ t, isBlank c = true := by
  simp [trimEnd, dropEndWhile, List.dropWhile_eq_nil_iff]

/-- Trimming leaves nothing of blanks only. -/
theorem trim_eq_nil_iff {t : Text} : trim t = [] ↔ ∀ c ∈ t, isBlank c = true := by
  rw [trim, trimEnd_eq_nil_iff]
  obtain ⟨blanks, hblanks, ht⟩ := exists_blanks_trimStart t
  refine ⟨fun h => ?_, fun h c hc => h c ((List.dropWhile_suffix _).subset hc)⟩
  rw [ht]
  exact List.forall_mem_append.mpr ⟨hblanks, h⟩

/-- Between a first character that is no blank and a trimmed end there is nothing to trim. -/
theorem trim_cons_append {first : Char} {t : Text} (hfirst : isBlank first = false) (hne : t ≠ [])
    (ht : trimEnd t = t) (front : Text) : trim (first :: front ++ t) = first :: front ++ t := by
  rw [trim_eq_self_iff, trimStart_eq_self_iff, trimEnd_eq_self_iff]
  constructor
  · intro c hc
    obtain rfl := Option.some.inj hc
    exact hfirst
  · intro c hc
    rw [List.getLast?_append_of_ne_nil _ hne] at hc
    exact trimEnd_eq_self_iff.mp ht c hc

/-- That a text starts with a blank, if with anything: so it does not go on with a word. -/
def StartsBlank (t : Text) : Prop :=
  ∀ c, t.head? = some c → isBlank c = true

/-- Nothing starts blank. -/
theorem startsBlank_nil : StartsBlank [] := by
  rintro c ⟨⟩

/-- A text behind a blank starts blank. -/
theorem startsBlank_cons {c : Char} (hc : isBlank c = true) (t : Text) : StartsBlank (c :: t) := by
  intro d hd
  obtain rfl := Option.some.inj hd
  exact hc

/-- A text that starts blank does so when its end is trimmed. -/
theorem StartsBlank.trimEnd {t : Text} (h : StartsBlank t) : StartsBlank (trimEnd t) := by
  intro c hc
  obtain ⟨blanks, hblanks⟩ := trimEnd_prefix t
  apply h
  rw [← hblanks, List.head?_append, hc]
  rfl

/-- Blanks in front make no difference to the first word. -/
theorem splitWord_blanks_append {blanks : Text} (h : ∀ c ∈ blanks, isBlank c = true) (t : Text) :
    splitWord (blanks ++ t) = splitWord t := by
  simp only [splitWord, trimStart_blanks_append h]

/-- The first word is cut off at the first blank. -/
theorem splitWord_append {word x : Text} (hne : word ≠ []) (hword : ∀ c ∈ word, isBlank c = false)
    (hx : StartsBlank x) : splitWord (word ++ x) = (word, trimStart x) := by
  have hstart : trimStart (word ++ x) = word ++ x := by
    rw [trimStart_eq_self_iff]
    intro c hc
    rw [List.head?_append_of_ne_nil _ hne] at hc
    exact hword c (List.mem_of_head? hc)
  have hfront : ∀ c ∈ word, (!isBlank c) = true := fun c hc => by simp [hword c hc]
  have htake : x.takeWhile (!isBlank ·) = [] := by
    cases x with
    | nil => rfl
    | cons c x => exact List.takeWhile_cons_of_neg (by simp [hx c rfl])
  have hdrop : x.dropWhile (!isBlank ·) = x := by
    cases x with
    | nil => rfl
    | cons c x => exact List.dropWhile_cons_of_neg (by simp [hx c rfl])
  simp only [splitWord, hstart, List.takeWhile_append_of_pos hfront,
    List.dropWhile_append_of_pos hfront, htake, hdrop, List.append_nil]

/-- Words that begin with different letters are different. -/
theorem sameWord_cons_eq_false {c d : Char} (h : c.toLower ≠ d.toLower) (t u : Text) :
    sameWord (c :: t) (d :: u) = false := by
  simp [sameWord, asciiLower, h]

/-- The same words have the same length. -/
theorem length_of_sameWord {a b : Text} (h : sameWord a b = true) : a.length = b.length := by
  have hlower : asciiLower a = asciiLower b := by simpa [sameWord] using h
  simpa [asciiLower] using congrArg List.length hlower

/-- Only the capital letters of ASCII are lower-cased. -/
theorem toLower_cases (c : Char) :
    c.toLower = c ∨ (65 ≤ c.toNat ∧ c.toNat ≤ 90) ∧ c.toLower.toNat = c.toNat + 32 := by
  unfold Char.toLower
  split
  · rename_i hupper
    have hlow := UInt32.le_iff_toNat_le.mp hupper.1
    have hhigh := UInt32.le_iff_toNat_le.mp hupper.2
    change 65 ≤ c.toNat at hlow
    change c.toNat ≤ 90 at hhigh
    refine .inr ⟨⟨hlow, hhigh⟩, ?_⟩
    change (c.val + ('a'.val - 'A'.val)).toNat = c.toNat + 32
    rw [UInt32.toNat_add]
    change (c.toNat + 32) % 2 ^ 32 = c.toNat + 32
    omega
  · exact .inl rfl

/-- The case of a letter does not make it a blank. -/
theorem isBlank_toLower (c : Char) : isBlank c.toLower = isBlank c := by
  have hletter {d : Char} (hd : 65 ≤ d.toNat ∧ d.toNat ≤ 122) : isBlank d = false := by
    simp [isBlank]
    omega
  obtain hsame | ⟨hupper, hlower⟩ := toLower_cases c
  · rw [hsame]
  · rw [hletter ⟨hupper.1, by omega⟩, hletter (by omega)]

/-- The letters of ASCII are those from a to z in both cases. -/
theorem isAsciiLetter_iff {c : Char} : isAsciiLetter c = true ↔
    97 ≤ c.toNat ∧ c.toNat ≤ 122 ∨ 65 ≤ c.toNat ∧ c.toNat ≤ 90 := by
  simp [isAsciiLetter, Char.le_def, UInt32.le_iff_toNat_le]

/-- A letter is a letter in either case. -/
theorem isAsciiLetter_toLower (c : Char) : isAsciiLetter c.toLower = isAsciiLetter c := by
  obtain hsame | ⟨hupper, hlower⟩ := toLower_cases c
  · rw [hsame]
  · rw [isAsciiLetter_iff.mpr (.inr hupper), isAsciiLetter_iff]
    omega

/-- Only letters have a case. -/
theorem eq_of_toLower_eq {c d : Char} (hd : isAsciiLetter d = false) (h : c.toLower = d) :
    c = d := by
  obtain hsame | ⟨hupper, -⟩ := toLower_cases c
  · exact hsame ▸ h
  · rw [← h, isAsciiLetter_toLower, isAsciiLetter_iff.mpr (.inr hupper)] at hd
    cases hd

/-- The same words are the same in lower case. -/
theorem asciiLower_of_sameWord {a b : Text} (h : sameWord a b = true) :
    asciiLower a = asciiLower b := by
  simpa [sameWord] using h

/-- The characters of words that are spelled alike differ in their case only. -/
theorem exists_mem_of_sameWord {word keyword : Text} (h : sameWord word keyword = true) {c : Char}
    (hc : c ∈ word) : ∃ d ∈ keyword, d.toLower = c.toLower := by
  have hmem : c.toLower ∈ asciiLower keyword :=
    asciiLower_of_sameWord h ▸ List.mem_map_of_mem hc
  exact List.mem_map.mp hmem

/-- A word that is spelled like one without blanks has none. -/
theorem not_isBlank_of_sameWord {word keyword : Text} (h : sameWord word keyword = true)
    (hkeyword : ∀ c ∈ keyword, isBlank c = false) : ∀ c ∈ word, isBlank c = false := by
  intro c hc
  obtain ⟨d, hd, hlower⟩ := exists_mem_of_sameWord h hc
  rw [← isBlank_toLower c, ← hlower, isBlank_toLower, hkeyword d hd]

/-- Words that are spelled alike begin alike. -/
theorem exists_cons_of_sameWord {word rest : Text} {d : Char}
    (h : sameWord word (d :: rest) = true) : ∃ c t, word = c :: t ∧ c.toLower = d.toLower := by
  have hlower := asciiLower_of_sameWord h
  cases word with
  | nil => cases hlower
  | cons c t => exact ⟨c, t, rfl, (List.cons.inj hlower).1⟩

/-- A word that is spelled like one that begins with a letter begins with a letter. -/
theorem head?_letter_of_sameWord {word keyword : Text} (h : sameWord word keyword = true)
    (hkeyword : ∃ c ∈ keyword.head?, isAsciiLetter c = true) :
    ∃ c ∈ word.head?, isAsciiLetter c = true := by
  obtain ⟨d, hd, hletter⟩ := hkeyword
  obtain ⟨rest, rfl⟩ := List.head?_eq_some_iff.mp hd
  obtain ⟨c, t, rfl, hlower⟩ := exists_cons_of_sameWord h
  exact ⟨c, rfl, by rw [← isAsciiLetter_toLower, hlower, isAsciiLetter_toLower, hletter]⟩

/-- There is always a piece. -/
theorem piecesAfter_ne_nil (sep : Text) (skip : Nat) (t : Text) : piecesAfter sep skip t ≠ [] := by
  induction t generalizing skip with
  | nil => cases skip <;> exact List.cons_ne_nil _ _
  | cons c rest ih =>
    cases skip with
    | zero =>
      rw [piecesAfter]
      split
      · exact List.cons_ne_nil _ _
      · cases piecesAfter sep 0 rest <;> exact List.cons_ne_nil _ _
    | succ skip => exact ih skip

/-- A character before the first piece comes before the joined text. -/
theorem join_consFirst (sep : Text) (c : Char) (pieces : List Text) :
    join sep (consFirst c pieces) = c :: join sep pieces := by
  rcases pieces with _ | ⟨first, _ | ⟨second, rest⟩⟩ <;> rfl

/-- An empty first piece leaves the separator in front. -/
theorem join_nil_cons {pieces : List Text} (h : pieces ≠ []) (sep : Text) :
    join sep ([] :: pieces) = sep ++ join sep pieces := by
  obtain ⟨first, rest, rfl⟩ := List.exists_cons_of_ne_nil h
  rfl

/-- The pieces stand one after the other in what they are joined to. -/
theorem flatten_sublist_join (sep : Text) (pieces : List Text) :
    pieces.flatten.Sublist (join sep pieces) := by
  induction pieces with
  | nil => exact .slnil
  | cons first rest ih =>
    by_cases hrest : rest = []
    · subst hrest
      simp [join]
    · rw [join, List.intercalate_cons_of_ne_nil hrest, List.flatten_cons, List.append_assoc]
      exact (List.Sublist.refl first).append (ih.trans (List.sublist_append_right sep _))

/-- A text is cut at a separator: behind each piece stands one, and what is left has none. -/
structure CutAt (sep : Char) (t : Text) (pieces : List Text) (left : Text) : Prop where
  /-- The pieces and what is left are the whole text. -/
  whole : t = pieces.flatMap (· ++ [sep]) ++ left
  /-- The separator is in no piece. -/
  pieces : ∀ p ∈ pieces, sep ∉ p
  /-- The separator is not in what is left. -/
  left : sep ∉ left

/-- A text without the separator is one piece. -/
theorem splitOn_of_notMem {sep : Char} {t : Text} (h : sep ∉ t) : splitOn sep t = [t] := by
  induction t with
  | nil => rfl
  | cons c t ih =>
    obtain ⟨hne, hrest⟩ : sep ≠ c ∧ sep ∉ t := by simpa using h
    have hpieces : splitWhere (· == sep) t = [t] := ih hrest
    rw [splitOn, splitWhere, if_neg (by simpa using hne.symm), hpieces, consFirst]

/-- The first piece ends at the first separator. -/
theorem splitOn_append {sep : Char} {p : Text} (h : sep ∉ p) (t : Text) :
    splitOn sep (p ++ sep :: t) = p :: splitOn sep t := by
  induction p with
  | nil => simp [splitOn, splitWhere]
  | cons c p ih =>
    obtain ⟨hne, hrest⟩ : sep ≠ c ∧ sep ∉ p := by simpa using h
    have hpieces : splitWhere (· == sep) (p ++ sep :: t) = p :: splitOn sep t := ih hrest
    rw [splitOn, List.cons_append, splitWhere, if_neg (by simpa using hne.symm), hpieces, consFirst]

/-- A text is split into the pieces at which it is cut, and what is left. -/
theorem CutAt.splitOn {sep : Char} {t left : Text} {pieces : List Text}
    (h : CutAt sep t pieces left) : splitOn sep t = pieces ++ [left] := by
  obtain ⟨rfl, hpieces, hleft⟩ := h
  induction pieces with
  | nil => exact splitOn_of_notMem hleft
  | cons p pieces ih =>
    have hrest := ih fun q hq => hpieces q (List.mem_cons_of_mem _ hq)
    rw [List.flatMap_cons, List.append_assoc, List.append_assoc, List.singleton_append,
      splitOn_append (hpieces p List.mem_cons_self), hrest, List.cons_append]

/-- Every text can be cut. -/
theorem exists_cutAt (sep : Char) (t : Text) : ∃ pieces left, CutAt sep t pieces left := by
  induction t with
  | nil => exact ⟨[], [], rfl, by simp, by simp⟩
  | cons c t ih =>
    obtain ⟨pieces, left, rfl, hpieces, hleft⟩ := ih
    by_cases hc : c = sep
    · exact ⟨[] :: pieces, left, by simp [hc], by simpa using hpieces, hleft⟩
    · cases pieces with
      | nil => exact ⟨[], c :: left, rfl, by simp, by simpa using ⟨Ne.symm hc, hleft⟩⟩
      | cons p pieces =>
        obtain ⟨hp, hrest⟩ := List.forall_mem_cons.mp hpieces
        refine ⟨(c :: p) :: pieces, left, rfl, List.forall_mem_cons.mpr ⟨?_, hrest⟩, hleft⟩
        simpa using ⟨Ne.symm hc, hp⟩

/-- There is one way to cut a text at a separator. -/
theorem CutAt.unique {sep : Char} {t left left' : Text} {pieces pieces' : List Text}
    (h : CutAt sep t pieces left) (h' : CutAt sep t pieces' left') :
    pieces = pieces' ∧ left = left' := by
  have hsame : pieces ++ [left] = pieces' ++ [left'] := h.splitOn.symm.trans h'.splitOn
  obtain ⟨hpieces, hleft⟩ := List.append_inj' hsame rfl
  exact ⟨hpieces, List.singleton_inj.mp hleft⟩

/-- What is left can be cut later, with what has come behind it. -/
theorem CutAt.append {sep : Char} {t u left left' : Text} {pieces pieces' : List Text}
    (h : CutAt sep t pieces left) (h' : CutAt sep (left ++ u) pieces' left') :
    CutAt sep (t ++ u) (pieces ++ pieces') left' where
  whole := by
    rw [h.whole, List.append_assoc, h'.whole, List.flatMap_append, List.append_assoc]
  pieces := List.forall_mem_append.mpr ⟨h.pieces, h'.pieces⟩
  left := h'.left

end Text

end Mudline
