import Mudline.Proofs.Text.Digits
import Mudline.Settings.Directive

/-!
# Lines with a mistake

A line of a settings file asks for something if its first word is `set` or `var`; all other lines
are passed over. What is wrong with such a line is said here of the text of the line, and it is what
is reported: a line is reported exactly if it is malformed, and with the mistake that it has.
-/

namespace Mudline

namespace Text

/-- An ASCII blank is blank. -/
theorem isBlank_of_isAsciiBlank {c : Char} (h : isAsciiBlank c = true) : isBlank c = true := by
  simp only [isAsciiBlank, Bool.or_eq_true, beq_iff_eq] at h
  rcases h with (((rfl | rfl) | rfl) | rfl) | rfl <;> decide

/-- What is not blank is no ASCII blank. -/
theorem isAsciiBlank_eq_false {c : Char} (h : isBlank c = false) : isAsciiBlank c = false :=
  Bool.eq_false_iff.mpr fun htrue => by simpa [h] using isBlank_of_isAsciiBlank htrue

/-- A text is read as digits if it has some and nothing else. -/
theorem readDigits?_eq_some_iff {t : Text} {n : Nat} : readDigits? t = some n ↔
    t ≠ [] ∧ (∀ c ∈ t, isDigit c = true) ∧ n = Nat.ofDigitChars 10 t 0 := by
  constructor
  · intro h
    have hdigits : t ≠ [] ∧ ∀ c ∈ t, isDigit c = true := by
      by_contra hnone
      rw [readDigits?, if_neg (by simpa [and_comm] using hnone)] at h
      cases h
    rw [readDigits?_of_digits hdigits.1 hdigits.2] at h
    exact ⟨hdigits.1, hdigits.2, (Option.some.inj h).symm⟩
  · rintro ⟨hne, hdigits, rfl⟩
    exact readDigits?_of_digits hne hdigits

section Cut

variable {p : Char → Bool} {front : Text} (hfront : ∀ c ∈ front, p c = false)

include hfront

/-- A text that does not end a key is taken as a whole. -/
theorem takeWhile_eq_self : front.takeWhile (!p ·) = front ∧ front.dropWhile (!p ·) = [] := by
  have hall : ∀ c ∈ front, (!p c) = true := by simpa using hfront
  exact ⟨List.takeWhile_eq_self_iff.mpr hall, List.dropWhile_eq_nil_iff.mpr hall⟩

/-- A text is taken up to the character that ends it. -/
theorem takeWhile_append {c : Char} (hc : p c = true) (rest : Text) :
    (front ++ c :: rest).takeWhile (!p ·) = front ∧
      (front ++ c :: rest).dropWhile (!p ·) = c :: rest := by
  have hall : ∀ c ∈ front, (!p c) = true := by simpa using hfront
  simp [List.takeWhile_append_of_pos hall, List.dropWhile_append_of_pos hall, hc]

end Cut

/-- The first character of a kind, if there is one, ends the part before it. -/
theorem takeWhile_cases (p : Char → Bool) (t : Text) :
    (t.takeWhile (!p ·) = t ∧ t.dropWhile (!p ·) = []) ∨
      ∃ c rest, p c = true ∧ t.dropWhile (!p ·) = c :: rest ∧
        t = t.takeWhile (!p ·) ++ c :: rest := by
  have hwhole := List.takeWhile_append_dropWhile (p := (!p ·)) (l := t)
  cases hdrop : t.dropWhile (!p ·) with
  | nil =>
    rw [hdrop, List.append_nil] at hwhole
    exact .inl ⟨hwhole, rfl⟩
  | cons c rest =>
    have hc := List.head_dropWhile_not (!p ·) (l := t) (by simp [hdrop])
    simp only [hdrop, List.head_cons, Bool.not_eq_false'] at hc
    rw [hdrop] at hwhole
    exact .inr ⟨c, rest, hc, rfl, hwhole.symm⟩

end Text

namespace Configuration

/-- The first word of a line is `word`, and what follows it behind an ASCII blank is `args`, without
the blanks around it. -/
inductive Says (raw word : Text) : Text → Prop
  /-- Nothing follows the word. -/
  | alone (h : Text.trim raw = word) : Says raw word []
  /-- Something follows the word. -/
  | followed {b : Char} {rest : Text} (hb : Text.isAsciiBlank b = true)
      (h : Text.trim raw = word ++ b :: rest) : Says raw word (Text.trim rest)

/-- A text gives a value to a key, with an equals sign or a blank between them. -/
inductive Assigns : Text → Text → Text → Prop
  /-- Nothing follows the key. -/
  | bare {key : Text} (hne : key ≠ []) (hkey : ∀ c ∈ key, endsKey c = false) : Assigns key key []
  /-- The value follows the key. -/
  | followed {key rest : Text} {c : Char} (hne : key ≠ []) (hkey : ∀ c ∈ key, endsKey c = false)
      (hc : endsKey c = true) : Assigns (key ++ c :: rest) key (Text.trim rest)

/-- The keys that there are. -/
def keys : List Text :=
  ["scripts_dir", "script_extension", "monster_ignore", "max_expand_passes", "pause_default"]

/-- A text writes a positive number that fits a word of the machine, perhaps behind a plus sign. -/
def IsCount (value : Text) (n : Nat) : Prop :=
  ∃ digits, (value = digits ∨ value = '+' :: digits) ∧ digits ≠ [] ∧
    (∀ c ∈ digits, Text.isDigit c = true) ∧ n = Nat.ofDigitChars 10 digits 0 ∧
    0 < n ∧ n ≤ Text.maxWord

/-- A text is a number of seconds: it is finite and not below zero. -/
def IsSeconds (value : Text) (seconds : Float) : Prop :=
  Number.readDouble? value = some seconds ∧ seconds.isFinite = true ∧ 0.0 ≤ seconds

/-- What is wrong with the value that a key is given, or with the key. -/
inductive Unusable (key value : Text) : Mistake → Prop
  /-- There is no such key. -/
  | unknownKey (hkey : key ∉ keys) : Unusable key value (.unknownKey key)
  /-- What creatures are left out is no expression. -/
  | badExpression {e : Regex.Error} (hkey : key = "monster_ignore") (hne : value ≠ [])
      (he : Regex.compile value = .error e) : Unusable key value (.badExpression e)
  /-- The number of rounds is no positive number. -/
  | badCount (hkey : key = "max_expand_passes") (hnone : ∀ n, ¬IsCount value n) :
      Unusable key value (.badCount value)
  /-- The pause is no number of seconds. -/
  | badSeconds (hkey : key = "pause_default") (hnone : ∀ seconds, ¬IsSeconds value seconds) :
      Unusable key value (.badSeconds value)

/-- What is wrong with a line that begins with `set` or `var`. -/
inductive Malformed (raw : Text) : Mistake → Prop
  /-- There is nothing to set, or an equals sign stands where the key should. -/
  | missingKey {args : Text} (h : Says raw "set" args) (hnone : ∀ c ∈ args.head?, c = '=') :
      Malformed raw .missingKey
  /-- What is set cannot be set so. -/
  | unusable {args key value : Text} {m : Mistake} (h : Says raw "set" args)
      (ha : Assigns args key value) (hbad : Unusable key value m) : Malformed raw m
  /-- There is no variable to set. -/
  | missingName (h : Says raw "var" []) : Malformed raw .missingName

/-- What a line says is what is read of it. -/
theorem says_iff {raw word args : Text} (hword : ∀ c ∈ word, Text.isAsciiBlank c = false) :
    Says raw word args ↔
      (splitBlank (Text.trim raw)).1 = word ∧ Text.trim (splitBlank (Text.trim raw)).2 = args := by
  constructor
  · rintro (h | ⟨hb, h⟩)
    · obtain ⟨htake, hdrop⟩ := Text.takeWhile_eq_self hword
      rw [h, splitBlank, htake, hdrop]
      exact ⟨rfl, rfl⟩
    · obtain ⟨htake, hdrop⟩ := Text.takeWhile_append hword hb _
      rw [h, splitBlank, htake, hdrop]
      exact ⟨rfl, rfl⟩
  · rintro ⟨rfl, rfl⟩
    rcases Text.takeWhile_cases Text.isAsciiBlank (Text.trim raw) with
      ⟨htake, hdrop⟩ | ⟨b, rest, hb, hdrop, hwhole⟩
    · rw [splitBlank, hdrop]
      exact .alone htake.symm
    · rw [splitBlank, hdrop]
      exact .followed hb hwhole

/-- The character behind a key is no part of the value. -/
theorem trim_behindKey {c : Char} (hc : endsKey c = true) (rest : Text) :
    Text.trim (if (c :: rest).head? == some '=' then (c :: rest).drop 1 else c :: rest) =
      Text.trim rest := by
  by_cases hequals : c = '='
  · subst hequals
    rfl
  · have hblank : Text.isBlank c = true := by
      have hascii : Text.isAsciiBlank c = true := by simpa [endsKey, hequals] using hc
      exact Text.isBlank_of_isAsciiBlank hascii
    have hblanks : ∀ x ∈ [c], Text.isBlank x = true := by simpa using hblank
    have hskip := Text.trim_blanks_append hblanks rest
    simpa [hequals] using hskip

/-- A key alone has an empty value. -/
theorem splitKey?_bare {key : Text} (hne : key ≠ []) (hkey : ∀ c ∈ key, endsKey c = false) :
    splitKey? key = some (key, []) := by
  obtain ⟨htake, hdrop⟩ := Text.takeWhile_eq_self hkey
  have hempty : key.isEmpty = false := by simpa using hne
  simp only [splitKey?, htake, hdrop, hempty]
  rfl

/-- A key ends at the character that ends it, and the value is trimmed. -/
theorem splitKey?_followed {key : Text} {c : Char} (hne : key ≠ [])
    (hkey : ∀ c ∈ key, endsKey c = false) (hc : endsKey c = true) (rest : Text) :
    splitKey? (key ++ c :: rest) = some (key, Text.trim rest) := by
  obtain ⟨htake, hdrop⟩ := Text.takeWhile_append hkey hc rest
  have hempty : key.isEmpty = false := by simpa using hne
  simp only [splitKey?, htake, hdrop, hempty, trim_behindKey hc]
  rfl

/-- Without a key there is nothing, or a character that ends keys. -/
theorem splitKey?_eq_none_iff {args : Text} :
    splitKey? args = none ↔ ∀ c ∈ args.head?, endsKey c = true := by
  cases args with
  | nil => simp [splitKey?]
  | cons c rest => cases hc : endsKey c <;> simp [splitKey?, hc]

/-- A key is read with the value that it is given. -/
theorem splitKey?_eq_some_iff {args key value : Text} :
    splitKey? args = some (key, value) ↔ Assigns args key value := by
  constructor
  · intro h
    have hne : args.takeWhile (!endsKey ·) ≠ [] := by
      intro hnil
      simp [splitKey?, hnil] at h
    have hends : ∀ c ∈ args.takeWhile (!endsKey ·), endsKey c = false := fun c hc => by
      simpa using List.mem_takeWhile_imp hc
    rcases Text.takeWhile_cases endsKey args with ⟨htake, -⟩ | ⟨c, rest, hc, -, hwhole⟩
    · rw [htake] at hne hends
      rw [splitKey?_bare hne hends] at h
      obtain ⟨rfl, rfl⟩ := Prod.mk.inj (Option.some.inj h)
      exact .bare hne hends
    · rw [hwhole, splitKey?_followed hne hends hc] at h
      obtain ⟨rfl, rfl⟩ := Prod.mk.inj (Option.some.inj h)
      have hassigns : Assigns (args.takeWhile (!endsKey ·) ++ c :: rest)
          (args.takeWhile (!endsKey ·)) (Text.trim rest) := .followed hne hends hc
      rwa [← hwhole] at hassigns
  · rintro (⟨hne, hkey⟩ | ⟨hne, hkey, hc⟩)
    · exact splitKey?_bare hne hkey
    · exact splitKey?_followed hne hkey hc _

/-- A text is read as a word if it is digits, perhaps with a plus sign, within the largest word. -/
theorem readWord?_eq_some_iff {t : Text} {n : Nat} : Text.readWord? t = some n ↔
    ∃ digits, (t = digits ∨ t = '+' :: digits) ∧ digits ≠ [] ∧
      (∀ c ∈ digits, Text.isDigit c = true) ∧ n = Nat.ofDigitChars 10 digits 0 ∧
      n ≤ Text.maxWord := by
  constructor
  · intro h
    obtain ⟨hread, hfits⟩ := Option.filter_eq_some_iff.mp h
    obtain ⟨hne, hdigits, hn⟩ := Text.readDigits?_eq_some_iff.mp hread
    refine ⟨_, ?_, hne, hdigits, hn, of_decide_eq_true hfits⟩
    split
    · exact .inr rfl
    · exact .inl rfl
  · rintro ⟨digits, rfl | rfl, hne, hdigits, rfl, hfits⟩
    · rw [Text.readWord?, Text.readNat?_of_digits hne hdigits]
      exact Option.filter_eq_some_iff.mpr ⟨rfl, decide_eq_true hfits⟩
    · rw [Text.readWord?, Text.readNat?, Text.readDigits?_of_digits hne hdigits]
      exact Option.filter_eq_some_iff.mpr ⟨rfl, decide_eq_true hfits⟩

/-- A count is a word that is not zero. -/
theorem filter_readWord?_eq_some_iff {value : Text} {n : Nat} :
    (Text.readWord? value).filter (0 < ·) = some n ↔ IsCount value n := by
  rw [Option.filter_eq_some_iff, readWord?_eq_some_iff, decide_eq_true_iff]
  constructor
  · rintro ⟨⟨digits, hvalue, hne, hdigits, hn, hfits⟩, hpos⟩
    exact ⟨digits, hvalue, hne, hdigits, hn, hpos, hfits⟩
  · rintro ⟨digits, hvalue, hne, hdigits, hn, hpos, hfits⟩
    exact ⟨⟨digits, hvalue, hne, hdigits, hn, hfits⟩, hpos⟩

/-- The number of passes is reported if it is no count. -/
theorem readMaxPasses_eq_error_iff {value : Text} {m : Mistake} :
    readMaxPasses value = .error m ↔ m = .badCount value ∧ ∀ n, ¬IsCount value n := by
  simp only [← filter_readWord?_eq_some_iff, ← Option.eq_none_iff_forall_ne_some]
  unfold readMaxPasses
  cases (Text.readWord? value).filter (0 < ·) <;> simp [eq_comm]

/-- Seconds are a finite double that is not negative. -/
theorem filter_readDouble?_eq_some_iff {value : Text} {seconds : Float} :
    ((Number.readDouble? value).filter fun x => x.isFinite && 0.0 ≤ x) = some seconds ↔
      IsSeconds value seconds := by
  rw [Option.filter_eq_some_iff, Bool.and_eq_true, decide_eq_true_iff]
  rfl

/-- The default pause is reported if it is no seconds. -/
theorem readPauseDefault_eq_error_iff {value : Text} {m : Mistake} :
    readPauseDefault value = .error m ↔
      m = .badSeconds value ∧ ∀ seconds, ¬IsSeconds value seconds := by
  simp only [← filter_readDouble?_eq_some_iff, ← Option.eq_none_iff_forall_ne_some]
  unfold readPauseDefault
  cases (Number.readDouble? value).filter fun x => x.isFinite && 0.0 ≤ x <;> simp [eq_comm]

/-- The expression for creatures is reported if it cannot be compiled. -/
theorem readIgnored_eq_error_iff {value : Text} {m : Mistake} :
    readIgnored value = .error m ↔
      ∃ e, m = .badExpression e ∧ value ≠ [] ∧ Regex.compile value = .error e := by
  unfold readIgnored
  cases hempty : value.isEmpty with
  | true => simp [List.isEmpty_iff.mp hempty]
  | false =>
    have hne : value ≠ [] := List.isEmpty_eq_false_iff.mp hempty
    cases Regex.compile value <;> simp [hne, eq_comm]

/-- There are no readers for other keys. -/
theorem lookup_readers_eq_none {key : Text} (h : key ∉ keys) : readers.lookup key = none := by
  refine List.lookup_eq_none_iff.mpr fun p hp => ?_
  have hmem : p.1 ∈ keys := List.mem_map_of_mem hp
  have hne : key ≠ p.1 := fun heq => h (heq ▸ hmem)
  simpa using hne

/-- A value is refused with what is wrong with it. -/
theorem Unusable.iff {key value : Text} {m : Mistake} :
    Unusable key value m ↔
      (match readers.lookup key with
        | some reader => reader value
        | none => .error (.unknownKey key)) = .error m := by
  constructor
  · rintro (hkey | ⟨rfl, hne, he⟩ | ⟨rfl, hnone⟩ | ⟨rfl, hnone⟩)
    · rw [lookup_readers_eq_none hkey]
    · exact readIgnored_eq_error_iff.mpr ⟨_, rfl, hne, he⟩
    · exact readMaxPasses_eq_error_iff.mpr ⟨rfl, hnone⟩
    · exact readPauseDefault_eq_error_iff.mpr ⟨rfl, hnone⟩
  · intro h
    by_cases hkey : key ∈ keys
    · simp only [keys, List.mem_cons, List.not_mem_nil, or_false] at hkey
      rcases hkey with rfl | rfl | rfl | rfl | rfl
      · cases h
      · cases h
      · obtain ⟨e, rfl, hne, he⟩ := readIgnored_eq_error_iff.mp h
        exact .badExpression rfl hne he
      · obtain ⟨rfl, hnone⟩ := readMaxPasses_eq_error_iff.mp h
        exact .badCount rfl hnone
      · obtain ⟨rfl, hnone⟩ := readPauseDefault_eq_error_iff.mp h
        exact .badSeconds rfl hnone
    · rw [lookup_readers_eq_none hkey] at h
      cases h
      exact .unknownKey hkey

/-- A setting is reported if it has no key or its value cannot be used. -/
theorem readSet_eq_error_iff {args : Text} {m : Mistake} :
    readSet args = .error m ↔
      (m = .missingKey ∧ ∀ c ∈ args.head?, endsKey c = true) ∨
        ∃ key value, Assigns args key value ∧ Unusable key value m := by
  simp only [← splitKey?_eq_none_iff, ← splitKey?_eq_some_iff, Unusable.iff]
  unfold readSet
  rcases splitKey? args with _ | ⟨key, value⟩
  · simp [eq_comm]
  · refine ⟨fun h => .inr ⟨key, value, rfl, h⟩, ?_⟩
    rintro (⟨-, hnone⟩ | ⟨_, _, hsplit, h⟩)
    · cases hnone
    · cases hsplit
      exact h

/-- A variable is reported if it has no name. -/
theorem readVariable_eq_error_iff {args : Text} {m : Mistake} :
    readVariable args = .error m ↔
      m = .missingName ∧ ∀ c ∈ args.head?, Text.isAsciiBlank c = true := by
  unfold readVariable splitBlank
  cases args with
  | nil => simp [@eq_comm _ m]
  | cons c rest => cases hc : Text.isAsciiBlank c <;> simp [hc, @eq_comm _ m]

/-- What follows a word begins with no blank. -/
theorem Says.not_blank {raw word args : Text} (h : Says raw word args) :
    ∀ c, args.head? = some c → Text.isBlank c = false := by
  cases h with
  | alone => simp
  | followed =>
    exact Text.trimStart_eq_self_iff.mp (Text.trim_eq_self_iff.mp (Text.trim_trim _)).1

/-- A line that begins with a letter is no comment. -/
theorem Says.not_comment {raw word args : Text} {c : Char} {rest : Text}
    (h : Says raw word args) (hword : word = c :: rest) (hc : c ≠ ';' ∧ c ≠ '#') :
    isComment (Text.trim raw) = false := by
  have hhead : (Text.trim raw).head? = some c := by
    cases h with
    | alone h => rw [h, hword, List.head?_cons]
    | followed hb h => rw [h, hword, List.cons_append, List.head?_cons]
  simp [isComment, hhead, hc]

/-- A line asks for something if it begins with one of the two words. -/
theorem readLine_eq_some_iff {raw : Text} {r : Except Mistake Directive} :
    readLine raw = some r ↔
      (∃ args, Says raw "set" args ∧ readSet args = r) ∨
        ∃ args, Says raw "var" args ∧ readVariable args = r := by
  have hset : ∀ c ∈ ("set" : Text), Text.isAsciiBlank c = false :=
    Text.forall_mem_of_all (by decide)
  have hvar : ∀ c ∈ ("var" : Text), Text.isAsciiBlank c = false :=
    Text.forall_mem_of_all (by decide)
  constructor
  · intro h
    unfold readLine at h
    dsimp only at h
    split at h
    · cases h
    · split at h
      · rename_i hword
        exact .inl ⟨_, (says_iff hset).mpr ⟨beq_iff_eq.mp hword, rfl⟩, Option.some.inj h⟩
      · split at h
        · rename_i hword
          exact .inr ⟨_, (says_iff hvar).mpr ⟨beq_iff_eq.mp hword, rfl⟩, Option.some.inj h⟩
        · cases h
  · rintro (⟨args, hsays, rfl⟩ | ⟨args, hsays, rfl⟩)
    · have hcomment := hsays.not_comment rfl (by decide)
      obtain ⟨hword, hargs⟩ := (says_iff hset).mp hsays
      simp [readLine, hcomment, hword, hargs]
    · have hcomment := hsays.not_comment rfl (by decide)
      obtain ⟨hword, hargs⟩ := (says_iff hvar).mp hsays
      simp [readLine, hcomment, hword, hargs]

/-- A line is reported exactly if it is malformed, and with the mistake that it has. -/
theorem readLine_eq_error_iff {raw : Text} {m : Mistake} :
    readLine raw = some (.error m) ↔ Malformed raw m := by
  simp only [readLine_eq_some_iff, readSet_eq_error_iff, readVariable_eq_error_iff]
  constructor
  · rintro (⟨args, h, ⟨rfl, hends⟩ | ⟨key, value, ha, hbad⟩⟩ | ⟨args, h, rfl, hblank⟩)
    · refine .missingKey h fun c hc => ?_
      have hascii := Text.isAsciiBlank_eq_false (h.not_blank c hc)
      simpa [endsKey, hascii] using hends c hc
    · exact .unusable h ha hbad
    · have hnil : args = [] := by
        refine List.head?_eq_none_iff.mp (Option.eq_none_iff_forall_ne_some.mpr fun c hc => ?_)
        have hascii := Text.isAsciiBlank_eq_false (h.not_blank c hc)
        simpa [hascii] using hblank c hc
      subst hnil
      exact .missingName h
  · rintro (⟨h, hnone⟩ | ⟨h, ha, hbad⟩ | h)
    · exact .inl ⟨_, h, .inl ⟨rfl, fun c hc => by simp [hnone c hc, endsKey]⟩⟩
    · exact .inl ⟨_, h, .inr ⟨_, _, ha, hbad⟩⟩
    · exact .inr ⟨_, h, rfl, by simp⟩

end Configuration

end Mudline
