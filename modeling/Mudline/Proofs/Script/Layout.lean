import Mudline.Proofs.Script.Condition
import Mudline.Proofs.Script.Fault
import Mudline.Proofs.Text.Digits

/-!
# The layouts of lines

Labels and conditionals can be written in a few layouts, which differ in where the condition ends
and in how the body is marked. The kind of a line is read off its text by looking for keywords, for
the word `then` and for braces outside quotes. Whatever the condition and the body are, as long as
none of these stands where it would be taken for one of the layout, the kind that is read is the one
that was written.
-/

namespace Mudline

namespace Script

/-- What can be written as a body on the line itself: it is not taken for a block. -/
structure IsInline (s : Text) : Prop where
  /-- There are no blanks at its ends. -/
  trimmed : Text.trim s = s
  /-- There is something. -/
  ne_nil : s ≠ []
  /-- It does not open a block. -/
  ne_brace : s ≠ ['\x7b']
  /-- It is no block. -/
  notBlock : ∀ t, s ≠ '\x7b' :: t ++ ['\x7d']

/-- What follows a header on its line is its body. -/
theorem readBody_inline {s v : Text} (h : IsInline s) (hv : Text.trim v = s) :
    readBody v = .inline s := by
  have hblock : (s.head? == some '\x7b' && s.getLast? == some '\x7d') = false := by
    rw [Bool.eq_false_iff]
    intro hboth
    rw [Bool.and_eq_true, beq_iff_eq, beq_iff_eq] at hboth
    obtain ⟨hhead, hlast⟩ := hboth
    obtain ⟨rest, rfl⟩ := List.head?_eq_some_iff.mp hhead
    obtain ⟨init, hinit⟩ := List.getLast?_eq_some_iff.mp hlast
    cases init with
    | nil => cases hinit
    | cons d init =>
      obtain ⟨rfl, rfl⟩ := List.cons.inj hinit
      exact h.notBlock init rfl
  have hempty : s.isEmpty = false := List.isEmpty_eq_false_iff.mpr h.ne_nil
  have hbrace : (s == ("\x7b" : Text)) = false := beq_false_of_ne h.ne_brace
  simp only [readBody, hv, hempty, hbrace, hblock]
  rfl

/-- A blank is blank. -/
theorem isBlank_of_mem_blank : ∀ c ∈ [' '], Text.isBlank c = true :=
  Text.forall_mem_of_all (by decide)

/-- A blank in front is trimmed away. -/
theorem trim_blank_cons (t : Text) : Text.trim (' ' :: t) = Text.trim t := by
  rw [← List.singleton_append, Text.trim_blanks_append isBlank_of_mem_blank]

/-- A body between braces is read without the blanks at its ends. -/
theorem readBody_blockInline {s v : Text} (hs : Text.trim s = s)
    (hv : Text.trim v = '\x7b' :: ((' ' :: (s ++ [' '])) ++ ['\x7d'])) :
    readBody v = .blockInline s := by
  have hinner : Text.trim (' ' :: (s ++ [' '])) = s := by
    rw [trim_blank_cons, Text.trim_append_blanks isBlank_of_mem_blank, hs]
  have hlast : ('\x7b' :: ((' ' :: (s ++ [' '])) ++ ['\x7d'])).getLast? = some '\x7d' := by
    rw [← List.cons_append, List.getLast?_concat]
  have hdrop : (('\x7b' :: ((' ' :: (s ++ [' '])) ++ ['\x7d'])).drop 1).dropLast =
      ' ' :: (s ++ [' ']) := by
    rw [List.drop_one, List.tail_cons, List.dropLast_concat]
  have hbrace : ('\x7b' :: ((' ' :: (s ++ [' '])) ++ ['\x7d']) == ("\x7b" : Text)) = false := rfl
  simp only [readBody, hv, hbrace, hlast, hdrop, hinner]
  rfl

/-- What is written behind a condition for each kind of body. -/
inductive Tail : Body → Text → Prop
  /-- `then` and a statement. -/
  | inline {s : Text} (hs : IsInline s) : Tail (.inline s) (" then ".toList ++ s)
  /-- An opening brace. -/
  | block : Tail .block " \x7b"
  /-- `then` and an opening brace. -/
  | thenBlock : Tail .block " then \x7b"
  /-- A statement in braces. -/
  | blockInline {s : Text} (hs : Text.trim s = s) :
    Tail (.blockInline s) (" \x7b ".toList ++ s ++ " \x7d".toList)
  /-- `then` and a statement in braces. -/
  | thenBlockInline {s : Text} (hs : Text.trim s = s) :
    Tail (.blockInline s) (" then \x7b ".toList ++ s ++ " \x7d".toList)
  /-- Nothing. -/
  | next : Tail .next []
  /-- `then`. -/
  | thenNext : Tail .next " then"

/-- What is read behind a condition. Without the blank in front, it is `rest`, which is cut at its
start and leaves the body. -/
structure Reads (body : Body) (tail rest : Text) : Prop where
  /-- There is a blank in front, if there is anything. -/
  blank : tail = [] ∧ rest = [] ∨ tail = ' ' :: rest ∧ rest ≠ []
  /-- There is no other blank at the ends. -/
  trimmed : Text.trim rest = rest
  /-- The condition ends here, and the body is read of what is left. -/
  cut : ∀ before, endsBefore before = true →
    ∃ v, splitCondition before false rest = ([], v) ∧ readBody v = body

/-- A text behind a blank starts blank. -/
theorem startsBlank_blank (t : Text) : Text.StartsBlank (' ' :: t) :=
  Text.startsBlank_cons (by decide) t

/-- The braces around a block are not trimmed away. -/
theorem trim_block (s : Text) : Text.trim ('\x7b' :: ((' ' :: (s ++ [' '])) ++ ['\x7d'])) =
    '\x7b' :: ((' ' :: (s ++ [' '])) ++ ['\x7d']) :=
  Text.trim_cons_append (by decide) (List.cons_ne_nil _ _) (by decide) _

/-- Behind `then` there is the body. -/
theorem reads_then {body : Body} {v : Text} (hne : v ≠ []) (htrimmed : Text.trim v = v)
    (hbody : readBody (' ' :: v) = body) :
    Reads body (" then ".toList ++ v) ("then ".toList ++ v) where
  blank := .inr ⟨rfl, List.cons_ne_nil _ _⟩
  trimmed := Text.trim_cons_append (by decide) hne (Text.trim_eq_self_iff.mp htrimmed).2 "hen "
  cut _ hbefore := ⟨' ' :: v, splitCondition_then hbefore rfl, hbody⟩

/-- Without `then` the body begins with a brace. -/
theorem reads_brace {body : Body} {v : Text} (htrimmed : Text.trim ('\x7b' :: v) = '\x7b' :: v)
    (hbody : readBody ('\x7b' :: v) = body) : Reads body (' ' :: '\x7b' :: v) ('\x7b' :: v) where
  blank := .inr ⟨rfl, List.cons_ne_nil _ _⟩
  trimmed := htrimmed
  cut before _ := ⟨'\x7b' :: v, splitCondition_brace before v, hbody⟩

/-- Every layout of a body is read as the body. -/
theorem Tail.reads {body : Body} {tail : Text} (h : Tail body tail) :
    ∃ rest, Reads body tail rest := by
  cases h with
  | inline hs =>
    refine ⟨_, reads_then hs.ne_nil hs.trimmed (readBody_inline hs ?_)⟩
    rw [trim_blank_cons, hs.trimmed]
  | block => exact ⟨_, @reads_brace .block [] (by decide) (by decide)⟩
  | thenBlock => exact ⟨_, @reads_then .block "\x7b" (by decide) (by decide) (by decide)⟩
  | @blockInline s hs =>
    have hreads := reads_brace (trim_block s) (readBody_blockInline hs (trim_block s))
    exact ⟨_, by simpa using hreads⟩
  | @thenBlockInline s hs =>
    have hbody : readBody (' ' :: '\x7b' :: ((' ' :: (s ++ [' '])) ++ ['\x7d'])) =
        .blockInline s := by
      apply readBody_blockInline hs
      rw [trim_blank_cons, trim_block]
    have hreads := reads_then (List.cons_ne_nil _ _) (trim_block s) hbody
    exact ⟨_, by simpa using hreads⟩
  | next => exact ⟨[], .inl ⟨rfl, rfl⟩, rfl, fun _ _ => ⟨[], rfl, rfl⟩⟩
  | thenNext =>
    exact ⟨"then", .inr ⟨rfl, by decide⟩, by decide, fun before hbefore =>
      ⟨[], splitCondition_then hbefore rfl, rfl⟩⟩

section Reading

variable {body : Body} {tail rest : Text}

/-- What is read of a body has been trimmed. -/
theorem Reads.trim_tail (h : Reads body tail rest) : Text.trim tail = rest := by
  obtain ⟨rfl, rfl⟩ | ⟨rfl, -⟩ := h.blank
  · rfl
  · rw [trim_blank_cons, h.trimmed]

/-- With a number in the keyword, the body follows. -/
theorem Reads.argCount (h : Reads body tail rest) (n : Nat) :
    readConditional (some n) (Text.trim tail) = (.argCount n, body) := by
  obtain ⟨v, hsplit, hbody⟩ := h.cut none rfl
  simp only [readConditional, h.trim_tail, hsplit, hbody]

/-- A condition is cut from its body, with no more than a blank behind it. -/
theorem Reads.split (h : Reads body tail rest) {c : Text} (hc : IsCondition c) :
    ∃ x v, splitCondition none false (Text.trim (c ++ tail)) = (x, v) ∧ Text.trim x = c ∧
      readBody v = body := by
  by_cases hnil : c = []
  · subst hnil
    obtain ⟨v, hsplit, hbody⟩ := h.cut none rfl
    refine ⟨[], v, ?_, rfl, hbody⟩
    rw [List.nil_append, h.trim_tail, hsplit]
  · have hquoted : quotedAfter false c = false := by
      rw [quotedAfter_eq_false_iff]
      exact iff_of_true rfl hc.balanced
    obtain ⟨rfl, rfl⟩ | ⟨rfl, hne⟩ := h.blank
    · obtain ⟨v, hsplit, hbody⟩ := h.cut none rfl
      obtain rfl : [] = v := (Prod.mk.inj hsplit).2
      refine ⟨c, [], ?_, hc.trimmed, hbody⟩
      rw [List.append_nil, hc.trimmed, (isCondition_iff.mp hc).2.2]
    · obtain ⟨v, hsplit, hbody⟩ := h.cut (some ' ') rfl
      have hbehind : ∀ d, (' ' :: rest).head? = some d → d = ' ' :=
        fun d hd => (Option.some.inj hd).symm
      have htrim : Text.trim (c ++ ' ' :: rest) = c ++ ' ' :: rest := by
        obtain ⟨first, front, rfl⟩ := List.exists_cons_of_ne_nil hnil
        have hfirst : Text.isBlank first = false :=
          Text.trimStart_eq_self_iff.mp (Text.trim_eq_self_iff.mp hc.trimmed).1 first rfl
        have hend := (Text.trim_eq_self_iff.mp h.trimmed).2
        simpa using Text.trim_cons_append hfirst hne hend (front ++ [' '])
      refine ⟨c ++ [' '], v, ?_, ?_, hbody⟩
      · rw [htrim, splitCondition_append hc.uncut hbehind, hquoted, splitCondition_blank, hsplit]
      · rw [Text.trim_append_blanks isBlank_of_mem_blank, hc.trimmed]

/-- With the bare keyword, the condition and the body follow. -/
theorem Reads.expr (h : Reads body tail rest) {c : Text} (hc : IsCondition c) :
    readConditional none (Text.trim (' ' :: (c ++ tail))) = (.expr c, body) := by
  obtain ⟨x, v, hsplit, hcond, hbody⟩ := h.split hc
  simp only [readConditional, trim_blank_cons, hsplit, hcond, hbody]

end Reading

/-- The properties of words that begin the lines of conditionals. -/
structure IsKeyword (word : Text) : Prop where
  /-- It begins with a letter. -/
  letter : ∃ c ∈ word.head?, Text.isAsciiLetter c = true
  /-- It is one word. -/
  noBlank : ∀ c ∈ word, Text.isBlank c = false
  /-- It is no part of a label. -/
  noColon : ':' ∉ word

/-- A line that starts with a keyword sets no label. -/
theorem IsKeyword.labelName? {word : Text} (h : IsKeyword word) {x : Text}
    (hx : Text.StartsBlank x) : labelName? (word ++ x) = none := by
  suffices hnot : ((word ++ x).getLast? == some ':' && !(word ++ x).dropLast.any Text.isBlank) =
      false by
    simp only [Script.labelName?, Bool.and_right_comm, hnot]
    rfl
  cases x with
  | nil =>
    have hlast : word.getLast? ≠ some ':' := fun hlast => h.noColon (List.mem_of_getLast? hlast)
    simp [hlast]
  | cons b x =>
    have hb : Text.isBlank b = true := hx b rfl
    cases x with
    | nil =>
      have hne : b ≠ ':' := by
        rintro rfl
        exact absurd hb (by decide)
      simp [hne]
    | cons c x => simp [hb]

/-- A keyword is not empty. -/
theorem IsKeyword.ne_nil {word : Text} (h : IsKeyword word) : word ≠ [] := by
  rintro rfl
  obtain ⟨c, hc, -⟩ := h.letter
  cases hc

/-- A keyword in front is not trimmed away. -/
theorem IsKeyword.trim_append {word : Text} (h : IsKeyword word) (x : Text) :
    Text.trim (word ++ x) = word ++ Text.trimEnd x := by
  have hfirst := List.head?_eq_some_head h.ne_nil
  have hlast := List.getLast?_eq_some_getLast h.ne_nil
  rw [Text.trim_append hfirst hlast]
  · exact h.noBlank _ (List.head_mem h.ne_nil)
  · exact h.noBlank _ (List.getLast_mem h.ne_nil)

/-- A keyword is split off as the first word. -/
theorem IsKeyword.splitWord {word : Text} (h : IsKeyword word) {x : Text}
    (hx : Text.StartsBlank x) :
    Text.splitWord (Text.trim (word ++ x)) = (word, Text.trim x) := by
  rw [h.trim_append, Text.splitWord_append h.ne_nil h.noBlank hx.trimEnd,
    Text.trimStart_trimEnd]

/-- A line that starts with a keyword is read by its first word. -/
theorem IsKeyword.classify {word : Text} (h : IsKeyword word) {indent x : Text}
    (hindent : ∀ c ∈ indent, Text.isBlank c = true)
    (hx : Text.StartsBlank x) :
    classify (indent ++ (word ++ x)) =
      classifyWord (indent ++ (word ++ x)) (Text.trim (word ++ x)) := by
  have hlabel := h.labelName? hx.trimEnd
  have htrim := h.trim_append x
  obtain ⟨first, hfirst, hletter⟩ := h.letter
  obtain ⟨rest, rfl⟩ := List.head?_eq_some_iff.mp hfirst
  have hmark (d : Char) (hd : Text.isAsciiLetter d = false) : first ≠ d := by
    rintro rfl
    exact absurd hletter (by simp [hd])
  simp only [Script.classify, Text.trim_blanks_append hindent, htrim, hlabel]
  simp [hmark '#' (by decide), hmark '\x7b' (by decide), hmark '\x7d' (by decide),
    (hmark '/' (by decide)).symm]

/-- The case of a keyword means nothing. -/
theorem IsKeyword.of_sameWord {word keyword : Text} (h : IsKeyword keyword)
    (hword : Text.sameWord word keyword = true) : IsKeyword word where
  letter := Text.head?_letter_of_sameWord hword h.letter
  noBlank := Text.not_isBlank_of_sameWord hword h.noBlank
  noColon hcolon := by
    obtain ⟨d, hd, hlower⟩ := Text.exists_mem_of_sameWord hword hcolon
    have hsame : d = ':' := Text.eq_of_toLower_eq (by decide) hlower
    exact h.noColon (hsame ▸ hd)

/-- The keyword for a condition, and what of the condition follows it. -/
inductive Head : Condition → Text → Text → Prop
  /-- The keyword that stands by itself, before an expression. -/
  | expr {c : Text} (hc : IsCondition c) : Head (.expr c) "if" (' ' :: c)
  /-- The keyword that holds the number of arguments. -/
  | argCount {n : Nat} (hn : n ≤ Text.maxWord) :
    Head (.argCount n) ("if_".toList ++ Text.ofNat n) []

/-- The keyword that holds a number is one word. -/
theorem isKeyword_count {front digits : Text} (hfront : Text.sameWord front argCountWord = true)
    (hdigits : ∀ c ∈ digits, Text.isDigit c = true) : IsKeyword (front ++ digits) := by
  have hcount : IsKeyword argCountWord :=
    ⟨⟨'i', rfl, by decide⟩, Text.forall_mem_of_all (by decide), by decide⟩
  have hword := hcount.of_sameWord hfront
  have hdigit : ∀ c ∈ digits, Text.isBlank c = false ∧ c ≠ ':' := fun c hc =>
    ⟨Text.not_isBlank_of_isDigit (hdigits c hc), Text.ne_of_isDigit (hdigits c hc) rfl⟩
  refine ⟨?_, ?_, ?_⟩
  · rw [List.head?_append_of_ne_nil _ hword.ne_nil]
    exact hword.letter
  · intro c hc
    rcases List.mem_append.mp hc with hletter | hc
    · exact hword.noBlank c hletter
    · exact (hdigit c hc).1
  · intro hcolon
    rcases List.mem_append.mp hcolon with hletter | hc
    · exact hword.noColon hletter
    · exact (hdigit ':' hc).2 rfl

/-- The keyword that holds a number is neither of the other keywords. -/
theorem ne_keyword_of_count {front digits : Text}
    (hfront : Text.sameWord front argCountWord = true) :
    Text.sameWord (front ++ digits) "else" = false ∧
      Text.sameWord ((front ++ digits).take 5) "else\x7b" = false ∧
      Text.sameWord (front ++ digits) "if" = false := by
  obtain ⟨c, front, rfl, hlower⟩ : ∃ c rest, front = c :: rest ∧ c.toLower = 'i'.toLower :=
    Text.exists_cons_of_sameWord hfront
  have hc : c.toLower ≠ 'e'.toLower := by
    rw [hlower]
    decide
  refine ⟨Text.sameWord_cons_eq_false hc _ _, Text.sameWord_cons_eq_false hc _ _, ?_⟩
  rw [Bool.eq_false_iff]
  intro hif
  have hlength := Text.length_of_sameWord hif
  have hthree := Text.length_of_sameWord hfront
  rw [List.length_append] at hlength
  change _ + _ = 2 at hlength
  change _ = 3 at hthree
  omega

/-- The number in a keyword is read, and counts as zero past the largest word. -/
theorem argCount_digits {front digits : Text} {n : Nat}
    (hfront : Text.sameWord front argCountWord = true)
    (hdigits : Text.readDigits? digits = some n) :
    argCount (front ++ digits) = .ok (some (if n ≤ Text.maxWord then n else 0)) := by
  have hlength : front.length = 3 := Text.length_of_sameWord hfront
  have hkeyword : Text.sameWord ((front ++ digits).take 3) argCountWord = true := by
    rw [List.take_left' hlength, hfront]
  have hcut : cutsWithin 3 (front ++ digits) = false :=
    not_cutsWithin_of_take le_rfl hkeyword (by decide)
  rw [argCount, hcut, argCountOf?, hkeyword, List.drop_left' hlength, hdigits]
  rfl

/-- A number that stands for itself is read in its keyword. -/
theorem argCount_ofNat {n : Nat} (hn : n ≤ Text.maxWord) :
    argCount ("if_".toList ++ Text.ofNat n) = .ok (some n) := by
  have hkeyword : Text.sameWord "if_" argCountWord = true := by decide
  rw [argCount_digits hkeyword (Text.readDigits?_ofNat n), if_pos hn]

section Heads

variable {cond : Condition} {word x : Text} {body : Body} {tail : Text}

/-- A header begins with a keyword. -/
theorem Head.isKeyword (h : Head cond word x) : IsKeyword word := by
  cases h with
  | expr hc => exact ⟨⟨'i', rfl, by decide⟩, Text.forall_mem_of_all (by decide), by decide⟩
  | argCount _ => exact isKeyword_count (by decide) fun c hc => Text.isDigit_of_mem_ofNat hc

/-- Behind its keyword, a header goes on with a blank. -/
theorem Head.startsBlank (h : Head cond word x) (htail : Tail body tail) :
    Text.StartsBlank (x ++ tail) := by
  cases h with
  | expr _ => exact startsBlank_blank _
  | argCount _ =>
    obtain ⟨rest, hreads⟩ := htail.reads
    obtain ⟨rfl, -⟩ | ⟨rfl, -⟩ := hreads.blank
    · exact Text.startsBlank_nil
    · exact startsBlank_blank rest

/-- A conditional alone is read as it was written. -/
theorem Head.classifyWord (h : Head cond word x) (htail : Tail body tail) {raw line : Text}
    (hline : Text.splitWord line = (word, Text.trim (x ++ tail))) :
    classifyWord raw line = .ok (.ifLine cond body) := by
  obtain ⟨rest, hreads⟩ := htail.reads
  cases h with
  | expr hc =>
    have hread := hreads.expr hc
    have helse : Text.sameWord "if" "else" = false ∧
        Text.sameWord (("if" : Text).take 5) "else\x7b" = false ∧
        Text.sameWord "if" "if" = true := by
      decide
    simp only [List.cons_append] at hline
    simp only [Script.classifyWord, hline, helse, hread]
    rfl
  | @argCount n hn =>
    have hread := hreads.argCount n
    have hother : _ ∧ _ ∧ _ := @ne_keyword_of_count "if_" (Text.ofNat n) (by decide)
    simp only [List.nil_append] at hline
    simp only [Script.classifyWord, hline, hother, argCount_ofNat hn, bind, Except.bind, pure,
      Except.pure, Bool.false_eq_true, ↓reduceIte, hread]

/-- A conditional behind `else` is read as it was written. -/
theorem Head.classifyElse (h : Head cond word x) (htail : Tail body tail) {line : Text}
    (hline : Text.splitWord line = (word, Text.trim (x ++ tail))) :
    classifyElse line = .ok (.elseIfLine cond body) := by
  obtain ⟨rest, hreads⟩ := htail.reads
  cases h with
  | expr hc =>
    have hread := hreads.expr hc
    have hif : Text.sameWord "if" "if" = true := by decide
    simp only [List.cons_append] at hline
    simp only [Script.classifyElse, hline, hif, hread]
    rfl
  | @argCount n hn =>
    have hread := hreads.argCount n
    have hother : _ ∧ _ ∧ _ := @ne_keyword_of_count "if_" (Text.ofNat n) (by decide)
    simp only [List.nil_append] at hline
    simp only [Script.classifyElse, hline, hother, argCount_ofNat hn, bind, Except.bind, pure,
      Except.pure, Bool.false_eq_true, ↓reduceIte, hread]

end Heads

/-- Whether a word is a keyword of a conditional, in any case. -/
def IsConditionalWord (word : Text) : Prop :=
  Text.sameWord word "if" = true ∨
    ∃ front digits, word = front ++ digits ∧ Text.sameWord front "if_" = true ∧ digits ≠ [] ∧
      ∀ c ∈ digits, Text.isDigit c = true

/-- A word that is no keyword of a conditional is not read as one. -/
theorem not_read_of_not_conditionalWord {word : Text} (h : ¬IsConditionalWord word) :
    Text.sameWord word "if" = false ∧ argCountOf? word = none := by
  obtain ⟨hif, hcount⟩ := not_or.mp h
  refine ⟨Bool.eq_false_iff.mpr hif, ?_⟩
  rw [argCountOf?]
  split
  · rename_i hfront
    rw [Option.map_eq_none_iff, Text.readDigits?]
    split
    · rename_i hdigits
      rw [Bool.and_eq_true, Bool.not_eq_true', List.isEmpty_eq_false_iff, List.all_eq_true]
        at hdigits
      exact absurd ⟨word.take 3, word.drop 3, (List.take_append_drop 3 word).symm, hfront, hdigits⟩
        hcount
    · rfl
  · rfl

/-- The layouts of labels and conditionals. -/
inductive Layout : Line → Text → Prop
  /-- A label: a name before a colon. -/
  | label {name : Text} (hne : name ≠ []) (hblank : ∀ c ∈ name, Text.isBlank c = false)
    (hnumber : name.head? ≠ some '#') (hslashes : ¬("//".toList <+: name)) :
    Layout (.label name) (name ++ [':'])
  /-- A conditional. -/
  | ifLine {cond : Condition} {body : Body} {word x tail : Text} (hhead : Head cond word x)
    (htail : Tail body tail) : Layout (.ifLine cond body) (word ++ (x ++ tail))
  /-- A conditional behind `else`. -/
  | elseIfLine {cond : Condition} {body : Body} {word x tail : Text} (hhead : Head cond word x)
    (htail : Tail body tail) :
    Layout (.elseIfLine cond body) ("else ".toList ++ (word ++ (x ++ tail)))
  /-- A statement behind `else`. Its first word is no keyword, and can be cut after three bytes. -/
  | elseInline {s : Text} (hs : IsInline s) (hword : ¬IsConditionalWord (Text.splitWord s).1)
    (hcut : cutsWithin 3 (Text.splitWord s).1 = false) :
    Layout (.elseLine (.inline s)) ("else ".toList ++ s)
  /-- A brace behind `else`. -/
  | elseBlock : Layout (.elseLine .block) "else \x7b"
  /-- A statement in braces behind `else`. -/
  | elseBlockInline {s : Text} (hs : Text.trim s = s) :
    Layout (.elseLine (.blockInline s)) ("else \x7b ".toList ++ s ++ " \x7d".toList)
  /-- The bare `else`. -/
  | elseNext : Layout (.elseLine .next) "else"

section Lines

variable {indent : Text}

/-- The word of the other case is a keyword. -/
theorem isKeyword_else : IsKeyword "else" :=
  ⟨⟨'e', rfl, by decide⟩, Text.forall_mem_of_all (by decide), by decide⟩

/-- What follows `else`, in any case, is read by itself. -/
theorem classify_sameWord_else (hindent : ∀ c ∈ indent, Text.isBlank c = true) {front x : Text}
    (hfront : Text.sameWord front "else" = true) (hx : Text.StartsBlank x) :
    classify (indent ++ (front ++ x)) = classifyElse (Text.trim x) := by
  have hkeyword := isKeyword_else.of_sameWord hfront
  rw [hkeyword.classify hindent hx]
  simp only [classifyWord, hkeyword.splitWord hx, hfront]
  rfl

/-- A line that begins with an else is classified by what follows it. -/
theorem classify_else (hindent : ∀ c ∈ indent, Text.isBlank c = true) {x : Text}
    (hx : Text.StartsBlank x) :
    classify (indent ++ ("else".toList ++ x)) = classifyElse (Text.trim x) :=
  classify_sameWord_else hindent (by decide) hx

/-- A body behind `else` is read by itself, unless its first word is a keyword. -/
theorem classify_elseLine (hindent : ∀ c ∈ indent, Text.isBlank c = true) {rest : Text}
    (htrimmed : Text.trim rest = rest) (hword : ¬IsConditionalWord (Text.splitWord rest).1)
    (hcut : cutsWithin 3 (Text.splitWord rest).1 = false) :
    classify (indent ++ ("else ".toList ++ rest)) = .ok (.elseLine (readBody rest)) := by
  have hkind := classify_else hindent (startsBlank_blank rest)
  obtain ⟨hif, hcount⟩ := not_read_of_not_conditionalWord hword
  have helse : classifyElse rest = .ok (.elseLine (readBody rest)) := by
    simp only [classifyElse, hif, argCount, hcut, hcount, bind, Except.bind, pure, Except.pure,
      Bool.false_eq_true, ↓reduceIte]
  rw [trim_blank_cons, htrimmed, helse] at hkind
  exact hkind

/-- A brace is no keyword. -/
theorem splitWord_brace (x : Text) (hx : Text.StartsBlank x) :
    ¬IsConditionalWord (Text.splitWord ('\x7b' :: x)).1 ∧
      cutsWithin 3 (Text.splitWord ('\x7b' :: x)).1 = false := by
  have hbrace : ∀ c ∈ ['\x7b'], Text.isBlank c = false := Text.forall_mem_of_all (by decide)
  have hsplit : (Text.splitWord (['\x7b'] ++ x)).1 = ['\x7b'] := by
    rw [Text.splitWord_append (List.cons_ne_nil _ _) hbrace hx]
  rw [← List.singleton_append, hsplit]
  refine ⟨?_, by decide⟩
  rintro (hif | ⟨front, digits, hword, hfront, hne, -⟩)
  · exact absurd hif (by decide)
  · have hlength := congrArg List.length hword
    have hthree := Text.length_of_sameWord hfront
    have hpos := List.length_pos_of_ne_nil hne
    rw [List.length_append] at hlength
    change front.length = 3 at hthree
    change 1 = _ at hlength
    omega

/-- A label is read as it was written. -/
theorem classify_label (hindent : ∀ c ∈ indent, Text.isBlank c = true) {name : Text}
    (hne : name ≠ []) (hblank : ∀ c ∈ name, Text.isBlank c = false)
    (hnumber : name.head? ≠ some '#') (hslashes : ¬("//".toList <+: name)) :
    classify (indent ++ (name ++ [':'])) = .ok (.label name) := by
  have htrim : Text.trim (indent ++ (name ++ [':'])) = name ++ [':'] := by
    rw [Text.trim_blanks_append hindent, Text.trim_eq_self]
    intro c hc
    rcases List.mem_append.mp hc with hname | hcolon
    · exact hblank c hname
    · obtain rfl := List.mem_singleton.mp hcolon
      decide
  have hlabel : labelName? (name ++ [':']) = some name := by
    have hany : name.any Text.isBlank = false := by
      rw [List.any_eq_false]
      intro c hc
      simp [hblank c hc]
    simp [labelName?, hany, hne]
  have hcomment : ((name ++ [':']).head? == some '#' ||
      ("//" : Text).isPrefixOf (name ++ [':'])) = false := by
    rw [Bool.or_eq_false_iff]
    constructor
    · rw [List.head?_append_of_ne_nil _ hne]
      exact beq_false_of_ne hnumber
    · rw [Bool.eq_false_iff]
      intro hprefix
      rw [List.isPrefixOf_iff_prefix] at hprefix
      obtain ⟨c, rest, rfl⟩ := List.exists_cons_of_ne_nil hne
      cases rest with
      | nil => simp at hprefix
      | cons d rest => exact hslashes (by simpa using hprefix)
  obtain ⟨c, rest, rfl⟩ := List.exists_cons_of_ne_nil hne
  have hbrace : (c :: rest ++ [':'] == ("\x7b" : Text)) = false ∧
      (c :: rest ++ [':'] == ("\x7d" : Text)) = false := by
    simp
  simp only [classify, htrim, hcomment, hlabel, hbrace]
  rfl

/-- A line that is written in one of the layouts is read as that line, however far it is
indented. -/
theorem classify_of_layout {line : Line} {t : Text}
    (hindent : ∀ c ∈ indent, Text.isBlank c = true) (h : Layout line t) :
    classify (indent ++ t) = .ok line := by
  cases h with
  | label hne hblank hnumber hslashes => exact classify_label hindent hne hblank hnumber hslashes
  | ifLine hhead htail =>
    have hblank := hhead.startsBlank htail
    rw [hhead.isKeyword.classify hindent hblank]
    exact hhead.classifyWord htail (hhead.isKeyword.splitWord hblank)
  | @elseIfLine cond body word x tail hhead htail =>
    have hsplit := hhead.isKeyword.splitWord (hhead.startsBlank htail)
    have hkind := classify_else hindent (startsBlank_blank (word ++ (x ++ tail)))
    rw [trim_blank_cons, hhead.classifyElse htail hsplit] at hkind
    exact hkind
  | @elseInline s hs hword hcut =>
    rw [classify_elseLine hindent hs.trimmed hword hcut, readBody_inline hs hs.trimmed]
  | elseBlock =>
    obtain ⟨hword, hcut⟩ := splitWord_brace [] Text.startsBlank_nil
    exact classify_elseLine hindent (by decide) hword hcut
  | @elseBlockInline s hs =>
    obtain ⟨hword, hcut⟩ := splitWord_brace _ (startsBlank_blank ((s ++ [' ']) ++ ['\x7d']))
    have hkind := classify_elseLine hindent (trim_block s) hword hcut
    rw [readBody_blockInline hs (trim_block s)] at hkind
    simpa using hkind
  | elseNext =>
    have hkind := classify_else hindent Text.startsBlank_nil
    exact hkind

/-- A gate behind an else has a condition with a word and a brace in quotes. -/
theorem classify_of_layout_gate :
    (∀ c ∈ "\t  ".toList, Text.isBlank c = true) ∧
      Layout (.elseIfLine (.expr "x == \"then \x7b\"") (.blockInline "go gate"))
        "else if x == \"then \x7b\" then \x7b go gate \x7d" ∧
      classify "\t  else if x == \"then \x7b\" then \x7b go gate \x7d" =
        .ok (.elseIfLine (.expr "x == \"then \x7b\"") (.blockInline "go gate")) := by
  have hindent : ∀ c ∈ "\t  ".toList, Text.isBlank c = true := Text.forall_mem_of_all (by decide)
  have hlayout : Layout (.elseIfLine (.expr "x == \"then \x7b\"") (.blockInline "go gate"))
      "else if x == \"then \x7b\" then \x7b go gate \x7d" :=
    .elseIfLine (.expr (by decide)) (.thenBlockInline (by decide))
  exact ⟨hindent, hlayout, classify_of_layout hindent hlayout⟩

end Lines

end Script

end Mudline
