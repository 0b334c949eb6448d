import Mudline.Proofs.Script.Indexing
import Mudline.Script.Effect

/-!
# Arguments between quotes

Arguments that are written between quotes, with blanks between neighbours, are read as they are,
whatever blanks they hold and even when they are empty. So a label that is called with arguments
between quotes finds these arguments, and references to arguments and to groups find them too.
-/

namespace Mudline.Script

/-- The ways to write arguments between quotes, with blanks between neighbours. -/
inductive InQuotes : List Text → Text → Prop
  /-- There are no arguments. -/
  | none : InQuotes [] []
  /-- There is one. -/
  | one (arg : Text) : InQuotes [arg] ('"' :: (arg ++ ['"']))
  /-- There are several. -/
  | more (arg : Text) {next blanks t : Text} {args : List Text} (hne : blanks ≠ [])
      (hblanks : ∀ c ∈ blanks, Text.isBlank c = true) (h : InQuotes (next :: args) t) :
      InQuotes (arg :: next :: args) ('"' :: (arg ++ '"' :: (blanks ++ t)))

/-- A quote is not blank. -/
theorem ne_quote_of_isBlank {c : Char} (h : Text.isBlank c = true) : c ≠ '"' := by
  rintro rfl
  cases h

/-- Up to the closing quote everything belongs to the argument. -/
theorem splitArgsFrom_closing {arg : Text} (h : '"' ∉ arg) (before rest : Text) :
    splitArgsFrom true true before (arg ++ '"' :: rest) =
      splitArgsFrom false true (before ++ arg) rest := by
  induction arg generalizing before with
  | nil => simp [splitArgsFrom]
  | cons c arg ih =>
    obtain ⟨hc, harg⟩ := List.ne_and_not_mem_of_not_mem_cons h
    have hquote : (c == '"') = false := beq_eq_false_iff_ne.mpr hc.symm
    rw [List.cons_append, splitArgsFrom]
    simp only [hquote, Bool.false_eq_true, if_false, Bool.not_true, Bool.and_false]
    rw [ih harg, List.append_assoc, List.singleton_append]

/-- An argument in quotes is taken up to its closing quote. -/
theorem splitArgs_quote {arg : Text} (h : '"' ∉ arg) (rest : Text) :
    splitArgs ('"' :: (arg ++ '"' :: rest)) = splitArgsFrom false true arg rest :=
  splitArgsFrom_closing h [] rest

/-- A blank ends an argument that had quotes, even when it is empty. -/
theorem splitArgsFrom_blank {c : Char} (h : Text.isBlank c = true) (arg rest : Text) :
    splitArgsFrom false true arg (c :: rest) = arg :: splitArgs rest := by
  have hquote : (c == '"') = false := beq_eq_false_iff_ne.mpr (ne_quote_of_isBlank h)
  simp [splitArgsFrom, hquote, h, openArg, splitArgs]

/-- Blanks in front make no difference to the arguments. -/
theorem splitArgs_blanks_append {blanks : Text} (h : ∀ c ∈ blanks, Text.isBlank c = true)
    (t : Text) : splitArgs (blanks ++ t) = splitArgs t := by
  induction blanks with
  | nil => rfl
  | cons c blanks ih =>
    obtain ⟨hc, hblanks⟩ := List.forall_mem_cons.mp h
    have hquote : (c == '"') = false := beq_eq_false_iff_ne.mpr (ne_quote_of_isBlank hc)
    rw [← ih hblanks, List.cons_append, splitArgs, splitArgsFrom]
    simp [hquote, hc, openArg, splitArgs]

/-- Among blanks there are no arguments. -/
theorem splitArgs_blanks {blanks : Text} (h : ∀ c ∈ blanks, Text.isBlank c = true) :
    splitArgs blanks = [] := by
  have hnothing := splitArgs_blanks_append h []
  rwa [List.append_nil] at hnothing

/-- Arguments are split in the same way without the blanks in front. -/
theorem splitArgs_trimStart (t : Text) : splitArgs (Text.trimStart t) = splitArgs t := by
  obtain ⟨blanks, hblanks, ht⟩ := Text.exists_blanks_trimStart t
  conv_rhs => rw [ht, splitArgs_blanks_append hblanks]

/-- Blanks end an argument. -/
theorem splitArgsFrom_blanks {blanks : Text} (h : ∀ c ∈ blanks, Text.isBlank c = true)
    (arg : Text) : splitArgsFrom false true arg blanks = [arg] := by
  cases blanks with
  | nil => simp [splitArgsFrom, openArg]
  | cons c blanks =>
    obtain ⟨hc, hblanks⟩ := List.forall_mem_cons.mp h
    rw [splitArgsFrom_blank hc, splitArgs_blanks hblanks]

/-- What is written between quotes is read again. -/
theorem InQuotes.splitArgs_append {args : List Text} {t back : Text} (h : InQuotes args t)
    (hargs : ∀ arg ∈ args, '"' ∉ arg) (hback : ∀ c ∈ back, Text.isBlank c = true) :
    splitArgs (t ++ back) = args := by
  induction h with
  | none => exact splitArgs_blanks hback
  | one arg =>
    have hread := splitArgs_quote (hargs arg List.mem_cons_self) back
    rw [splitArgsFrom_blanks hback] at hread
    simpa using hread
  | @more arg next blanks t args hne hblanks _ ih =>
    obtain ⟨harg, hrest⟩ := List.forall_mem_cons.mp hargs
    obtain ⟨c, blanks, rfl⟩ := List.exists_cons_of_ne_nil hne
    obtain ⟨hc, hblanks⟩ := List.forall_mem_cons.mp hblanks
    have hread := splitArgs_quote harg (c :: (blanks ++ (t ++ back)))
    simp only [List.cons_append, List.append_assoc] at hread ⊢
    rw [hread, splitArgsFrom_blank hc, splitArgs_blanks_append hblanks, ih hrest]

/-- The ways to write a call of a label with arguments between quotes. -/
inductive IsCall (label : Text) (args : List Text) : Text → Prop
  /-- The word may be written in any case, and blanks may stand around everything. -/
  | intro {front word gap behind quoted back : Text}
      (hfront : ∀ c ∈ front, Text.isBlank c = true) (hword : Text.sameWord word "gosub" = true)
      (hgap : gap ≠ [] ∧ ∀ c ∈ gap, Text.isBlank c = true)
      (hlabel : label ≠ [] ∧ ∀ c ∈ label, Text.isBlank c = false)
      (hbehind : ∀ c ∈ behind, Text.isBlank c = true) (hapart : args ≠ [] → behind ≠ [])
      (hquoted : InQuotes args quoted) (hback : ∀ c ∈ back, Text.isBlank c = true) :
      IsCall label args (front ++ (word ++ (gap ++ (label ++ (behind ++ (quoted ++ back))))))

/-- A text with blanks in front starts blank. -/
theorem startsBlank_append {blanks : Text} (hne : blanks ≠ [])
    (h : ∀ c ∈ blanks, Text.isBlank c = true) (t : Text) : Text.StartsBlank (blanks ++ t) := by
  obtain ⟨c, blanks, rfl⟩ := List.exists_cons_of_ne_nil hne
  exact Text.startsBlank_cons (h c List.mem_cons_self) _

/-- The label ends where the blanks before the arguments begin, or those at the end of the line. -/
theorem InQuotes.startsBlank {args : List Text} {behind t back : Text} (h : InQuotes args t)
    (hbehind : ∀ c ∈ behind, Text.isBlank c = true) (hapart : args ≠ [] → behind ≠ [])
    (hback : ∀ c ∈ back, Text.isBlank c = true) : Text.StartsBlank (behind ++ (t ++ back)) := by
  by_cases hempty : behind = []
  · have hnone : args = [] := not_not.mp fun hargs => hapart hargs hempty
    subst hempty
    subst hnone
    cases h
    exact fun c hc => hback c (List.mem_of_head? hc)
  · exact startsBlank_append hempty hbehind _

/-- The first word is the same without the blanks in front. -/
theorem splitWord_trimStart (t : Text) : Text.splitWord (Text.trimStart t) = Text.splitWord t := by
  obtain ⟨blanks, hblanks, ht⟩ := Text.exists_blanks_trimStart t
  conv_rhs => rw [ht, Text.splitWord_blanks_append hblanks]

/-- A call is read in any letter case, with any blanks around its word. -/
theorem read_gosub {front word gap : Text} (hfront : ∀ c ∈ front, Text.isBlank c = true)
    (hword : Text.sameWord word "gosub" = true)
    (hgap : gap ≠ [] ∧ ∀ c ∈ gap, Text.isBlank c = true) (rest : Text) :
    Statement.read (front ++ (word ++ (gap ++ rest))) = Statement.readGosub rest := by
  have hne : word ≠ [] := by
    rintro rfl
    cases hword
  have hletters := Text.not_isBlank_of_sameWord hword (Text.forall_mem_of_all (by decide))
  have hsplit : Text.splitWord (front ++ (word ++ (gap ++ rest))) =
      (word, Text.trimStart (gap ++ rest)) := by
    rw [Text.splitWord_blanks_append hfront,
      Text.splitWord_append hne hletters (startsBlank_append hgap.1 hgap.2 rest)]
  have hlookup : Statement.readers.lookup (Text.asciiLower word) = some Statement.readGosub := by
    rw [Text.asciiLower_of_sameWord hword]
    rfl
  have hread : Statement.readGosub (Text.trimStart (gap ++ rest)) = Statement.readGosub rest := by
    rw [Statement.readGosub, splitWord_trimStart, Text.splitWord_blanks_append hgap.2,
      Statement.readGosub]
  simp only [Statement.read, hsplit, List.isEmpty_eq_false_iff.mpr hne, Bool.false_eq_true,
    if_false, hlookup, hread]

/-- A call that is written so is read as it. -/
theorem IsCall.read_eq {label raw : Text} {args : List Text} (h : IsCall label args raw)
    (hargs : ∀ arg ∈ args, '"' ∉ arg) : Statement.read raw = .gosub label args := by
  cases h with
  | @intro front word gap behind quoted back hfront hword hgap hlabel hbehind hapart hquoted
      hback =>
    have hsplit : Text.splitWord (label ++ (behind ++ (quoted ++ back))) =
        (label, Text.trimStart (behind ++ (quoted ++ back))) :=
      Text.splitWord_append hlabel.1 hlabel.2 (hquoted.startsBlank hbehind hapart hback)
    rw [read_gosub hfront hword hgap, Statement.readGosub, hsplit]
    dsimp only
    rw [splitArgs_trimStart, splitArgs_blanks_append hbehind,
      hquoted.splitArgs_append hargs hback]

/-- A blank is no sigil. -/
theorem isSigil_of_isBlank {c : Char} (h : Text.isBlank c = true) : isSigil c = false := by
  refine Bool.eq_false_iff.mpr fun hsigil => ?_
  simp only [isSigil, Bool.or_eq_true, beq_iff_eq] at hsigil
  obtain (rfl | rfl) | rfl := hsigil <;> cases h

/-- The letter case makes no difference to what is a sigil. -/
theorem isSigil_toLower (c : Char) : isSigil c.toLower = isSigil c := by
  have hletter {d : Char} (hd : 65 ≤ d.toNat ∧ d.toNat ≤ 122) : isSigil d = false := by
    refine Bool.eq_false_iff.mpr fun hsigil => ?_
    simp only [isSigil, Bool.or_eq_true, beq_iff_eq] at hsigil
    obtain (rfl | rfl) | rfl := hsigil <;> exact absurd hd (by decide)
  obtain hsame | ⟨hupper, hlower⟩ := Text.toLower_cases c
  · rw [hsame]
  · rw [hletter ⟨hupper.1, by omega⟩, hletter (by omega)]

/-- There are no sigils in quoted arguments that have none. -/
theorem InQuotes.isSigil_eq_false {args : List Text} {t : Text} (h : InQuotes args t)
    (hargs : ∀ arg ∈ args, ∀ c ∈ arg, isSigil c = false) : ∀ c ∈ t, isSigil c = false := by
  induction h with
  | none => exact nofun
  | one arg =>
    have harg := hargs arg List.mem_cons_self
    simp only [List.forall_mem_cons, List.forall_mem_append]
    exact ⟨rfl, harg, rfl, nofun⟩
  | more arg _ hblanks _ ih =>
    obtain ⟨harg, hrest⟩ := List.forall_mem_cons.mp hargs
    simp only [List.forall_mem_cons, List.forall_mem_append]
    exact ⟨rfl, harg, rfl, fun c hc => isSigil_of_isBlank (hblanks c hc), ih hrest⟩

/-- There are no sigils in the word of a call. -/
theorem isSigil_of_sameWord {word : Text} (h : Text.sameWord word "gosub" = true) :
    ∀ c ∈ word, isSigil c = false := by
  have hletters : ∀ d ∈ ("gosub" : Text), isSigil d.toLower = false :=
    Text.forall_mem_of_all (by decide)
  intro c hc
  obtain ⟨d, hd, hlower⟩ := Text.exists_mem_of_sameWord h hc
  rw [← isSigil_toLower, ← hlower, hletters d hd]

/-- No sigil comes in but with the label and the arguments. -/
theorem IsCall.isSigil_eq_false {label raw : Text} {args : List Text} (h : IsCall label args raw)
    (hplain : ∀ c ∈ label, isSigil c = false)
    (hargs : ∀ arg ∈ args, ∀ c ∈ arg, isSigil c = false) : ∀ c ∈ raw, isSigil c = false := by
  obtain ⟨hfront, hword, hgap, -, hbehind, -, hquoted, hback⟩ := h
  have hblanks {t : Text} (ht : ∀ c ∈ t, Text.isBlank c = true) : ∀ c ∈ t, isSigil c = false :=
    fun c hc => isSigil_of_isBlank (ht c hc)
  simp only [List.forall_mem_append]
  exact ⟨hblanks hfront, isSigil_of_sameWord hword, hblanks hgap.2, hplain, hblanks hbehind,
    hquoted.isSigil_eq_false hargs, hblanks hback⟩

/-- That a script goes on at a place with arguments of its own. -/
structure Called (s : Script) (place : Nat) (given : List Text) : Prop where
  /-- It goes on there. -/
  next : s.next = place
  /-- The arguments are its own. -/
  args : s.args = given
  /-- The groups are all arguments joined, and then each. -/
  captures : s.captures = Text.join " " given :: given
  /-- Of those that both have, references to arguments and to groups find the same. -/
  slots : ∀ i ≤ 9, i < s.captures.length → s.slots[i]? = s.captures[i]?

/-- A call goes to its label with its arguments. -/
theorem called_call {s : Script} {label : Text} {place : Nat}
    (h : s.listing.label? label = some place) (args : List Text) :
    Called (s.call label args) place args := by
  have hcall : s.call label args =
      { s.jump label with
        stack := ⟨s.next, s.levels, s.captures, s.args⟩ :: s.stack
        captures := callGroups args
        args := args } := by
    rw [call, h]
  rw [hcall]
  refine ⟨?_, rfl, rfl, fun i hi hpresent => ?_⟩
  · rw [jump, h]
  · cases i with
    | zero => rfl
    | succ i =>
      have hargs : i < args.length := Nat.lt_of_succ_lt_succ hpresent
      have hrange : i < 9 := hi
      simp [slots, callGroups, hrange, hargs]

/-- Arguments without quotes are read again from between quotes, with any blanks between them. If
they hold no references either, then a script that calls a label with them goes on there with these
arguments, and with the groups that go with them. The label is to hold no references, or none in
the line that refers to anything. -/
theorem quoted_args_arrive {args : List Text} (hargs : ∀ arg ∈ args, '"' ∉ arg) :
    (∀ t, InQuotes args t → splitArgs t = args) ∧
      ((∀ arg ∈ args, ∀ c ∈ arg, isSigil c = false) →
        ∀ (s : Script) (raw label : Text) (place : Nat), IsCall label args raw →
          ((∀ c ∈ label, isSigil c = false) ∨ s.expandLine raw = raw) →
            s.listing.label? label = some place → Called (s.execute raw) place args) := by
  refine ⟨fun t ht => ?_, fun hplain s raw label place hcall hlabel hplace => ?_⟩
  · have hread : splitArgs (t ++ []) = args := ht.splitArgs_append hargs nofun
    rwa [List.append_nil] at hread
  · have hline : s.expandLine raw = raw := by
      obtain hlabel | hline := hlabel
      · exact expand_of_plain (hcall.isSigil_eq_false hlabel hplain) _ _
      · exact hline
    rw [execute, hline, hcall.read_eq hargs]
    exact called_call hplace args

/-- A script with a label. -/
def porter : Script where
  listing := {
    name := "porter"
    lines := [.command "exit", .label "Door", .command "return"].map fun kind =>
      ⟨⟨[], "porter", 1⟩, kind⟩
    labels := [("door", 1)] }
  args := ["gate"]
  status := .running

/-- A porter is called with a blank, an empty and a plain argument, all of them in quotes. -/
theorem quoted_args_arrive_porter :
    (∀ arg ∈ (["go north", "", "7 coins"] : List Text), '"' ∉ arg) ∧
      splitArgs "\"go north\" \"\"\t \"7 coins\"" = ["go north", "", "7 coins"] ∧
      Called (porter.execute " GoSub DOOR \"go north\" \"\"\t \"7 coins\"  ") 1
        ["go north", "", "7 coins"] := by
  have hargs : ∀ arg ∈ (["go north", "", "7 coins"] : List Text), '"' ∉ arg := by
    simp only [List.forall_mem_cons]
    exact ⟨by decide, by decide, by decide, nofun⟩
  have hplain : ∀ arg ∈ (["go north", "", "7 coins"] : List Text), ∀ c ∈ arg,
      isSigil c = false := by
    simp only [List.forall_mem_cons]
    exact ⟨Text.forall_mem_of_all (by decide), nofun, Text.forall_mem_of_all (by decide), nofun⟩
  have hblank : ∀ c ∈ (" " : Text), Text.isBlank c = true := Text.forall_mem_of_all (by decide)
  have hquoted : InQuotes ["go north", "", "7 coins"] "\"go north\" \"\"\t \"7 coins\"" :=
    @InQuotes.more "go north" _ " " _ _ nofun hblank
      (@InQuotes.more "" _ "\t " _ _ nofun (Text.forall_mem_of_all (by decide)) (.one "7 coins"))
  have hcall : IsCall "DOOR" ["go north", "", "7 coins"]
      " GoSub DOOR \"go north\" \"\"\t \"7 coins\"  " :=
    @IsCall.intro "DOOR" _ " " "GoSub" " " " " _ "  " hblank (by decide) ⟨nofun, hblank⟩
      ⟨nofun, Text.forall_mem_of_all (by decide)⟩ hblank nofun hquoted
      (Text.forall_mem_of_all (by decide))
  obtain ⟨hsplit, hcalled⟩ := quoted_args_arrive hargs
  exact ⟨hargs, hsplit _ hquoted,
    hcalled hplain porter _ "DOOR" 1 hcall (.inl (Text.forall_mem_of_all (by decide)))
      (by decide +kernel)⟩

end Mudline.Script
