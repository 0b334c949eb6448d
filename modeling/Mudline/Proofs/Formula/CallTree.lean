import Mudline.Proofs.Formula.Balance
import Mudline.Proofs.Formula.Nesting
import Mudline.Proofs.Text.Digits

/-!
# Calls as trees

The arguments of a call may be calls themselves, so what is written is a tree. A tree may be written
in many ways, with blanks around each argument and around the whole. Each of them is read as the
call with its arguments as they are written, and reading the arguments again gives back the tree. A
text is left plain just if no call is written in it.
-/

namespace Mudline

namespace Formula

/-- That a text is a name of a function. -/
def IsName (name : Text) : Prop :=
  name.head?.any startsName = true ∧ name.all isNameChar = true

instance : DecidablePred IsName := fun _ => inferInstanceAs (Decidable (_ ∧ _))

/-- A name consists of characters of names. -/
theorem IsName.all {name : Text} (h : IsName name) : ∀ c ∈ name, isNameChar c = true :=
  List.all_eq_true.mp h.2

/-- A name begins with a character that may begin one. -/
theorem IsName.exists_cons {name : Text} (h : IsName name) :
    ∃ c rest, name = c :: rest ∧ startsName c = true := by
  cases name with
  | nil => cases h.1
  | cons c rest => exact ⟨c, rest, rfl, h.1⟩

/-- That a call is written in a text: outside quotes, and not behind a character after which no call
begins, there is a name and right behind it balanced text in parentheses. -/
def HasCall (t : Text) : Prop :=
  ∃ front name inner back, t = front ++ (name ++ '(' :: (inner ++ ')' :: back)) ∧
    Even (front.count '"') ∧ front.getLast?.any blocksCall = false ∧
    IsName name ∧ Balanced true inner

/-- The same of what follows a character, perhaps between quotes. -/
def HasCallFrom (before : Option Char) (quoted : Bool) (t : Text) : Prop :=
  ∃ front name inner back, t = front ++ (name ++ '(' :: (inner ++ ')' :: back)) ∧
    toggle quoted front = false ∧ (front.getLast?.or before).any blocksCall = false ∧
    IsName name ∧ Balanced true inner

/-- A text leaves the quotes closed if they are open and it has an odd number of them, or closed and
an even one. -/
theorem toggle_eq_false_iff {quoted : Bool} {t : Text} :
    toggle quoted t = false ↔ (quoted = true ↔ ¬Even (t.count '"')) := by
  induction t generalizing quoted with
  | nil => simp
  | cons c t ih =>
    rw [toggle_cons, ih]
    by_cases hquote : c = '"'
    · subst hquote
      rw [List.count_cons_self, Nat.even_add_one]
      cases quoted <;> simp
    · rw [List.count_cons_of_ne hquote, beq_eq_false_iff_ne.mpr hquote, Bool.bne_false]

/-- A text has a call if one begins in it from its start. -/
theorem hasCall_iff {t : Text} : HasCall t ↔ HasCallFrom none false t := by
  simp [HasCall, HasCallFrom, toggle_eq_false_iff]

/-- A name, an opening parenthesis, a balanced text and a closing one are a call. -/
theorem callAt?_of_name {name inner : Text} (hname : IsName name) (hinner : Balanced true inner)
    (back : Text) : callAt? (name ++ '(' :: (inner ++ ')' :: back)) = some (name, inner) := by
  rw [callAt?_append hname.all, takeClosed?_eq_some_iff.mpr ⟨hinner, back, rfl⟩, Option.map_some]

/-- A call is found at the start of a text just if a name and balanced text in parentheses stand
there. -/
theorem callAt?_isSome_iff {c : Char} {t : Text} (hc : startsName c = true) :
    (callAt? (c :: t)).isSome = true ↔
      ∃ name inner back, c :: t = name ++ '(' :: (inner ++ ')' :: back) ∧ IsName name ∧
        Balanced true inner := by
  constructor
  · intro h
    obtain ⟨⟨name, inner⟩, hcall⟩ := Option.isSome_iff_exists.mp h
    obtain ⟨hnames, back, htext, hclosed⟩ := callAt?_eq_some hcall
    have hname : name.head?.any startsName = true := by
      cases name with
      | nil =>
        obtain ⟨rfl, -⟩ := List.cons.inj htext
        cases hc
      | cons d name =>
        obtain ⟨rfl, -⟩ := List.cons.inj htext
        exact hc
    exact ⟨name, inner, back, htext, ⟨hname, List.all_eq_true.mpr hnames⟩,
      (takeClosed?_eq_some_iff.mp hclosed).1⟩
  · rintro ⟨name, inner, back, htext, hname, hinner⟩
    rw [htext, callAt?_of_name hname hinner, Option.isSome_some]

/-- A call is written at the start of a text or behind its first character. -/
theorem hasCallFrom_cons {before : Option Char} {quoted : Bool} {c : Char} {t : Text} :
    HasCallFrom before quoted (c :: t) ↔
      (quoted || !startsName c || before.any blocksCall) = false ∧
          (callAt? (c :: t)).isSome = true ∨
        HasCallFrom (some c) (quoted != (c == '"')) t := by
  constructor
  · rintro ⟨front, name, inner, back, htext, hquoted, hbefore, hname, hinner⟩
    cases front with
    | nil =>
      obtain ⟨d, rest, rfl, hd⟩ := hname.exists_cons
      obtain rfl : c = d := (List.cons.inj htext).1
      refine .inl ⟨?_, (callAt?_isSome_iff hd).mpr ⟨_, inner, back, htext, hname, hinner⟩⟩
      replace hquoted : quoted = false := hquoted
      replace hbefore : before.any blocksCall = false := hbefore
      simp [hquoted, hbefore, hd]
    | cons d front =>
      obtain ⟨rfl, rfl⟩ := List.cons.inj htext
      rw [Text.getLast?_cons_or] at hbefore
      exact .inr ⟨front, name, inner, back, rfl, hquoted, hbefore, hname, hinner⟩
  · rintro (⟨hhere, hcall⟩ | ⟨front, name, inner, back, rfl, hquoted, hbefore, hname, hinner⟩)
    · simp only [Bool.or_eq_false_iff, Bool.not_eq_false'] at hhere
      obtain ⟨⟨hquoted, hc⟩, hbefore⟩ := hhere
      obtain ⟨name, inner, back, htext, hname, hinner⟩ := (callAt?_isSome_iff hc).mp hcall
      exact ⟨[], name, inner, back, htext, hquoted, hbefore, hname, hinner⟩
    · rw [← Text.getLast?_cons_or c front before] at hbefore
      exact ⟨c :: front, name, inner, back, rfl, hquoted, hbefore, hname, hinner⟩

/-- A plain character in front changes none of the calls. -/
theorem filterMap_consPlain (c : Char) (parts : List Formula) :
    (consPlain c parts).filterMap call? = parts.filterMap call? := by
  rcases parts with _ | ⟨_ | _ | _, parts⟩ <;> rfl

/-- The scan finds no call just if none is written. Calls that are written inside others are not
found, but then the others are. -/
theorem filterMap_scan_eq_nil_iff {before : Option Char} {quoted : Bool} {t : Text} :
    (scan 0 before quoted t).filterMap call? = [] ↔ ¬HasCallFrom before quoted t := by
  induction t generalizing before quoted with
  | nil => simp [scan, HasCallFrom]
  | cons c t ih =>
    rw [scan, hasCallFrom_cons, not_or, ← ih]
    split
    · rename_i hpassed
      rw [filterMap_consPlain]
      simp [hpassed]
    · rename_i hhere
      have hquote : (quoted != (c == '"')) = false := by
        simp only [Bool.or_eq_true, not_or, Bool.not_eq_true, Bool.not_eq_false'] at hhere
        have hc := ne_quote_of_isNameChar (isNameChar_of_startsName hhere.1.2)
        simp [hhere.1.1, hc]
      split
      · rename_i name inner hcall
        simp [hcall, hhere, call?]
      · rename_i hcall
        rw [filterMap_consPlain, hquote]
        simp [hcall]

/-- A text is left plain just if no call is written in it. -/
theorem parse_eq_plain_iff {t : Text} : parse t = plain t ↔ ¬HasCall t := by
  rw [hasCall_iff, ← filterMap_scan_eq_nil_iff]
  refine ⟨fun h => ?_, parse_eq_plain⟩
  have hform := form_parse t
  rw [h] at hform
  cases hform with
  | plain hcalls => exact hcalls

/-- What keeps a call from beginning is not blank. -/
theorem not_isBlank_of_blocksCall {c : Char} (h : blocksCall c = true) :
    Text.isBlank c = false := by
  simp only [blocksCall, isNameChar, startsName, Bool.or_eq_true, beq_iff_eq] at h
  rcases h with (((((hletter | rfl) | hdigit) | rfl) | rfl) | rfl) | rfl
  · have hrange := Text.isAsciiLetter_iff.mp hletter
    simp only [Text.isBlank, Bool.or_eq_false_iff, Bool.and_eq_false_iff, decide_eq_false_iff_not,
      beq_eq_false_iff_ne]
    omega
  · rfl
  · exact Text.not_isBlank_of_isDigit hdigit
  all_goals rfl

/-- A blank does not keep a call from beginning. -/
theorem blocksCall_of_isBlank {c : Char} (h : Text.isBlank c = true) : blocksCall c = false :=
  Bool.eq_false_iff.mpr fun hblocks => by simp [not_isBlank_of_blocksCall hblocks] at h

/-- What may begin a name keeps a call from beginning behind it. -/
theorem blocksCall_of_startsName {c : Char} (h : startsName c = true) : blocksCall c = true := by
  simp [blocksCall, isNameChar_of_startsName h]

/-- Blanks are passed over, and leave the reader where a call may begin. -/
theorem scan_blanks {blanks : Text} (h : ∀ c ∈ blanks, Text.isBlank c = true)
    (before : Option Char) (t : Text) :
    scan 0 before false (blanks ++ t) =
      blanks.foldr consPlain (scan 0 (blanks.getLast?.or before) false t) := by
  induction blanks generalizing before with
  | nil => rfl
  | cons c blanks ih =>
    obtain ⟨hc, hblanks⟩ := List.forall_mem_cons.mp h
    have hquote : c ≠ '"' := by
      rintro rfl
      cases hc
    have hstarts : startsName c = false := Bool.eq_false_iff.mpr fun hstarts =>
      Bool.noConfusion ((blocksCall_of_isBlank hc).symm.trans (blocksCall_of_startsName hstarts))
    have hpassed : (false || !startsName c || before.any blocksCall) = true := by
      simp [hstarts]
    have hstay : (false != (c == '"')) = false := by simpa using hquote
    rw [List.cons_append, scan, if_pos hpassed, hstay, ih hblanks, Text.getLast?_cons_or,
      List.foldr_cons]

/-- Plain characters in front of a call are one plain text. -/
theorem foldr_consPlain (t : Text) {parts : List Formula} (h : ∀ u, parts.head? ≠ some (plain u)) :
    t.foldr consPlain parts = if t = [] then parts else plain t :: parts := by
  induction t with
  | nil => rfl
  | cons c t ih =>
    rw [List.foldr_cons, ih, if_neg (List.cons_ne_nil c t)]
    split
    · rename_i hnil
      subst hnil
      rcases parts with _ | ⟨u | _ | _, parts⟩
      · rfl
      · exact absurd rfl (h u)
      · rfl
      · rfl
    · rfl

/-- What is left of blanks without the blank parts. -/
theorem filter_blanks {blanks : Text} (hblanks : ∀ c ∈ blanks, Text.isBlank c = true)
    {parts : List Formula} (h : ∀ u, parts.head? ≠ some (plain u)) :
    (blanks.foldr consPlain parts).filter (!isBlankText ·) = parts.filter (!isBlankText ·) := by
  rw [foldr_consPlain blanks h]
  split
  · rfl
  · have hblank : isBlankText (plain blanks) = true := by
      simpa [isBlankText] using Text.trim_eq_nil_iff.mpr hblanks
    rw [List.filter_cons_of_neg (by simp [hblank])]

/-- Where a call may begin, a name and balanced text in parentheses are read as one. -/
theorem scan_of_call {name inner : Text} (hname : IsName name) (hinner : Balanced true inner)
    {before : Option Char} (hbefore : before.any blocksCall = false) (back : Text) :
    scan 0 before false (name ++ '(' :: (inner ++ ')' :: back)) =
      call name (splitArgs inner) :: scan 0 (some ')') false back := by
  have hcall := callAt?_of_name hname hinner back
  obtain ⟨c, rest, rfl, hc⟩ := hname.exists_cons
  have hskip := scan_call rest inner back (some c) false
  have hlength : rest.length + 1 + inner.length + 1 = (c :: rest).length + inner.length + 1 := by
    rw [List.length_cons]
  rw [hlength] at hskip
  rw [List.cons_append] at hcall ⊢
  rw [scan, if_neg (by simp [hc, hbefore]), hcall]
  exact congrArg _ hskip

/-- A call with nothing but blanks around it is read as the call. -/
theorem parse_of_trim {name inner t : Text} (hname : IsName name) (hinner : Balanced true inner)
    (ht : Text.trim t = name ++ '(' :: (inner ++ [')'])) :
    parse t = call name (splitArgs inner) := by
  obtain ⟨front, back, hfront, hback, htext⟩ := Text.exists_blanks_trim t
  replace htext : t = front ++ (name ++ '(' :: (inner ++ ')' :: back)) := by
    rw [htext, ht]
    simp
  have hbefore : (front.getLast?.or none).any blocksCall = false := by
    cases hlast : front.getLast? with
    | none => rfl
    | some c => exact blocksCall_of_isBlank (hfront c (List.mem_of_getLast? hlast))
  have hbehind : scan 0 (some ')') false back = back.foldr consPlain [] := by
    have hblanks := scan_blanks hback (some ')') []
    rwa [List.append_nil] at hblanks
  have hscan : scan 0 none false t =
      front.foldr consPlain (call name (splitArgs inner) :: back.foldr consPlain []) := by
    rw [htext, scan_blanks hfront, scan_of_call hname hinner hbefore, hbehind]
  have hkept : (scan 0 none false t).filter (!isBlankText ·) = [call name (splitArgs inner)] := by
    rw [hscan, filter_blanks hfront (by simp), List.filter_cons_of_pos rfl,
      filter_blanks hback (by simp), List.filter_nil]
  have hmem : call name (splitArgs inner) ∈ scan 0 none false t :=
    List.mem_of_mem_filter (hkept ▸ List.mem_singleton_self _)
  rw [parse]
  split
  · rename_i hnone
    simp only [Bool.not_eq_true', List.any_eq_false] at hnone
    exact absurd rfl (hnone _ hmem)
  · rw [hkept]

/-- What stands for an argument of a call. -/
inductive Argument
  /-- A text between quotes. -/
  | quoted (t : Text)
  /-- A text without quotes. -/
  | bare (t : Text)
  /-- A call. -/
  | call (name : Text) (args : List Argument)
  deriving Repr, Inhabited

/-- That a text may stand for an argument without quotes. -/
structure IsBare (t : Text) : Prop where
  /-- It is not empty. -/
  ne : t ≠ []
  /-- There are no blanks at its ends. -/
  trimmed : Text.trim t = t
  /-- There are no quotes in it. -/
  unquoted : '"' ∉ t
  /-- Its parentheses have their partners, and its commas are all between parentheses. -/
  balanced : Balanced false t
  /-- No call is written in it. -/
  noCall : ¬HasCall t

/-- What stands between the parentheses of a call with some arguments, each with the blanks around
it: the arguments with commas between them, and without arguments nothing but blanks. -/
def Encloses (inner : Text) : List Text → Prop
  | [] => ∀ c ∈ inner, Text.isBlank c = true
  | args => inner = Text.join [','] args

namespace Argument

/-- The ways to write an argument. The arguments of a call are written with any blanks around
them. -/
inductive Prints : Argument → Text → Prop
  | quoted {t : Text} (h : '"' ∉ t) : Prints (quoted t) ('"' :: t ++ ['"'])
  | bare {t : Text} (h : IsBare t) : Prints (bare t) t
  | call {name inner : Text} {written : List (Argument × Text)} (hname : IsName name)
      (hinner : Encloses inner (written.map Prod.snd))
      (hargs : ∀ w ∈ written, Prints w.1 (Text.trim w.2)) :
      Prints (call name (written.map Prod.fst)) (name ++ '(' :: (inner ++ [')']))

/-- Reads an argument, and the arguments of its call by the same, as deep as it is allowed. -/
def readWithin (depth : Nat) (t : Text) : Argument :=
  if t.head? == some '"' then quoted t.tail.dropLast
  else match depth, parse t with
    | depth + 1, .call name args => call name (args.map (readWithin depth))
    | _, _ => bare t

/-- Reads an argument. There are no more calls inside one another than opening parentheses. -/
def read (t : Text) : Argument :=
  readWithin (t.count '(') t

/-- A quoted argument is read as its text. -/
theorem readWithin_quoted (depth : Nat) (t : Text) :
    readWithin depth ('"' :: t ++ ['"']) = quoted t := by
  unfold readWithin
  simp

/-- An argument without calls is read as it stands. -/
theorem readWithin_of_plain {t : Text} (hquote : t.head? ≠ some '"') (ht : parse t = plain t)
    (depth : Nat) : readWithin depth t = bare t := by
  unfold readWithin
  rw [if_neg (by simpa using hquote), ht]
  cases depth <;> rfl

/-- An argument that is a call is read with its arguments. -/
theorem readWithin_succ_of_call {t name : Text} {args : List Text} (hquote : t.head? ≠ some '"')
    (ht : parse t = Formula.call name args) (depth : Nat) :
    readWithin (depth + 1) t = call name (args.map (readWithin depth)) := by
  unfold readWithin
  rw [if_neg (by simpa using hquote), ht]

end Argument

/-- Balanced arguments make a balanced list. -/
theorem Encloses.balanced {inner : Text} {args : List Text} (h : Encloses inner args)
    (hargs : ∀ arg ∈ args, Balanced false arg) : Balanced true inner := by
  cases args with
  | nil =>
    refine .of_trim ?_
    rw [Text.trim_eq_nil_iff.mpr h]
    exact .nil
  | cons first rest =>
    obtain rfl : inner = Text.join [','] (first :: rest) := h
    exact .join hargs

/-- What is enclosed is cut into the arguments again, and trimmed. -/
theorem Encloses.splitArgs_eq {inner : Text} {args : List Text} (h : Encloses inner args)
    (hargs : ∀ arg ∈ args, Text.trim arg ≠ [] ∧ Balanced false arg) :
    splitArgs inner = args.map Text.trim := by
  cases args with
  | nil => simp [splitArgs, Text.trim_eq_nil_iff.mpr h]
  | cons first rest =>
    obtain rfl : inner = Text.join [','] (first :: rest) := h
    have hfirst : first <+: Text.join [','] (first :: rest) := by
      cases rest <;> simp [Text.join, List.intercalate]
    have hne : Text.trim (Text.join [','] (first :: rest)) ≠ [] := by
      intro hblank
      rw [Text.trim_eq_nil_iff] at hblank
      refine (hargs first List.mem_cons_self).1 (Text.trim_eq_nil_iff.mpr fun c hc => ?_)
      exact hblank c (hfirst.subset hc)
    rw [splitArgs, if_neg (by simpa using hne),
      splitCommas_join (List.cons_ne_nil _ _) fun arg harg => (hargs arg harg).2]

namespace Argument.Prints

variable {a : Argument} {t : Text}

/-- No argument is printed as nothing. -/
theorem ne_nil (h : Prints a t) : t ≠ [] := by
  cases h with
  | quoted _ => exact List.cons_ne_nil _ _
  | bare h => exact h.ne
  | call _ _ _ => simp

/-- What is printed is balanced. -/
theorem balanced (h : Prints a t) : Balanced false t := by
  induction h with
  | quoted h => exact .quoted h .nil
  | bare h => exact h.balanced
  | @call name inner written hname hinner _ ih =>
    have hletters : Balanced false name := .of_forall fun c hc =>
      ⟨isMark_eq_false (hname.all c hc) ⟨rfl, rfl, rfl⟩, ne_quote_of_isNameChar (hname.all c hc)⟩
    have hargs : ∀ arg ∈ written.map Prod.snd, Balanced false arg := by
      refine List.forall_mem_map.mpr fun w hw => .of_trim (ih w hw)
    exact hletters.append (.group (hinner.balanced hargs) .nil)

/-- What is written between the parentheses of a call is cut into the arguments as they are
written. -/
theorem splitArgs_eq {inner : Text} {written : List (Argument × Text)}
    (hinner : Encloses inner (written.map Prod.snd))
    (hargs : ∀ w ∈ written, w.1.Prints (Text.trim w.2)) :
    splitArgs inner = written.map fun w => Text.trim w.2 := by
  have hcut := hinner.splitArgs_eq <| List.forall_mem_map.mpr fun w hw =>
    ⟨(hargs w hw).ne_nil, .of_trim (hargs w hw).balanced⟩
  rw [hcut, List.map_map]
  rfl

/-- There is neither a quote nor a blank at the start of a call, and no blank at its end. -/
theorem ends_of_call {name : Text} (hname : IsName name) (inner : Text) :
    (name ++ '(' :: (inner ++ [')'])).head? ≠ some '"' ∧
      Text.trim (name ++ '(' :: (inner ++ [')'])) = name ++ '(' :: (inner ++ [')']) := by
  obtain ⟨c, rest, rfl, hc⟩ := hname.exists_cons
  have hstart := not_isBlank_of_blocksCall (blocksCall_of_startsName hc)
  have htrim := Text.trim_cons_append hstart (List.cons_ne_nil ')' []) rfl (rest ++ '(' :: inner)
  refine ⟨?_, by simpa using htrim⟩
  simpa using ne_quote_of_isNameChar (isNameChar_of_startsName hc)

/-- A printed call is parsed as the call with its printed arguments. -/
theorem parse_eq {name inner t : Text} {written : List (Argument × Text)} (hname : IsName name)
    (hinner : Encloses inner (written.map Prod.snd))
    (hargs : ∀ w ∈ written, w.1.Prints (Text.trim w.2))
    (ht : Text.trim t = name ++ '(' :: (inner ++ [')'])) :
    parse t = Formula.call name (written.map fun w => Text.trim w.2) := by
  have hbalanced := hinner.balanced <| List.forall_mem_map.mpr fun w hw =>
    .of_trim (hargs w hw).balanced
  rw [parse_of_trim hname hbalanced ht, splitArgs_eq hinner hargs]

/-- With an allowance for its opening parentheses, what is written for an argument is read as it. -/
theorem readWithin_eq (h : Prints a t) {depth : Nat} (hdepth : t.count '(' ≤ depth) :
    readWithin depth t = a := by
  induction h generalizing depth with
  | @quoted t _ => exact readWithin_quoted depth t
  | @bare t h =>
    have hhead : t.head? ≠ some '"' := fun hhead => h.unquoted (List.mem_of_head? hhead)
    exact readWithin_of_plain hhead (parse_eq_plain_iff.mpr h.noCall) depth
  | @call name inner written hname hinner hargs ih =>
    have hcount : inner.count '(' < depth := by
      simp only [List.count_append, List.count_cons_self] at hdepth
      omega
    obtain ⟨depth, rfl⟩ := Nat.exists_eq_add_one_of_ne_zero (Nat.ne_zero_of_lt hcount)
    have hread : ∀ w ∈ written, readWithin depth (Text.trim w.2) = w.1 := by
      intro w hw
      refine ih w hw (Nat.le_trans (count_of_mem_splitArgs ?_) (Nat.le_of_lt_succ hcount))
      rw [splitArgs_eq hinner hargs]
      exact List.mem_map.mpr ⟨w, hw, rfl⟩
    obtain ⟨hhead, htrim⟩ := ends_of_call hname inner
    rw [readWithin_succ_of_call hhead (parse_eq hname hinner hargs htrim), List.map_map]
    exact congrArg _ (List.map_congr_left hread)

/-- A printed argument is read back. -/
theorem read_eq (h : Prints a t) : read t = a :=
  h.readWithin_eq (Nat.le_refl _)

end Argument.Prints

/-- However a call is written, with any blanks around it and around its arguments, it is read as the
call with its arguments trimmed, and each of these is read as the argument it was written for. A
text is left plain just if no call is written in it. -/
theorem parse_printed {name inner t : Text} {written : List (Argument × Text)}
    (hname : IsName name) (hinner : Encloses inner (written.map Prod.snd))
    (hargs : ∀ w ∈ written, w.1.Prints (Text.trim w.2))
    (ht : Text.trim t = name ++ '(' :: (inner ++ [')'])) :
    parse t = call name (written.map fun w => Text.trim w.2) ∧
      (∀ w ∈ written, Argument.read (Text.trim w.2) = w.1) ∧
      ∀ u, parse u = plain u ↔ ¬HasCall u :=
  ⟨Argument.Prints.parse_eq hname hinner hargs ht, fun w hw => (hargs w hw).read_eq,
    fun _ => parse_eq_plain_iff⟩

/-- A call with a call, a comma between quotes, a comma between parentheses and a call without
arguments. -/
theorem parse_printed_replace :
    parse " replace( tolower(\"A,B\") , \",\",(1,2),now( ) ) " =
        call "replace" ["tolower(\"A,B\")", "\",\"", "(1,2)", "now( )"] ∧
      Argument.read "tolower(\"A,B\")" = .call "tolower" [.quoted "A,B"] ∧
      parse "(1,2)" = plain "(1,2)" := by
  have htolower : Argument.Prints (.call "tolower" [.quoted "A,B"]) "tolower(\"A,B\")" :=
    @Argument.Prints.call "tolower" "\"A,B\"" [(.quoted "A,B", "\"A,B\"")] (by decide) rfl
      (List.forall_mem_singleton.mpr (.quoted (by decide)))
  have hcomma : Argument.Prints (.quoted ",") "\",\"" := .quoted (by decide)
  have hinside : Balanced true "1,2" :=
    @Balanced.join false ["1", "2"] (by
      simp only [List.forall_mem_cons]
      exact ⟨.of_forall (Text.forall_mem_of_all (by decide)),
        .of_forall (Text.forall_mem_of_all (by decide)), nofun⟩)
  have hpair : IsBare "(1,2)" :=
    { ne := by decide
      trimmed := rfl
      unquoted := by decide
      balanced := .group hinside .nil
      noCall := parse_eq_plain_iff.mp rfl }
  have hblank : ∀ c ∈ (" " : Text), Text.isBlank c = true := Text.forall_mem_of_all (by decide)
  have hnow : Argument.Prints (.call "now" []) "now( )" :=
    @Argument.Prints.call "now" " " [] (by decide) hblank nofun
  have hall : ∀ w ∈ ([(.call "tolower" [.quoted "A,B"], " tolower(\"A,B\") "),
      (.quoted ",", " \",\""), (.bare "(1,2)", "(1,2)"), (.call "now" [], "now( ) ")] :
        List (Argument × Text)), w.1.Prints (Text.trim w.2) := by
    simp only [List.forall_mem_cons]
    exact ⟨htolower, hcomma, .bare hpair, hnow, nofun⟩
  obtain ⟨hparse, hread, hplain⟩ := @parse_printed "replace"
    " tolower(\"A,B\") , \",\",(1,2),now( ) "
    " replace( tolower(\"A,B\") , \",\",(1,2),now( ) ) " _ (by decide) (by rfl) hall (by decide)
  exact ⟨hparse, hread _ List.mem_cons_self, (hplain _).mpr hpair.noCall⟩

end Formula

end Mudline
