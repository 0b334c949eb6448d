import Mudline.Formula.Syntax
import Mudline.Proofs.Text.Pieces

/-!
# What the reader of formulas takes each character for

A formula is read by three scans, one for the names of calls, one for the parenthesis that closes a
call, and one for the commas between its arguments. Together they give every character a role, and
the roles say all that the reader finds: put together by their roles, the characters of a text make
up its formula.
-/

namespace Mudline

namespace Formula

/-- What a character is taken for. -/
inductive Role
  /-- Text between calls. -/
  | text
  /-- The start of a name whose parenthesis is not closed, which makes it text. -/
  | unclosed
  /-- Part of the name of a call. -/
  | name
  /-- The parenthesis after the name of a call. -/
  | opening
  /-- Part of an argument. -/
  | argument
  /-- A parenthesis that is part of an argument. -/
  | inner
  /-- The comma after an argument. -/
  | comma
  /-- The parenthesis that closes a call. -/
  | closing
  deriving DecidableEq, Repr

/-- Whether a character is part of what makes a call. -/
def Role.isSyntax : Role → Bool
  | .name | .opening | .inner | .comma | .closing => true
  | _ => false

/-- Where the reader is. -/
inductive Mode
  /-- Between calls, perhaps between quotes. -/
  | between (quoted : Bool)
  /-- In the name of a call. -/
  | name
  /-- In the arguments of a call, at a depth of parentheses, perhaps between quotes. -/
  | args (depth : Nat) (quoted : Bool)
  deriving DecidableEq, Repr

/-- Whether the reader is between quotes. -/
def Mode.quoted : Mode → Bool
  | between quoted | args _ quoted => quoted
  | name => false

/-- Whether a text begins with a name, perhaps an empty one, and a parenthesis. -/
def opensCall (t : Text) : Bool :=
  (t.dropWhile isNameChar).head? == some '('

/-- The role of a character, and where the reader is after it. -/
def Mode.step (before : Option Char) (c : Char) (rest : Text) : Mode → Role × Mode
  | between quoted =>
    if quoted || !startsName c || before.any blocksCall then
      (.text, between (quoted != (c == '"')))
    else if (callAt? (c :: rest)).isSome then (.name, name)
    else (if opensCall rest then .unclosed else .text, between false)
  | name => if isNameChar c then (.name, name) else (.opening, args 0 false)
  | args depth quoted =>
    if quoted then (.argument, args depth (c != '"'))
    else if c == '(' then (.inner, args (depth + 1) false)
    else if c == ')' then
      if depth == 0 then (.closing, between false) else (.inner, args (depth - 1) false)
    else if c == ',' && depth == 0 then (.comma, args 0 false)
    else (.argument, args depth (c == '"'))

/-- The roles of the characters of a text. -/
def rolesFrom (mode : Mode) (before : Option Char) : Text → List Role
  | [] => []
  | c :: rest =>
    let (role, mode) := mode.step before c rest
    role :: rolesFrom mode (some c) rest

/-- The first character has its role, and the others have those of the mode behind it. -/
theorem rolesFrom_cons (mode : Mode) (before : Option Char) (c : Char) (rest : Text) :
    rolesFrom mode before (c :: rest) =
      (mode.step before c rest).1 :: rolesFrom (mode.step before c rest).2 (some c) rest :=
  rfl

/-- The roles of the characters of a formula. -/
def roles (t : Text) : List Role :=
  rolesFrom (.between false) none t

/-- The arguments of a call, once they are cut apart. -/
def closeArgs (args : List Text) : List Text :=
  if (Text.trim (Text.join [','] args)).isEmpty then [] else args.map Text.trim

/-- Puts a character in front of parts, by its role. -/
def place (c : Char) : Role → List Formula → List Formula
  | .text, parts | .unclosed, parts => consPlain c parts
  | .closing, parts => call [] [[]] :: parts
  | .argument, call name args :: parts | .inner, call name args :: parts =>
    call name (Text.consFirst c args) :: parts
  | .comma, call name args :: parts => call name ([] :: args) :: parts
  | .opening, call name args :: parts => call name (closeArgs args) :: parts
  | .name, call name args :: parts => call (c :: name) args :: parts
  | _, parts => parts

/-- The formula that a text makes up by the roles of its characters. -/
def assemble : Text → List Role → List Formula
  | c :: t, role :: roles => place c role (assemble t roles)
  | _, _ => []

/-- What is found closed is followed by the parenthesis that closes it. -/
theorem takeClosed?_eq_some {depth : Nat} {quoted : Bool} {t inner : Text}
    (h : takeClosed? depth quoted t = some inner) : ∃ back, t = inner ++ ')' :: back := by
  induction t generalizing depth quoted inner with
  | nil => cases h
  | cons c t ih =>
    simp only [takeClosed?] at h
    split at h
    · rename_i hclose
      obtain rfl : inner = [] := by simpa [eq_comm] using h
      obtain rfl : c = ')' := by
        simp only [Bool.and_eq_true, beq_iff_eq] at hclose
        exact hclose.1.1
      exact ⟨t, rfl⟩
    · obtain ⟨inner, hinner, rfl⟩ := Option.map_eq_some_iff.mp h
      obtain ⟨back, rfl⟩ := ih hinner
      exact ⟨back, rfl⟩

/-- The depth of parentheses after a character, for both scans over arguments. -/
def deepen (depth : Nat) (quoted : Bool) (c : Char) : Nat :=
  if quoted then depth
  else if c == '(' then depth + 1
  else if c == ')' then depth - 1
  else depth

/-- A closing parenthesis that is not quoted ends what is closed on the outermost level; any other
character is passed. -/
theorem takeClosed?_cons (depth : Nat) (quoted : Bool) (c : Char) (rest : Text) :
    takeClosed? depth quoted (c :: rest) =
      if c == ')' && !quoted && depth ≤ 1 then some []
      else (takeClosed? (deepen depth quoted c) (quoted != (c == '"')) rest).map (c :: ·) :=
  rfl

/-- A comma that is neither quoted nor in parentheses ends a piece; any other character belongs to
the first. -/
theorem splitCommas_cons (depth : Nat) (quoted : Bool) (c : Char) (rest : Text) :
    splitCommas depth quoted (c :: rest) =
      if c == ',' && !quoted && depth == 0 then [] :: splitCommas 0 false rest
      else Text.consFirst c (splitCommas (deepen depth quoted c) (quoted != (c == '"')) rest) :=
  rfl

/-- The depth counts from one for the closing parenthesis and from zero for the commas. -/
theorem deepen_add_one {depth : Nat} {quoted : Bool} {c : Char}
    (h : ¬(c = ')' ∧ quoted = false ∧ depth = 0)) :
    deepen (depth + 1) quoted c = deepen depth quoted c + 1 := by
  unfold deepen
  split
  · rfl
  · rename_i hquoted
    split
    · rfl
    · split
      · rename_i hright
        have hdepth : depth ≠ 0 := fun hzero =>
          h ⟨by simpa using hright, by simpa using hquoted, hzero⟩
        omega
      · rfl

/-- A character of an argument leaves the reader in the argument, and counts its parenthesis. -/
theorem Mode.step_argument {depth : Nat} {quoted : Bool} {c : Char}
    (hclose : ¬(c = ')' ∧ quoted = false ∧ depth = 0))
    (hcomma : ¬(c = ',' ∧ quoted = false ∧ depth = 0)) (before : Option Char) (rest : Text) :
    ∃ role, (role = .argument ∨ role = .inner) ∧ (args depth quoted).step before c rest =
      (role, args (deepen depth quoted c) (quoted != (c == '"'))) := by
  cases quoted with
  | true => exact ⟨.argument, .inl rfl, by simp [step, deepen, bne]⟩
  | false =>
    by_cases hleft : c = '('
    · subst hleft
      exact ⟨.inner, .inr rfl, by simp [step, deepen]⟩
    · by_cases hright : c = ')'
      · subst hright
        have hdepth : depth ≠ 0 := by simpa using hclose
        exact ⟨.inner, .inr rfl, by simp [step, deepen, hdepth]⟩
      · have hcomma : ¬(c = ',' ∧ depth = 0) := by simpa using hcomma
        exact ⟨.argument, .inl rfl, by simp [step, deepen, hleft, hright, hcomma]⟩

/-- In the arguments of a call the two scans that look ahead and the walk over the roles agree. -/
theorem assemble_args {depth : Nat} {quoted : Bool} {inner back : Text} (before : Option Char)
    (h : takeClosed? (depth + 1) quoted (inner ++ ')' :: back) = some inner) :
    assemble (inner ++ ')' :: back)
        (rolesFrom (.args depth quoted) before (inner ++ ')' :: back)) =
      call [] (splitCommas depth quoted inner) ::
        assemble back (rolesFrom (.between false) (some ')') back) := by
  induction inner generalizing depth quoted before with
  | nil =>
    obtain ⟨rfl, rfl⟩ : quoted = false ∧ depth = 0 := by
      rw [List.nil_append, takeClosed?_cons] at h
      split at h
      · rename_i hclose
        simpa using hclose
      · simp at h
    rfl
  | cons c inner ih =>
    rw [List.cons_append, takeClosed?_cons] at h
    split at h
    · cases h
    · rename_i hopen
      have hclose : ¬(c = ')' ∧ quoted = false ∧ depth = 0) := by simpa using hopen
      rw [deepen_add_one hclose] at h
      simp only [Option.map_eq_some_iff, List.cons.injEq, true_and, exists_eq_right] at h
      have hnext := ih (some c) h
      rw [List.cons_append, rolesFrom, splitCommas_cons]
      by_cases hcomma : c = ',' ∧ quoted = false ∧ depth = 0
      · obtain ⟨rfl, rfl, rfl⟩ := hcomma
        exact congrArg (place ',' .comma) hnext
      · obtain ⟨role, hrole, hstep⟩ :=
          Mode.step_argument hclose hcomma before (inner ++ ')' :: back)
        have hcut : (c == ',' && !quoted && depth == 0) = false := by simpa using hcomma
        rw [hstep, hcut, assemble, hnext]
        rcases hrole with rfl | rfl <;> rfl

/-- A call that is found begins with its name, and goes on to the parenthesis that closes it. -/
theorem callAt?_eq_some {t name inner : Text} (h : callAt? t = some (name, inner)) :
    (∀ c ∈ name, isNameChar c = true) ∧ ∃ back, t = name ++ '(' :: (inner ++ ')' :: back) ∧
      takeClosed? 1 false (inner ++ ')' :: back) = some inner := by
  unfold callAt? at h
  split at h
  · rename_i rest hrest
    obtain ⟨_, hclosed, hpair⟩ := Option.map_eq_some_iff.mp h
    obtain ⟨rfl, rfl⟩ := Prod.mk.inj hpair
    obtain ⟨back, rfl⟩ := takeClosed?_eq_some hclosed
    refine ⟨fun c hc => List.mem_takeWhile_imp hc, back, ?_, hclosed⟩
    rw [← hrest, List.takeWhile_append_dropWhile]
  · cases h

/-- There is always a piece. -/
theorem splitCommas_ne_nil (depth : Nat) (quoted : Bool) (t : Text) :
    splitCommas depth quoted t ≠ [] := by
  cases t with
  | nil => exact List.cons_ne_nil _ _
  | cons c t =>
    rw [splitCommas_cons]
    split
    · exact List.cons_ne_nil _ _
    · cases splitCommas (deepen depth quoted c) (quoted != (c == '"')) t <;>
        exact List.cons_ne_nil _ _

/-- The pieces of a text are the text when they are joined. -/
theorem join_splitCommas (depth : Nat) (quoted : Bool) (t : Text) :
    Text.join [','] (splitCommas depth quoted t) = t := by
  induction t generalizing depth quoted with
  | nil => rfl
  | cons c t ih =>
    rw [splitCommas_cons]
    split
    · rename_i hcut
      obtain rfl : c = ',' := by
        simp only [Bool.and_eq_true, beq_iff_eq] at hcut
        exact hcut.1.1
      rw [Text.join_nil_cons (splitCommas_ne_nil _ _ _), ih]
      rfl
    · rw [Text.join_consFirst, ih]

/-- The arguments of a list are its pieces, trimmed. -/
theorem closeArgs_splitCommas (inner : Text) :
    closeArgs (splitCommas 0 false inner) = splitArgs inner := by
  rw [closeArgs, join_splitCommas, splitArgs]

/-- A call is put together from its name and its arguments. -/
theorem assemble_call {name inner back : Text} (before : Option Char)
    (hname : ∀ c ∈ name, isNameChar c = true)
    (hclosed : takeClosed? 1 false (inner ++ ')' :: back) = some inner) :
    assemble (name ++ '(' :: (inner ++ ')' :: back))
        (rolesFrom .name before (name ++ '(' :: (inner ++ ')' :: back))) =
      call name (splitArgs inner) ::
        assemble back (rolesFrom (.between false) (some ')') back) := by
  induction name generalizing before with
  | nil =>
    have hargs := assemble_args (some '(') hclosed
    rw [← closeArgs_splitCommas]
    exact congrArg (place '(' .opening) hargs
  | cons c name ih =>
    have hc : isNameChar c = true := hname c List.mem_cons_self
    have hnext := ih (some c) fun d hd => hname d (List.mem_cons_of_mem c hd)
    rw [List.cons_append, rolesFrom, Mode.step, if_pos hc]
    exact congrArg (place c .name) hnext

/-- Behind a call the scan goes on as at the start of a text. -/
theorem scan_skip (front : Text) (c : Char) (back : Text) (before : Option Char) (quoted : Bool) :
    scan (front.length + 1) before quoted (front ++ c :: back) = scan 0 (some c) false back := by
  induction front generalizing before quoted with
  | nil => rfl
  | cons d front ih => exact ih (some d) false

/-- A call is passed as a whole. -/
theorem scan_call (name inner back : Text) (before : Option Char) (quoted : Bool) :
    scan (name.length + 1 + inner.length + 1) before quoted
        (name ++ '(' :: (inner ++ ')' :: back)) = scan 0 (some ')') false back := by
  have hskip := scan_skip (name ++ '(' :: inner) ')' back before quoted
  have hlength : (name ++ '(' :: inner).length = name.length + 1 + inner.length := by
    simp only [List.length_append, List.length_cons]
    omega
  rwa [hlength, List.append_assoc, List.cons_append] at hskip

/-- The roles of the characters tell all that the scan finds. -/
theorem assemble_roles (t : Text) : assemble t (roles t) = scan 0 none false t := by
  -- Behind a call both go on at its end, so the induction is on the length of the text.
  suffices hfrom : ∀ n t before quoted, t.length ≤ n →
      assemble t (rolesFrom (.between quoted) before t) = scan 0 before quoted t from
    hfrom t.length t none false (Nat.le_refl _)
  intro n
  induction n with
  | zero =>
    intro t before quoted hlength
    rw [List.length_eq_zero_iff.mp (Nat.le_zero.mp hlength)]
    rfl
  | succ n ih =>
    intro t before quoted hlength
    cases t with
    | nil => rfl
    | cons c rest =>
      have hrest : rest.length ≤ n := Nat.le_of_succ_le_succ hlength
      rw [rolesFrom_cons, scan]
      by_cases hplain : (quoted || !startsName c || before.any blocksCall) = true
      · rw [if_pos hplain, Mode.step, if_pos hplain, ← ih rest (some c) _ hrest]
        rfl
      · rw [if_neg hplain, Mode.step, if_neg hplain]
        cases hcall : callAt? (c :: rest) with
        | none =>
          have hnext := congrArg (consPlain c) (ih rest (some c) false hrest)
          cases hopens : opensCall rest <;> exact hnext
        | some found =>
          obtain ⟨name, inner⟩ := found
          obtain ⟨hname, back, htext, hclosed⟩ := callAt?_eq_some hcall
          have hc : isNameChar c = true := by simp_all [isNameChar]
          cases name with
          | nil =>
            obtain ⟨rfl, -⟩ := List.cons.inj htext
            exact absurd hc (by decide)
          | cons d name =>
            obtain ⟨rfl, hcut⟩ := List.cons.inj htext
            replace hcut : rest = name ++ '(' :: (inner ++ ')' :: back) := hcut
            subst hcut
            have hback : back.length ≤ n := by
              simp only [List.length_append, List.length_cons] at hrest
              omega
            have hnames := fun d hd => hname d (List.mem_cons_of_mem c hd)
            have hfound := assemble_call (some c) hnames hclosed
            rw [ih back (some ')') false hback, ← scan_call name inner back (some c) false]
              at hfound
            exact congrArg (place c .name) hfound

end Formula

end Mudline
