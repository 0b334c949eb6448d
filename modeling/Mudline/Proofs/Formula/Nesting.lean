import Mathlib.Data.List.Count
import Mudline.Formula.Eval
import Mudline.Proofs.Formula.Role

/-!
# Calls inside one another

An argument without quotes may hold calls itself, and is evaluated with an allowance of calls inside
one another. The allowance is never used up: there are fewer opening parentheses in an argument than
in the text of its call. So what an argument stands for is what its formula evaluates to.
-/

namespace Mudline

namespace Formula

/-- The name and the arguments of a call. -/
def call? : Formula → Option (Text × List Text)
  | call name args => some (name, args)
  | _ => none

/-- A part with a call is this call. -/
theorem call?_eq_some {part : Formula} {name : Text} {args : List Text} :
    part.call? = some (name, args) ↔ part = call name args := by
  cases part <;> simp [call?]

/-- The calls of a text in order, each with its name and arguments. -/
def calls (t : Text) : List (Text × List Text) :=
  (scan 0 none false t).filterMap call?

/-- The calls of a text are those that its scan finds. -/
theorem mem_calls {t name : Text} {args : List Text} :
    (name, args) ∈ calls t ↔ call name args ∈ scan 0 none false t := by
  simp [calls, call?_eq_some]

/-- A plain character in front adds no part that is not plain. -/
theorem mem_consPlain {c : Char} {parts : List Formula} {part : Formula}
    (h : part ∈ consPlain c parts) : (∃ t, part = plain t) ∨ part ∈ parts := by
  rcases parts with _ | ⟨t | _ | _, parts⟩ <;> simp only [consPlain, List.mem_cons] at h ⊢ <;>
    grind

/-- The scan finds plain text and calls, and each call is written in the text. -/
theorem mem_scan {skip : Nat} {before : Option Char} {quoted : Bool} {t : Text} {part : Formula}
    (h : part ∈ scan skip before quoted t) : (∃ u, part = plain u) ∨
      ∃ name inner, part = call name (splitArgs inner) ∧
        name ++ '(' :: (inner ++ [')']) <:+: t := by
  induction t generalizing skip before quoted with
  | nil => simp [scan] at h
  | cons c t ih =>
    have hlater {skip before quoted} (h : part ∈ scan skip before quoted t) :
        (∃ u, part = plain u) ∨
          ∃ name inner, part = call name (splitArgs inner) ∧
            name ++ '(' :: (inner ++ [')']) <:+: c :: t := by
      obtain hplain | ⟨name, inner, heq, hwritten⟩ := ih h
      · exact .inl hplain
      · exact .inr ⟨name, inner, heq, List.infix_cons hwritten⟩
    cases skip with
    | succ skip => exact hlater h
    | zero =>
      rw [scan] at h
      split at h
      · exact (mem_consPlain h).elim .inl hlater
      · split at h
        · rename_i name inner hcall
          obtain ⟨-, back, htext, -⟩ := callAt?_eq_some hcall
          rcases List.mem_cons.mp h with rfl | h
          · refine .inr ⟨name, inner, rfl, [], back, ?_⟩
            rw [htext]
            simp
          · exact hlater h
        · exact (mem_consPlain h).elim .inl hlater

/-- A call stands in its text with its arguments in parentheses. -/
theorem exists_of_mem_calls {t name : Text} {args : List Text} (h : (name, args) ∈ calls t) :
    ∃ inner, args = splitArgs inner ∧ name ++ '(' :: (inner ++ [')']) <:+: t := by
  obtain ⟨u, heq⟩ | ⟨_, inner, heq, hwritten⟩ := mem_scan (mem_calls.mp h)
  · cases heq
  · obtain ⟨rfl, rfl⟩ := call.inj heq
    exact ⟨inner, rfl, hwritten⟩

/-- Trimming leaves a part of the text. -/
theorem trim_sublist (t : Text) : (Text.trim t).Sublist t :=
  (Text.trimEnd_prefix _).sublist.trans (List.dropWhile_sublist _)

/-- The arguments stand one after the other between the parentheses. -/
theorem flatten_splitArgs_sublist (inner : Text) : (splitArgs inner).flatten.Sublist inner := by
  have htrim (pieces : List Text) : (pieces.map Text.trim).flatten.Sublist pieces.flatten := by
    induction pieces with
    | nil => exact .slnil
    | cons first rest ih => exact (trim_sublist first).append ih
  have hpieces : (splitCommas 0 false inner).flatten.Sublist inner := by
    have hjoin := Text.flatten_sublist_join [','] (splitCommas 0 false inner)
    rwa [join_splitCommas] at hjoin
  rw [splitArgs]
  split
  · exact List.nil_sublist inner
  · exact (htrim _).trans hpieces

/-- An argument has no more parentheses than the list that it is in. -/
theorem count_of_mem_splitArgs {inner arg : Text} (h : arg ∈ splitArgs inner) :
    arg.count '(' ≤ inner.count '(' :=
  ((List.sublist_flatten_of_mem h).trans (flatten_splitArgs_sublist inner)).count_le '('

/-- There are fewer opening parentheses in an argument than in the text of its call. -/
theorem count_of_mem_calls {t name arg : Text} {args : List Text} (h : (name, args) ∈ calls t)
    (harg : arg ∈ args) : arg.count '(' < t.count '(' := by
  obtain ⟨inner, rfl, hwritten⟩ := exists_of_mem_calls h
  have hinner := count_of_mem_splitArgs harg
  have hcall := hwritten.sublist.count_le '('
  simp only [List.count_append, List.count_cons_self] at hcall
  omega

/-- Without an opening parenthesis there is no call. -/
theorem calls_eq_nil {t : Text} (h : t.count '(' = 0) : calls t = [] := by
  refine List.eq_nil_iff_forall_not_mem.mpr fun ⟨name, args⟩ hcall => ?_
  obtain ⟨inner, -, hwritten⟩ := exists_of_mem_calls hcall
  have hopening : '(' ∈ t := hwritten.subset (by simp)
  exact List.count_eq_zero.mp h hopening

/-- The three forms of the formula of a text. -/
inductive Form (t : Text) : Formula → Prop
  /-- There are no calls. -/
  | plain (h : calls t = []) : Form t (.plain t)
  /-- There is one call, with blanks around it. -/
  | call {name : Text} {args : List Text} (h : calls t = [(name, args)]) : Form t (.call name args)
  /-- There are calls, and other text or more than one call. -/
  | sequence (h : calls t ≠ []) : Form t (.sequence (scan 0 none false t))

/-- A blank text is no call. -/
theorem call?_of_isBlankText {part : Formula} (h : part.isBlankText = true) :
    part.call? = none := by
  cases part <;> first | rfl | cases h

/-- A text is parsed into a plain text, one call, or a sequence with calls. -/
theorem form_parse (t : Text) : Form t (parse t) := by
  have hkept : calls t = ((scan 0 none false t).filter (!isBlankText ·)).filterMap call? := by
    rw [calls, List.filterMap_filter]
    refine List.filterMap_congr fun part _ => ?_
    cases hblank : part.isBlankText with
    | true => simp [call?_of_isBlankText hblank]
    | false => rfl
  rw [parse]
  split
  · rename_i hnone
    simp only [Bool.not_eq_true', List.any_eq_false] at hnone
    refine .plain (List.filterMap_eq_nil_iff.mpr fun part hpart => ?_)
    cases part with
    | call name args => exact absurd rfl (hnone _ hpart)
    | plain | sequence => rfl
  · rename_i hsome
    simp only [Bool.not_eq_true', Bool.not_eq_false, List.any_eq_true] at hsome
    split
    · rename_i name args hfilter
      refine .call ?_
      rw [hkept, hfilter]
      rfl
    · obtain ⟨part, hpart, hcall⟩ := hsome
      cases part with
      | call name args => exact .sequence (List.ne_nil_of_mem (mem_calls.mpr hpart))
      | plain | sequence => cases hcall

/-- What the outcome of a call depends on: what its arguments without quotes stand for. -/
theorem evalCall_congr {ctx ctx' : Context} {args : List Text} (hknown : ctx.known = ctx'.known)
    (hresolve : ∀ arg ∈ args, arg.head? ≠ some '"' → ctx.resolve arg = ctx'.resolve arg)
    (name : Text) : evalCall ctx name args = evalCall ctx' name args := by
  have hargs : (args.map fun a => if a.head? == some '"' then (a, []) else ctx.resolve a) =
      args.map fun a => if a.head? == some '"' then (a, []) else ctx'.resolve a := by
    refine List.map_congr_left fun arg harg => ?_
    split
    · rfl
    · rename_i hquote
      exact hresolve arg harg (by simpa using hquote)
  simp only [evalCall, hargs, hknown]

/-- A sequence is spliced in the same way where its calls are evaluated in the same way. -/
theorem splice_congr {ctx ctx' : Context} {parts : List Formula}
    (h : ∀ part ∈ parts, (∃ u, part = plain u) ∨ evalText ctx part = evalText ctx' part) :
    splice ctx parts = splice ctx' parts := by
  induction parts with
  | nil => rfl
  | cons part parts ih =>
    have hrest := ih fun part hpart => h part (List.mem_cons_of_mem _ hpart)
    cases part with
    | plain t => simp only [splice, hrest]
    | call | sequence =>
      obtain ⟨u, heq⟩ | heq := h _ List.mem_cons_self
      · cases heq
      · simp only [splice, hrest, heq]

/-- A text evaluates alike where the arguments of its calls stand for the same. -/
theorem evalText_parse_congr {ctx ctx' : Context} {t : Text} (hknown : ctx.known = ctx'.known)
    (hresolve : ∀ name args, (name, args) ∈ calls t → ∀ arg ∈ args,
      ctx.resolve arg = ctx'.resolve arg) :
    evalText ctx (parse t) = evalText ctx' (parse t) := by
  have hcall {name args} (h : (name, args) ∈ calls t) :
      evalText ctx (call name args) = evalText ctx' (call name args) := by
    simp only [evalText, callOutcome,
      evalCall_congr hknown fun arg harg _ => hresolve name args h arg harg]
  have hform := form_parse t
  generalize parse t = formula at hform ⊢
  cases hform with
  | plain h => rfl
  | call h => exact hcall (by simp [h])
  | sequence h =>
    have hparts : splice ctx (scan 0 none false t) = splice ctx' (scan 0 none false t) := by
      refine splice_congr fun part hpart => ?_
      obtain hplain | ⟨name, inner, rfl, -⟩ := mem_scan hpart
      · exact .inl hplain
      · exact .inr (hcall (mem_calls.mpr hpart))
    simp only [evalText, hparts]

/-- A text without calls is plain. -/
theorem parse_eq_plain {t : Text} (h : calls t = []) : parse t = plain t := by
  have hform := form_parse t
  generalize parse t = formula at hform ⊢
  cases hform with
  | plain _ => rfl
  | call hcall => exact absurd (hcall.symm.trans h) (List.cons_ne_nil _ _)
  | sequence hcalls => exact absurd h hcalls

/-- An argument without calls stands for itself. -/
theorem resolveWithin_of_calls_eq_nil (known : Text → Bool) (depth : Nat) {arg : Text}
    (h : calls arg = []) : resolveWithin known depth arg = (arg, []) := by
  cases depth with
  | zero => rfl
  | succ depth => simp only [resolveWithin, parse_eq_plain h]

/-- An argument stands for what its formula evaluates to. -/
theorem resolveWithin_succ (known : Text → Bool) (depth : Nat) {arg : Text} (h : calls arg ≠ []) :
    resolveWithin known (depth + 1) arg =
      ((evalText ⟨known, resolveWithin known depth⟩ (parse arg)).result,
        (evalText ⟨known, resolveWithin known depth⟩ (parse arg)).groups) := by
  have hform := form_parse arg
  rw [resolveWithin]
  generalize parse arg = formula at hform ⊢
  cases hform with
  | plain hcalls => exact absurd hcalls h
  | call _ => rfl
  | sequence _ => rfl

/-- An allowance for as many calls as there are opening parentheses is enough. -/
theorem resolveWithin_eq (known : Text → Bool) {depth depth' : Nat} {arg : Text}
    (h : arg.count '(' ≤ depth) (h' : arg.count '(' ≤ depth') :
    resolveWithin known depth arg = resolveWithin known depth' arg := by
  induction depth generalizing depth' arg with
  | zero =>
    have hcalls := calls_eq_nil (Nat.le_zero.mp h)
    rw [resolveWithin_of_calls_eq_nil known 0 hcalls,
      resolveWithin_of_calls_eq_nil known depth' hcalls]
  | succ depth ih =>
    by_cases hcalls : calls arg = []
    · rw [resolveWithin_of_calls_eq_nil known _ hcalls,
        resolveWithin_of_calls_eq_nil known depth' hcalls]
    · have hpos : arg.count '(' ≠ 0 := fun hzero => hcalls (calls_eq_nil hzero)
      obtain ⟨depth', rfl⟩ := Nat.exists_eq_add_one_of_ne_zero (n := depth') (by omega)
      have hsame : evalText ⟨known, resolveWithin known depth⟩ (parse arg) =
          evalText ⟨known, resolveWithin known depth'⟩ (parse arg) := by
        refine evalText_parse_congr rfl fun name args hcall inner hinner => ?_
        have hcount := count_of_mem_calls hcall hinner
        exact ih (by omega) (by omega)
      rw [resolveWithin_succ known depth hcalls, resolveWithin_succ known depth' hcalls, hsame]

/-- What an argument without quotes stands for: itself without calls, and what its formula evaluates
to, in the same context, with calls. -/
theorem resolve_eq (known : Text → Bool) (arg : Text) :
    (context known).resolve arg =
      if calls arg = [] then (arg, [])
      else ((evalText (context known) (parse arg)).result,
        (evalText (context known) (parse arg)).groups) := by
  split
  · rename_i hcalls
    exact resolveWithin_of_calls_eq_nil known _ hcalls
  · rename_i hcalls
    have hsame : evalText ⟨known, resolveWithin known (arg.count '(')⟩ (parse arg) =
        evalText (context known) (parse arg) := by
      refine evalText_parse_congr rfl fun name args hcall inner hinner => ?_
      exact resolveWithin_eq known (count_of_mem_calls hcall hinner).le le_rfl
    have hmore : resolveWithin known (arg.count '(') arg =
        resolveWithin known (arg.count '(' + 1) arg :=
      resolveWithin_eq known le_rfl (Nat.le_succ _)
    rw [resolveWithin_succ known _ hcalls, hsame] at hmore
    exact hmore

end Formula

end Mudline
