import Mudline.Proofs.Formula.Nesting
import Mathlib.Algebra.Order.BigOperators.Group.List
import Mathlib.Algebra.Order.Ring.Nat
import Mathlib.Data.List.MinMax
import Mathlib.Order.Nat

/-!
# How deep calls are evaluated

Arguments are texts, and an argument without quotes is cut into its own calls, whose arguments are
texts again. Here evaluation is described by its rules alone, with no allowance for calls inside one
another, together with the number of calls that go on at once. The rules lead from each call to one
outcome, the one that is computed, because the arguments of a call are shorter than the text it is
written in and hold fewer opening parentheses.
-/

namespace Mudline

/-- How many bytes a text takes in UTF-8. -/
def Text.byteLength (t : Text) : Nat :=
  (t.map Char.utf8Size).sum

namespace Formula

/-- That a formula holds a call. -/
inductive Holds (name : Text) (args : List Text) : Formula → Prop
  /-- It is the call. -/
  | call : Holds name args (.call name args)
  /-- One of its parts holds the call. -/
  | part {part : Formula} {parts : List Formula} (hpart : part ∈ parts)
      (h : Holds name args part) : Holds name args (.sequence parts)

/-- What a text is parsed into holds the calls of the text. -/
theorem holds_parse_iff {t name : Text} {args : List Text} :
    Holds name args (parse t) ↔ (name, args) ∈ calls t := by
  have hform := form_parse t
  generalize parse t = formula at hform ⊢
  cases hform with
  | plain hcalls =>
    rw [hcalls]
    exact ⟨nofun, nofun⟩
  | call hcalls =>
    rw [hcalls, List.mem_singleton]
    constructor
    · rintro ⟨⟩
      rfl
    · rintro ⟨⟩
      exact .call
  | sequence hcalls =>
    constructor
    · rintro (_ | ⟨hpart, hholds⟩)
      obtain ⟨u, rfl⟩ | ⟨callee, inner, rfl, -⟩ := mem_scan hpart
      · cases hholds
      · cases hholds
        exact mem_calls.mpr hpart
    · intro hcall
      exact .part (mem_calls.mp hcall) .call

/-- A text with calls is not plain. -/
theorem parse_ne_plain {t : Text} (h : calls t ≠ []) (u : Text) : parse t ≠ .plain u := by
  intro hparse
  have hform := form_parse t
  rw [hparse] at hform
  cases hform with
  | plain hcalls => exact h hcalls

/-- However characters are measured, the arguments of a call measure less than its text, for that
holds the parenthesis too. -/
theorem sum_args_lt {t name : Text} {args : List Text} (h : (name, args) ∈ calls t)
    (size : Char → Nat) (hsize : 0 < size '(') :
    (args.map fun arg => (arg.map size).sum).sum < (t.map size).sum := by
  obtain ⟨inner, rfl, hwritten⟩ := exists_of_mem_calls h
  have hargs := ((flatten_splitArgs_sublist inner).map size).sum_le_sum fun _ _ => Nat.zero_le _
  have hcall := (hwritten.sublist.map size).sum_le_sum fun _ _ => Nat.zero_le _
  rw [List.map_flatten, List.sum_flatten, List.map_map] at hargs
  simp only [List.map_append, List.map_cons, List.sum_append, List.sum_cons] at hcall
  have hsum : (splitArgs inner).map (fun arg => (arg.map size).sum) =
      (splitArgs inner).map (List.sum ∘ List.map size) := rfl
  rw [hsum]
  omega

/-- That the arguments of a call are less than a text. -/
structure Smaller (args : List Text) (t : Text) : Prop where
  /-- Together they have fewer characters. -/
  length : (args.map List.length).sum < t.length
  /-- Together they take fewer bytes. -/
  byteLength : (args.map Text.byteLength).sum < Text.byteLength t
  /-- Each holds fewer opening parentheses. -/
  parens : ∀ arg ∈ args, arg.count '(' < t.count '('

/-- The arguments of a call are smaller than the text that it is in. -/
theorem smaller_of_mem_calls {t name : Text} {args : List Text} (h : (name, args) ∈ calls t) :
    Smaller args t where
  length := by
    have hone : (fun arg : Text => (arg.map fun _ => 1).sum) = List.length := by
      funext arg
      simp
    have hlength := sum_args_lt h (fun _ => 1) Nat.one_pos
    rw [hone] at hlength
    simpa using hlength
  byteLength := sum_args_lt h Char.utf8Size (by decide)
  parens _ harg := count_of_mem_calls h harg

/-- That a text is an argument of a call in another. -/
def IsArgument (arg t : Text) : Prop :=
  ∃ name args, Holds name args (parse t) ∧ arg ∈ args

/-- There is no endless chain of arguments. -/
theorem wellFounded_isArgument : WellFounded IsArgument := by
  refine Subrelation.wf ?_ (measure (List.count '(' : Text → Nat)).wf
  rintro arg t ⟨name, args, hcall, harg⟩
  exact count_of_mem_calls (holds_parse_iff.mp hcall) harg

/-- The greatest of the numbers that belong to the entries of a list, or zero. -/
def greatest {α : Type} (f : α → Nat) (l : List α) : Nat :=
  (l.map f).foldr max 0

/-- The greatest of several numbers is the first or the greatest of the others. -/
theorem greatest_cons {α : Type} (f : α → Nat) (x : α) (l : List α) :
    greatest f (x :: l) = max (f x) (greatest f l) := rfl

/-- The greatest of the same numbers is the same. -/
theorem greatest_congr {α : Type} {f g : α → Nat} {l : List α} (h : ∀ x ∈ l, f x = g x) :
    greatest f l = greatest g l := by
  rw [greatest, List.map_congr_left h, greatest]

/-- A bound of all numbers is a bound of the greatest. -/
theorem greatest_le {α : Type} {f : α → Nat} {l : List α} {n : Nat} (h : ∀ x ∈ l, f x ≤ n) :
    greatest f l ≤ n :=
  List.max_le_of_forall_le _ _ (List.forall_mem_map.mpr h)

/-- The greatest is a bound of all numbers. -/
theorem le_greatest {α : Type} {f : α → Nat} {l : List α} {x : α} (h : x ∈ l) :
    f x ≤ greatest f l :=
  List.le_max_of_le (List.mem_map_of_mem h) le_rfl

mutual

/-- That a formula evaluates to an outcome, with so many calls going on at once. -/
inductive Evaluates (known : Text → Bool) : Formula → Outcome → Nat → Prop
  /-- Plain text is evaluated without a call. -/
  | plain (t : Text) : Evaluates known (.plain t) (evalPlain textValue t) 0
  /-- A call goes on while its arguments are evaluated one after the other. -/
  | call {name : Text} {args : List Text} {resolve : Text → Text × List Text} {depth : Text → Nat}
      (hargs : ∀ arg ∈ args, Resolves known arg (resolve arg) (depth arg)) :
      Evaluates known (.call name args) (callOutcome ⟨known, resolve⟩ name args)
        (1 + greatest depth args)
  /-- The parts are put together and evaluated as one expression. -/
  | sequence {parts : List Formula} {joined : Text} {groups : List Text} {depth : Nat}
      (hparts : Splices known parts joined groups depth) :
      Evaluates known (.sequence parts) { evalPlain textValue joined with groups } depth

/-- What an argument stands for, with the groups of the matches made for it. -/
inductive Resolves (known : Text → Bool) : Text → Text × List Text → Nat → Prop
  /-- Between quotes it stands for itself. -/
  | quoted {arg : Text} (hquote : arg.head? = some '"') : Resolves known arg (arg, []) 0
  /-- Without calls it stands for itself. -/
  | plain {arg u : Text} (hquote : arg.head? ≠ some '"') (hparse : parse arg = .plain u) :
      Resolves known arg (arg, []) 0
  /-- With calls it stands for what its formula evaluates to. -/
  | nested {arg : Text} {r : Outcome} {depth : Nat} (hquote : arg.head? ≠ some '"')
      (hparse : ∀ u, parse arg ≠ .plain u) (h : Evaluates known (parse arg) r depth) :
      Resolves known arg (r.result, r.groups) depth

/-- That the parts of a formula are put together to a text, with the groups of their matches. -/
inductive Splices (known : Text → Bool) : List Formula → Text → List Text → Nat → Prop
  | nil : Splices known [] [] [] 0
  /-- Plain text stays. -/
  | plain {t : Text} {parts : List Formula} {joined : Text} {groups : List Text} {depth : Nat}
      (hparts : Splices known parts joined groups depth) :
      Splices known (.plain t :: parts) (t ++ joined) groups depth
  /-- Any other part is evaluated, and its result is quoted where it has to be. -/
  | part {part : Formula} {parts : List Formula} {r : Outcome} {joined : Text}
      {groups : List Text} {first depth : Nat} (hpart : ∀ t, part ≠ .plain t)
      (h : Evaluates known part r first) (hparts : Splices known parts joined groups depth) :
      Splices known (part :: parts) (quoteOperand r.result ++ joined) (r.groups ++ groups)
        (max first depth)

end

section

variable {known : Text → Bool}

/-- What an argument stands for, quoted or not. -/
def standsFor (known : Text → Bool) (arg : Text) : Text × List Text :=
  if arg.head? = some '"' then (arg, []) else (context known).resolve arg

/-- That a formula evaluates to what is computed for it and to nothing else, always with the same
number of calls going on at once. -/
def Ends (known : Text → Bool) (formula : Formula) (depth : Nat) : Prop :=
  ∀ r d, Evaluates known formula r d ↔ r = evalText (context known) formula ∧ d = depth

/-- The same of what an argument stands for. -/
def ArgumentEnds (known : Text → Bool) (arg : Text) (depth : Nat) : Prop :=
  ∀ v d, Resolves known arg v d ↔ v = standsFor known arg ∧ d = depth

/-- The outcome of a call is decided by what its arguments stand for. -/
theorem callOutcome_of_standsFor {resolve : Text → Text × List Text} {args : List Text}
    (h : ∀ arg ∈ args, resolve arg = standsFor known arg) (name : Text) :
    callOutcome ⟨known, resolve⟩ name args = callOutcome (context known) name args := by
  have hresolve : ∀ arg ∈ args, arg.head? ≠ some '"' →
      resolve arg = (context known).resolve arg := by
    intro arg harg hquote
    rw [h arg harg, standsFor, if_neg hquote]
  have hcall : evalCall ⟨known, resolve⟩ name args = evalCall (context known) name args :=
    evalCall_congr (by rfl) hresolve name
  rw [callOutcome, callOutcome, hcall]

/-- A call ends when its arguments do. -/
theorem ends_call {args : List Text} {depth : Text → Nat}
    (h : ∀ arg ∈ args, ArgumentEnds known arg (depth arg)) (name : Text) :
    Ends known (.call name args) (1 + greatest depth args) := by
  intro r d
  constructor
  · rintro (_ | hargs)
    have hends := fun arg harg => (h arg harg _ _).mp (hargs arg harg)
    exact ⟨callOutcome_of_standsFor (fun arg harg => (hends arg harg).1) name,
      by rw [greatest_congr fun arg harg => (hends arg harg).2]⟩
  · rintro ⟨rfl, rfl⟩
    have hcall : callOutcome ⟨known, standsFor known⟩ name args =
        callOutcome (context known) name args := callOutcome_of_standsFor (fun _ _ => rfl) name
    rw [evalText, ← hcall]
    exact .call fun arg harg => (h arg harg _ _).mpr ⟨rfl, rfl⟩

/-- A plain text ends without a call. -/
theorem ends_plain (t : Text) : Ends known (.plain t) 0 := by
  intro r d
  constructor
  · rintro ⟨⟩
    exact ⟨rfl, rfl⟩
  · rintro ⟨rfl, rfl⟩
    exact .plain t

/-- The parts of a sequence are put together as computed when each ends. -/
theorem splices_iff {parts : List Formula} {depth : Formula → Nat}
    (h : ∀ part ∈ parts, Ends known part (depth part)) {joined : Text} {groups : List Text}
    {d : Nat} : Splices known parts joined groups d ↔
      (joined, groups) = splice (context known) parts ∧ d = greatest depth parts := by
  induction parts generalizing joined groups d with
  | nil =>
    constructor
    · rintro ⟨⟩
      exact ⟨rfl, rfl⟩
    · rintro ⟨heq, rfl⟩
      obtain ⟨rfl, rfl⟩ := Prod.mk.inj heq
      exact .nil
  | cons part parts ih =>
    obtain ⟨hfirst, hrest⟩ := List.forall_mem_cons.mp h
    rw [greatest_cons]
    cases part with
    | plain t =>
      obtain ⟨-, hzero⟩ := (hfirst _ _).mp (.plain t)
      rw [splice, ← hzero, Nat.zero_max]
      constructor
      · rintro (_ | hparts | ⟨hpart, -, -⟩)
        · obtain ⟨heq, hdepth⟩ := (ih hrest).mp hparts
          rw [← heq]
          exact ⟨rfl, hdepth⟩
        · exact absurd rfl (hpart t)
      · rintro ⟨heq, hdepth⟩
        obtain ⟨rfl, rfl⟩ := Prod.mk.inj heq
        exact .plain ((ih hrest).mpr ⟨rfl, hdepth⟩)
    | call | sequence =>
      rw [splice]
      · constructor
        · rintro (_ | _ | ⟨-, hpart, hparts⟩)
          obtain ⟨rfl, rfl⟩ := (hfirst _ _).mp hpart
          obtain ⟨heq, rfl⟩ := (ih hrest).mp hparts
          rw [← heq]
          exact ⟨rfl, rfl⟩
        · rintro ⟨heq, rfl⟩
          obtain ⟨rfl, rfl⟩ := Prod.mk.inj heq
          refine .part ?_ ((hfirst _ _).mpr ⟨rfl, rfl⟩) ((ih hrest).mpr ⟨rfl, rfl⟩)
          rintro t ⟨⟩
      · rintro t ⟨⟩

/-- A sequence ends if its parts do, as deep as the deepest of them. -/
theorem ends_sequence {parts : List Formula} {depth : Formula → Nat}
    (h : ∀ part ∈ parts, Ends known part (depth part)) :
    Ends known (.sequence parts) (greatest depth parts) := by
  intro r d
  constructor
  · rintro (_ | _ | hparts)
    obtain ⟨heq, hdepth⟩ := (splices_iff h).mp hparts
    rw [evalText, ← heq]
    exact ⟨rfl, hdepth⟩
  · rintro ⟨rfl, rfl⟩
    exact .sequence ((splices_iff h).mpr ⟨rfl, rfl⟩)

/-- The number of calls that go on at once in a part of a text, by that in the arguments. -/
def partDepth (depth : Text → Nat) : Formula → Nat
  | .call _ args => 1 + greatest depth args
  | _ => 0

/-- A call is one level deeper than its arguments and has one more parenthesis. -/
theorem one_add_greatest_le {t : Text} {depth : Text → Nat}
    (h : ∀ arg, IsArgument arg t → depth arg ≤ arg.count '(') {name : Text} {args : List Text}
    (hcall : (name, args) ∈ calls t) : 1 + greatest depth args ≤ t.count '(' := by
  have hpos : t.count '(' ≠ 0 := fun hzero =>
    List.ne_nil_of_mem hcall (calls_eq_nil hzero)
  have hargs : greatest depth args ≤ t.count '(' - 1 := by
    refine greatest_le fun arg harg => ?_
    have hle := h arg ⟨name, args, holds_parse_iff.mpr hcall, harg⟩
    have hlt := count_of_mem_calls hcall harg
    omega
  omega

/-- The formula of a text ends when the arguments of its calls do, with no more calls going on at
once than there are opening parentheses. -/
theorem exists_ends_parse {t : Text} {depth : Text → Nat}
    (h : ∀ arg, IsArgument arg t → depth arg ≤ arg.count '(' ∧ ArgumentEnds known arg (depth arg)) :
    ∃ d ≤ t.count '(', Ends known (parse t) d := by
  have hends {name args} (hcall : (name, args) ∈ calls t) :
      Ends known (.call name args) (1 + greatest depth args) :=
    ends_call (fun arg harg => (h arg ⟨name, args, holds_parse_iff.mpr hcall, harg⟩).2) name
  have hle {name args} (hcall : (name, args) ∈ calls t) : 1 + greatest depth args ≤ t.count '(' :=
    one_add_greatest_le (fun arg harg => (h arg harg).1) hcall
  have hform := form_parse t
  generalize parse t = formula at hform ⊢
  cases hform with
  | plain _ => exact ⟨0, Nat.zero_le _, ends_plain t⟩
  | @call name args hcalls =>
    have hcall : (name, args) ∈ calls t := by simp [hcalls]
    exact ⟨_, hle hcall, hends hcall⟩
  | sequence _ =>
    refine ⟨greatest (partDepth depth) (scan 0 none false t), greatest_le fun part hpart => ?_,
      ends_sequence fun part hpart => ?_⟩
    · obtain ⟨u, rfl⟩ | ⟨name, inner, rfl, -⟩ := mem_scan hpart
      · exact Nat.zero_le _
      · exact hle (mem_calls.mpr hpart)
    · obtain ⟨u, rfl⟩ | ⟨name, inner, rfl, -⟩ := mem_scan hpart
      · exact ends_plain u
      · exact hends (mem_calls.mpr hpart)

/-- A quoted argument ends without a call. -/
theorem argumentEnds_of_quote {arg : Text} (h : arg.head? = some '"') :
    ArgumentEnds known arg 0 := by
  intro v d
  rw [standsFor, if_pos h]
  constructor
  · rintro (_ | ⟨hquote, -⟩ | ⟨hquote, -, -⟩)
    · exact ⟨rfl, rfl⟩
    · exact absurd h hquote
    · exact absurd h hquote
  · rintro ⟨rfl, rfl⟩
    exact .quoted h

/-- An argument without calls ends without one. -/
theorem argumentEnds_of_calls_eq_nil {arg : Text} (hquote : arg.head? ≠ some '"')
    (h : calls arg = []) : ArgumentEnds known arg 0 := by
  have hparse := parse_eq_plain h
  intro v d
  rw [standsFor, if_neg hquote, resolve_eq, if_pos h]
  constructor
  · rintro (_ | _ | ⟨-, hnested, -⟩)
    · exact ⟨rfl, rfl⟩
    · exact ⟨rfl, rfl⟩
    · exact absurd hparse (hnested arg)
  · rintro ⟨rfl, rfl⟩
    exact .plain hquote hparse

/-- What an argument with calls stands for ends when its formula does. -/
theorem argumentEnds_of_ends {arg : Text} {depth : Nat} (hquote : arg.head? ≠ some '"')
    (hcalls : calls arg ≠ []) (h : Ends known (parse arg) depth) :
    ArgumentEnds known arg depth := by
  have hnested := parse_ne_plain hcalls
  intro v d
  rw [standsFor, if_neg hquote, resolve_eq, if_neg hcalls]
  constructor
  · rintro (hquoted | ⟨-, hparse⟩ | ⟨-, -, heval⟩)
    · exact absurd hquoted hquote
    · exact absurd hparse (hnested _)
    · obtain ⟨rfl, rfl⟩ := (h _ _).mp heval
      exact ⟨rfl, rfl⟩
  · rintro ⟨rfl, rfl⟩
    exact .nested hquote hnested ((h _ _).mpr ⟨rfl, rfl⟩)

/-- What an argument stands for ends, however it is written. -/
theorem exists_argumentEnds_le (known : Text → Bool) (arg : Text) :
    ∃ d ≤ arg.count '(', ArgumentEnds known arg d := by
  induction arg using wellFounded_isArgument.induction with
  | _ arg ih =>
    choose! depth hdepth using ih
    obtain ⟨d, hd, hends⟩ := exists_ends_parse hdepth
    by_cases hquote : arg.head? = some '"'
    · exact ⟨0, Nat.zero_le _, argumentEnds_of_quote hquote⟩
    · by_cases hcalls : calls arg = []
      · exact ⟨0, Nat.zero_le _, argumentEnds_of_calls_eq_nil hquote hcalls⟩
      · exact ⟨d, hd, argumentEnds_of_ends hquote hcalls hends⟩

/-- Each call evaluates to one outcome, the one that is computed, whatever texts its arguments are:
a call in a text has arguments that are less than the text, so there is no endless chain of them.
Beside the call itself no more calls go on at once than the greatest number of opening parentheses
in an argument. -/
theorem calls_end (known : Text → Bool) (name : Text) (args : List Text) :
    (∀ t callee inner, Holds callee inner (parse t) → Smaller inner t) ∧
    WellFounded IsArgument ∧
    ∃ depth ≤ 1 + greatest (List.count '(') args, ∀ r d,
      Evaluates known (.call name args) r d ↔
        r = evalText (context known) (.call name args) ∧ d = depth := by
  refine ⟨fun t callee inner h => smaller_of_mem_calls (holds_parse_iff.mp h),
    wellFounded_isArgument, ?_⟩
  choose depth hle hends using exists_argumentEnds_le known
  refine ⟨1 + greatest depth args, ?_, ends_call (fun arg _ => hends arg) name⟩
  have hargs : greatest depth args ≤ greatest (List.count '(') args :=
    greatest_le fun arg harg => (hle arg).trans (le_greatest harg)
  omega

end

end Formula

end Mudline
