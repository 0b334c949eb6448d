import Mudline.Expr.Eval

/-!
# The connectives

An operand of a connective holds, does not hold, or fails. A connective looks at its right operand
only when the left one neither fails nor decides, so the order of the operands matters. All the same
the two connectives are a distributive lattice on the verdicts that operands come to, failures
included, and expressions inherit its laws.
-/

namespace Mudline.Expr

/-- What an operand of a connective comes to: whether it holds, or why it fails. -/
abbrev Verdict := Except Error Bool

/-- The verdict on two operands, of which the left one decides when it comes to `decisive`. -/
def Verdict.connect (decisive : Bool) : Verdict → Verdict → Verdict
  | .ok t, right => if t = decisive then .ok decisive else right
  | .error e, _ => .error e

namespace Verdict

section Laws

variable (s t : Bool) (x y z : Verdict)

/-- Three verdicts are connected in either order. -/
theorem connect_assoc : connect s (connect s x y) z = connect s x (connect s y z) := by
  cases x with
  | error e => rfl
  | ok v => by_cases h : v = s <;> simp [connect, h]

/-- Each connective distributes over both from the left. -/
theorem connect_distrib :
    connect s x (connect t y z) = connect t (connect s x y) (connect s x z) := by
  cases x with
  | error e => rfl
  | ok v => by_cases h : v = s <;> simp [connect, h]

/-- A verdict that is connected with itself is the same. -/
theorem connect_self : connect s x x = x := by
  cases x with
  | error e => rfl
  | ok v => by_cases h : v = s <;> simp [connect, h]

end Laws

/-- Each connective absorbs the other. -/
theorem connect_absorb {s t : Bool} (h : s ≠ t) (x y : Verdict) :
    connect s x (connect t x y) = x := by
  obtain rfl : t = !s := Bool.eq_not.mpr h.symm
  cases x with
  | error e => rfl
  | ok v => cases v <;> cases s <;> rfl

/-- A failing right operand is what the connective comes to, and the left operand does not fail
itself, exactly if the left operand comes to what does not decide. -/
theorem connect_error_iff {s : Bool} {x : Verdict} {e : Error} :
    (connect s x (.error e) = .error e ∧ ∃ v, x = .ok v) ↔ x = .ok !s := by
  cases x with
  | error e' => simp
  | ok v => cases v <;> cases s <;> simp [connect]

end Verdict

/-- What an expression comes to as an operand of a connective. -/
def verdict (e : Expr) : Verdict :=
  e.eval.map Value.holds

/-- Two expressions under the connective that asks for both. -/
abbrev conj (a b : Expr) : Expr :=
  .binary .and a b

/-- Two expressions under the connective that asks for one of them. -/
abbrev disj (a b : Expr) : Expr :=
  .binary .or a b

/-- A conjunction is worth what its two verdicts are together. -/
theorem eval_conj (a b : Expr) :
    (conj a b).eval = (Verdict.connect false a.verdict b.verdict).map Value.bool := by
  rw [eval, verdict, verdict]
  cases a.eval with
  | error e => rfl
  | ok v =>
    cases hv : v.holds <;> cases b.eval <;>
      simp [hv, Verdict.connect, bind, Except.bind, Except.map, pure, Except.pure]

/-- A disjunction is worth what its two verdicts are together. -/
theorem eval_disj (a b : Expr) :
    (disj a b).eval = (Verdict.connect true a.verdict b.verdict).map Value.bool := by
  rw [eval, verdict, verdict]
  cases a.eval with
  | error e => rfl
  | ok v =>
    cases hv : v.holds <;> cases b.eval <;>
      simp [hv, Verdict.connect, bind, Except.bind, Except.map, pure, Except.pure]

/-- What a connective comes to is an operand again. -/
theorem verdict_of_eval {e : Expr} {x : Verdict} (h : e.eval = x.map Value.bool) :
    e.verdict = x := by
  rw [verdict, h]
  cases x <;> rfl

/-- The verdict of a conjunction connects those of its parts. -/
theorem verdict_conj (a b : Expr) :
    (conj a b).verdict = Verdict.connect false a.verdict b.verdict :=
  verdict_of_eval (eval_conj a b)

/-- The verdict of a disjunction connects those of its parts. -/
theorem verdict_disj (a b : Expr) :
    (disj a b).verdict = Verdict.connect true a.verdict b.verdict :=
  verdict_of_eval (eval_disj a b)

/-- A verdict fails as the evaluation does. -/
theorem verdict_eq_error_iff {e : Expr} {err : Error} :
    e.verdict = .error err ↔ e.eval = .error err := by
  rw [verdict]
  cases e.eval <;> simp [Except.map]

/-- A verdict is whether the value holds. -/
theorem verdict_eq_ok_iff {e : Expr} {t : Bool} :
    e.verdict = .ok t ↔ ∃ v, e.eval = .ok v ∧ v.holds = t := by
  rw [verdict]
  cases e.eval <;> simp [Except.map]

/-- There is a verdict if there is a value. -/
theorem exists_verdict_iff {e : Expr} : (∃ t, e.verdict = .ok t) ↔ ∃ v, e.eval = .ok v := by
  simp only [verdict_eq_ok_iff]
  exact ⟨fun ⟨_, v, hv, _⟩ => ⟨v, hv⟩, fun ⟨v, hv⟩ => ⟨v.holds, v, hv, rfl⟩⟩

/-- What is evaluated under a connective is a truth value or fails. -/
theorem bool_or_error (x : Verdict) :
    (∃ t, x.map Value.bool = .ok (.bool t)) ∨ ∃ e, x.map Value.bool = .error e := by
  cases x with
  | error e => exact .inr ⟨e, rfl⟩
  | ok t => exact .inl ⟨t, rfl⟩

/-- The laws of the two connectives. Where two expressions are said to be equal, their values are,
or their errors. -/
structure ConnectiveLaws (a b c : Expr) : Prop where
  /-- Three operands can be taken together from either side. -/
  conj_assoc : (conj (conj a b) c).eval = (conj a (conj b c)).eval
  disj_assoc : (disj (disj a b) c).eval = (disj a (disj b c)).eval
  /-- Each connective distributes over the other. -/
  conj_disj : (conj a (disj b c)).eval = (disj (conj a b) (conj a c)).eval
  disj_conj : (disj a (conj b c)).eval = (conj (disj a b) (disj a c)).eval
  /-- Absorbed, or connected with itself, an operand yields whether it holds, or its error. -/
  absorb : ∀ e ∈ [conj a (disj a b), disj a (conj a b), conj a a, disj a a],
    e.eval = a.eval.map fun v => .bool v.holds
  /-- A left operand that decides is enough. -/
  left_decides : ∀ v, a.eval = .ok v → (v.holds = false → (conj a b).eval = .ok (.bool false)) ∧
    (v.holds = true → (disj a b).eval = .ok (.bool true))
  /-- The error of the left operand comes first. -/
  left_error : ∀ e, a.eval = .error e → (conj a b).eval = .error e ∧ (disj a b).eval = .error e
  /-- The error of the right operand is reported, and it is not that of the left one, exactly if the
  left operand is evaluated and does not decide. -/
  conj_right_error : ∀ e, b.eval = .error e →
    (((conj a b).eval = .error e ∧ ∃ v, a.eval = .ok v) ↔ ∃ v, a.eval = .ok v ∧ v.holds = true)
  disj_right_error : ∀ e, b.eval = .error e →
    (((disj a b).eval = .error e ∧ ∃ v, a.eval = .ok v) ↔ ∃ v, a.eval = .ok v ∧ v.holds = false)
  /-- The result is a truth value or an error. -/
  conj_bool : (∃ t, (conj a b).eval = .ok (.bool t)) ∨ ∃ e, (conj a b).eval = .error e
  disj_bool : (∃ t, (disj a b).eval = .ok (.bool t)) ∨ ∃ e, (disj a b).eval = .error e

/-- The connectives are a distributive lattice that looks at its right operand only when it must. -/
theorem connective_laws (a b c : Expr) : ConnectiveLaws a b c where
  conj_assoc := by simp only [eval_conj, verdict_conj, Verdict.connect_assoc]
  disj_assoc := by simp only [eval_disj, verdict_disj, Verdict.connect_assoc]
  conj_disj := by
    rw [eval_conj, eval_disj, verdict_disj, verdict_conj, verdict_conj, Verdict.connect_distrib]
  disj_conj := by
    rw [eval_disj, eval_conj, verdict_conj, verdict_disj, verdict_disj, Verdict.connect_distrib]
  absorb := by
    have hown : (a.eval.map fun v => .bool v.holds) = a.verdict.map Value.bool := by
      rw [verdict]
      cases a.eval <;> rfl
    rw [hown]
    simp only [List.forall_mem_cons, List.not_mem_nil, false_imp_iff, implies_true, and_true]
    refine ⟨?_, ?_, ?_, ?_⟩
    · rw [eval_conj, verdict_disj, Verdict.connect_absorb Bool.false_ne_true]
    · rw [eval_disj, verdict_conj, Verdict.connect_absorb Bool.false_ne_true.symm]
    · rw [eval_conj, Verdict.connect_self]
    · rw [eval_disj, Verdict.connect_self]
  left_decides := by
    intro v hv
    constructor <;>
    · intro hholds
      have ha := verdict_eq_ok_iff.mpr ⟨v, hv, hholds⟩
      simp [eval_conj, eval_disj, ha, Verdict.connect, Except.map]
  left_error := by
    intro e ha
    rw [eval_conj, eval_disj, verdict_eq_error_iff.mpr ha]
    exact ⟨rfl, rfl⟩
  conj_right_error := by
    intro e hb
    rw [← verdict_eq_error_iff, ← exists_verdict_iff, ← verdict_eq_ok_iff, verdict_conj,
      verdict_eq_error_iff.mpr hb]
    exact Verdict.connect_error_iff
  disj_right_error := by
    intro e hb
    rw [← verdict_eq_error_iff, ← exists_verdict_iff, ← verdict_eq_ok_iff, verdict_disj,
      verdict_eq_error_iff.mpr hb]
    exact Verdict.connect_error_iff
  conj_bool := by
    rw [eval_conj]
    exact bool_or_error _
  disj_bool := by
    rw [eval_disj]
    exact bool_or_error _

/-- The operands cannot change places: an operand that fails does so on the left only. -/
example : (conj (.literal (.bool false)) (.unary .neg (.literal (.text "x")))).eval =
      .ok (.bool false) ∧
    (conj (.unary .neg (.literal (.text "x"))) (.literal (.bool false))).eval =
      .error (.cannotNegate (.text "x")) := ⟨rfl, rfl⟩

end Mudline.Expr
