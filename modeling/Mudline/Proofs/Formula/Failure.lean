import Mudline.Proofs.Formula.Nesting
import Mudline.Script.Run

/-!
# Calls that fail in conditions

A call fails when there is no function of its name and number of arguments, or when a part of a text
lies outside it. Its report is a text, and all evaluators pass on texts, so a report can end as an
operand of an operator or as an argument of another call. A condition yields the report of a failing
call exactly when the call stands alone.
-/

namespace Mudline

namespace Formula

/-- The report of a call that fails. -/
def report? (ctx : Context) (name : Text) (args : List Text) : Option Text :=
  match evalCall ctx name args with
  | .ok _ => none
  | .error r => some r.result

/-- The reports of the calls of a text that fail, each before those from within its arguments, which
`inner` gives. -/
def reportsIn (ctx : Context) (inner : Text → List Text) (t : Text) : List Text :=
  (calls t).flatMap fun call =>
    (report? ctx call.1 call.2).toList ++
      call.2.flatMap fun arg => if arg.head? == some '"' then [] else inner arg

/-- The reports of the calls that fail when a text is evaluated with an allowance of calls inside
one another. -/
def reportsWithin (known : Text → Bool) : Nat → Text → List Text
  | 0, _ => []
  | depth + 1, t => reportsIn ⟨known, resolveWithin known depth⟩ (reportsWithin known depth) t

/-- The reports of the calls that fail when a text is evaluated, in the order in which the calls
begin in the text. -/
def reports (known : Text → Bool) (t : Text) : List Text :=
  reportsWithin known (t.count '(' + 1) t

/-- The reports of a text depend on its calls alone, and on what is known of them and their
arguments. -/
theorem reportsIn_congr {ctx ctx' : Context} {inner inner' : Text → List Text} {t : Text}
    (hknown : ctx.known = ctx'.known)
    (h : ∀ name args, (name, args) ∈ calls t → ∀ arg ∈ args,
      ctx.resolve arg = ctx'.resolve arg ∧ inner arg = inner' arg) :
    reportsIn ctx inner t = reportsIn ctx' inner' t := by
  refine List.flatMap_congr fun ⟨name, args⟩ hcall => ?_
  have hsame := h name args hcall
  have hreport : report? ctx name args = report? ctx' name args := by
    rw [report?, report?, evalCall_congr hknown fun arg harg _ => (hsame arg harg).1]
  have hinner : (args.flatMap fun arg => if arg.head? == some '"' then [] else inner arg) =
      args.flatMap fun arg => if arg.head? == some '"' then [] else inner' arg :=
    List.flatMap_congr fun arg harg => by rw [(hsame arg harg).2]
  simp only [hreport, hinner]

/-- The allowance is enough for the reports as it is for the results. -/
theorem reportsWithin_eq (known : Text → Bool) {depth depth' : Nat} {t : Text}
    (h : t.count '(' < depth) (h' : t.count '(' < depth') :
    reportsWithin known depth t = reportsWithin known depth' t := by
  induction depth generalizing depth' t with
  | zero => omega
  | succ depth ih =>
    obtain ⟨depth', rfl⟩ := Nat.exists_eq_add_one_of_ne_zero (Nat.ne_zero_of_lt h')
    refine reportsIn_congr rfl fun name args hcall arg harg => ?_
    have hcount := count_of_mem_calls hcall harg
    exact ⟨resolveWithin_eq known (by omega) (by omega), ih (by omega) (by omega)⟩

/-- The reports of a text are those of its calls and of their arguments. -/
theorem reports_eq (known : Text → Bool) (t : Text) :
    reports known t = reportsIn (context known) (reports known) t := by
  refine reportsIn_congr rfl fun name args hcall arg harg => ?_
  have hcount := count_of_mem_calls hcall harg
  exact ⟨resolveWithin_eq known hcount.le le_rfl,
    reportsWithin_eq known hcount (Nat.lt_succ_self _)⟩

/-- That a text is a call that fails, with nothing but blanks around it. -/
def FailsAlone (known : Text → Bool) (t : Text) : Prop :=
  ∃ name args, parse t = call name args ∧ (report? (context known) name args).isSome = true

/-- A text that is one call has this call and no other. -/
theorem calls_of_parse_eq_call {t name : Text} {args : List Text} (h : parse t = call name args) :
    calls t = [(name, args)] := by
  have hform := form_parse t
  rw [h] at hform
  cases hform with
  | call hcalls => exact hcalls

/-- The report of a function begins with one of two letters. -/
theorem head?_message (e : Function.Error) :
    e.message.head? = some 'N' ∨ e.message.head? = some 's' := by
  cases e with
  | missing name arity => exact .inl rfl
  | startOutOfBounds | endOutOfBounds => exact .inr rfl

/-- The text of a truth value begins with another letter. -/
theorem head?_boolText (b : Bool) :
    (Value.boolText b).head? = some 't' ∨ (Value.boolText b).head? = some 'f' := by
  cases b with
  | true => exact .inl rfl
  | false => exact .inr rfl

/-- No report of a function reads as a truth value. -/
theorem message_ne_boolText (e : Function.Error) (b : Bool) : e.message ≠ Value.boolText b := by
  intro h
  have hmessage := head?_message e
  rw [h] at hmessage
  rcases head?_boolText b with hb | hb <;> rw [hb] at hmessage <;> revert hmessage <;> decide

/-- A call that fails yields the report of its function and captures nothing. -/
theorem evalCall_eq_error {ctx : Context} {name : Text} {args : List Text} {r : Outcome}
    (h : evalCall ctx name args = .error r) : ∃ e : Function.Error, r = ⟨name, e.message, []⟩ := by
  rw [evalCall] at h
  split at h
  · cases h
  · rename_i e _
    exact ⟨e, (Except.error.inj h).symm⟩

/-- No report reads as a truth value. -/
theorem ne_boolText_of_mem_reportsIn {ctx : Context} {inner : Text → List Text} {t report : Text}
    (hinner : ∀ arg, report ∈ inner arg → ∀ b, report ≠ Value.boolText b)
    (h : report ∈ reportsIn ctx inner t) (b : Bool) : report ≠ Value.boolText b := by
  obtain ⟨⟨name, args⟩, -, hcall⟩ := List.mem_flatMap.mp h
  rcases List.mem_append.mp hcall with hown | hargs
  · rw [Option.mem_toList, report?] at hown
    split at hown
    · cases hown
    · rename_i r hr
      obtain ⟨e, rfl⟩ := evalCall_eq_error hr
      obtain rfl : e.message = report := Option.some.inj hown
      exact message_ne_boolText e b
  · obtain ⟨arg, -, harg⟩ := List.mem_flatMap.mp hargs
    split at harg
    · cases harg
    · exact hinner arg harg b

/-- No report from within a text reads as a truth value. -/
theorem ne_boolText_of_mem_reportsWithin {known : Text → Bool} {depth : Nat} {t report : Text}
    (h : report ∈ reportsWithin known depth t) (b : Bool) : report ≠ Value.boolText b := by
  induction depth generalizing t b with
  | zero => cases h
  | succ depth ih => exact ne_boolText_of_mem_reportsIn (fun _ harg => ih harg) h b

/-- A text that is no failing call on its own yields a truth value. -/
theorem evalBool_of_not_failsAlone {known : Text → Bool} {t : Text} (h : ¬FailsAlone known t) :
    ∃ b, (evalBool (context known) (parse t)).result = Value.boolText b := by
  have hform := form_parse t
  cases hparse : parse t with
  | plain u => exact ⟨_, rfl⟩
  | sequence parts => exact ⟨_, rfl⟩
  | call name args =>
    cases hcall : evalCall (context known) name args with
    | ok r => exact ⟨(Value.parse r.result).truthy, by rw [evalBool, hcall]⟩
    | error r => exact absurd ⟨name, args, hparse, by rw [report?, hcall]; rfl⟩ h

/-- A lone call that fails yields its own report, which is the first one. -/
theorem evalBool_of_failsAlone {known : Text → Bool} {t report : Text} (h : FailsAlone known t)
    (hfirst : (reports known t).head? = some report) :
    (evalBool (context known) (parse t)).result = report ∧
      (evalBool (context known) (parse t)).groups = [] := by
  obtain ⟨name, args, hparse, hfails⟩ := h
  cases hcall : evalCall (context known) name args with
  | ok r => simp [report?, hcall] at hfails
  | error r =>
    obtain ⟨e, rfl⟩ := evalCall_eq_error hcall
    have hown : report? (context known) name args = some e.message := by rw [report?, hcall]
    rw [reports_eq, reportsIn, calls_of_parse_eq_call hparse] at hfirst
    have hsame : e.message = report := by simpa [hown] using hfirst
    simp [hparse, evalBool, hcall, hsame]

/-- Where a call fails in a condition, the condition yields the first report exactly when the call
stands alone; then the report is shown and the condition fails. Anywhere else the condition yields a
truth value, and nothing is shown. -/
theorem report_yielded_iff_alone {globals : Store} {t report : Text}
    (h : (reports globals.contains t).head? = some report) :
    ((evalBool (context globals.contains) (parse t)).result = report ↔
        FailsAlone globals.contains t) ∧
      ∀ (s : Script) (raw : Text), s.globals = globals → s.expandLine raw = t →
        (FailsAlone globals.contains t →
          s.test (.expr raw) = (s.complain (.badCondition report), false)) ∧
        (¬FailsAlone globals.contains t → ∃ b,
          (evalBool (context globals.contains) (parse t)).result = Value.boolText b ∧
          s.test (.expr raw) =
            (s.capture (evalBool (context globals.contains) (parse t)).groups, b)) := by
  have hmem : report ∈ reports globals.contains t := List.mem_of_head? h
  have hreport := ne_boolText_of_mem_reportsWithin hmem
  refine ⟨⟨fun hresult => ?_, fun halone => (evalBool_of_failsAlone halone h).1⟩, ?_⟩
  · by_contra hnot
    obtain ⟨b, hb⟩ := evalBool_of_not_failsAlone hnot
    exact hreport b (hresult.symm.trans hb)
  · rintro s raw rfl rfl
    refine ⟨fun halone => ?_, fun hnot => ?_⟩
    · obtain ⟨hresult, hgroups⟩ := evalBool_of_failsAlone halone h
      have htrue : (report == ("true" : Text)) = false := beq_eq_false_iff_ne.mpr (hreport true)
      have hfalse : (report == ("false" : Text)) = false := beq_eq_false_iff_ne.mpr (hreport false)
      simp only [Script.test, hresult, hgroups, htrue, hfalse]
      rfl
    · obtain ⟨b, hb⟩ := evalBool_of_not_failsAlone hnot
      refine ⟨b, hb, ?_⟩
      simp only [Script.test, hb]
      cases b <;> rfl

/-- A script without lines. -/
def idle : Script where
  listing := ⟨"idle", [], []⟩

/-- A script that tests an unknown function alone is told so and does not go on. -/
theorem report_yielded_iff_alone_idle :
    (evalBool (context idle.globals.contains) (parse "nosuch(1)")).result =
        "No function registered as nosuch(1)".toList ∧
      idle.test (.expr "nosuch(1)") =
        (idle.complain (.badCondition "No function registered as nosuch(1)".toList), false) := by
  have hreports : (reports idle.globals.contains "nosuch(1)").head? =
      some "No function registered as nosuch(1)".toList := by decide +kernel
  have halone : FailsAlone idle.globals.contains "nosuch(1)" :=
    ⟨"nosuch", [['1']], rfl, by decide +kernel⟩
  obtain ⟨hiff, htest⟩ := report_yielded_iff_alone hreports
  exact ⟨hiff.mpr halone, (htest idle "nosuch(1)" rfl (by decide +kernel)).1 halone⟩

/-- A report that is read as text and negated makes a condition hold. -/
theorem not_always_surfaced :
    ¬∀ (globals : Store) (t report : Text), (reports globals.contains t).head? = some report →
      (evalBool (context globals.contains) (parse t)).result = report := by
  intro h
  have hreports : (reports (Store.contains {}) "!nosuch(1)").head? =
      some "No function registered as nosuch(1)".toList := by decide +kernel
  have hresult : (evalBool (context (Store.contains {})) (parse "!nosuch(1)")).result =
      "true".toList := by decide +kernel
  exact absurd (hresult.symm.trans (h {} _ _ hreports)) (by decide +kernel)

end Formula

end Mudline
