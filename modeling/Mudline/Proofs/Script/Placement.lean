import Mudline.Proofs.Script.Structured

/-!
# Where a script stands

The index of the next line and the stack of chains decide which line runs. What a condition or a
command does depends on neither, unless the command is a control statement. So the effects of a line
can be computed on a script that stands anywhere, and be carried over.
-/

namespace Mudline.Script

/-- The script, standing at another line and in other blocks. -/
def placed (s : Script) (next current : Nat) (levels : List Chain) : Script :=
  { s with next := next, current := current, levels := levels }

section Placed

variable (s : Script) (n c m d : Nat) (l k : List Chain)

/-- The next line is the one where the script was placed. -/
@[simp] theorem placed_next : (s.placed n c l).next = n := rfl

/-- The current line is the one that was given. -/
@[simp] theorem placed_current : (s.placed n c l).current = c := rfl

/-- The levels are those that were given. -/
@[simp] theorem placed_levels : (s.placed n c l).levels = l := rfl

/-- Placing a script leaves its listing. -/
@[simp] theorem placed_listing : (s.placed n c l).listing = s.listing := rfl

/-- Placing a script leaves its status. -/
@[simp] theorem placed_status : (s.placed n c l).status = s.status := rfl

/-- Where a script was placed before makes no difference. -/
@[simp] theorem placed_placed : (s.placed n c l).placed m d k = s.placed m d k := rfl

/-- A script may be placed where it is. -/
@[simp] theorem placed_self : s.placed s.next s.current s.levels = s := rfl

/-- A script that goes on elsewhere is placed there. -/
@[simp] theorem placed_goTo : (s.placed n c l).goTo m = s.placed m c l := rfl

/-- Setting the chain replaces that of the innermost level. -/
@[simp] theorem placed_setChain (x y : Chain) :
    (s.placed n c (x :: l)).setChain y = s.placed n c (y :: l) := rfl

/-- The chain is that of the innermost level. -/
@[simp] theorem placed_chain (x : Chain) : (s.placed n c (x :: l)).chain = x := rfl

/-- Opening a block adds a level without a chain. -/
@[simp] theorem placed_openBlock : (s.placed n c l).openBlock = s.placed n c (.absent :: l) := rfl

/-- Closing a block takes the innermost level away. -/
@[simp] theorem placed_closeBlock (x y : Chain) :
    (s.placed n c (x :: y :: l)).closeBlock = s.placed n c (y :: l) := rfl

/-- Captures make no difference to where a script is placed. -/
theorem placed_capture (groups : List Text) :
    (s.placed n c l).capture groups = (s.capture groups).placed n c l := by
  unfold capture
  split <;> rfl

/-- Captures leave the current line. -/
@[simp] theorem capture_current (groups : List Text) : (s.capture groups).current = s.current := by
  unfold capture
  split <;> rfl

end Placed

/-- Judging a condition does not depend on where the script stands. Only the line that ran last has
to stay, since a complaint names it. -/
theorem placed_test (s : Script) (n : Nat) (l : List Chain) (cond : Condition) :
    (s.placed n s.current l).test cond =
      ((s.test cond).1.placed n s.current l, (s.test cond).2) := by
  cases cond with
  | argCount count => rfl
  | expr t =>
    have hexpand : (s.placed n s.current l).expandLine t = s.expandLine t := rfl
    have hglobals : (s.placed n s.current l).globals = s.globals := rfl
    simp only [test, hexpand, hglobals, placed_capture]
    split
    · rfl
    · split <;> simp [complain, emit, location, placed]

/-- A statement that is no control statement does not depend on where the script stands. -/
theorem placed_perform (s : Script) (n : Nat) (l : List Chain) {statement : Statement}
    (hcontrol : statement.isControl = false) :
    (s.placed n s.current l).perform statement =
      (s.perform statement).placed n s.current l := by
  cases statement with
  | goto _ | gosub _ _ | comeBack | exit | matchWait _ | waitFor _ _ | pause _ =>
    simp [Statement.isControl] at hcontrol
  | nothing | echo _ | send _ | pass _ | setShared _ _ | unset _ | shift => rfl
  | set name value =>
    simp only [perform]
    split <;> rfl
  | math name operation amount =>
    have hlocals : (s.placed n s.current l).locals = s.locals := rfl
    simp only [perform, math, hlocals]
    split
    · rfl
    · split <;> rfl
  | evalText name t | evalNumber name t =>
    have hglobals : (s.placed n s.current l).globals = s.globals := rfl
    simp only [perform, assign, hglobals, placed_capture]
    split <;> simp [complain, emit, location, placed]
  | awaitAt label mode pattern =>
    simp only [perform, await]
    split <;> rfl

/-- Carrying out a command on the line that the script stands at. -/
theorem execute_placed {s t : Script} {i : Nat} {raw : Text} (n : Nat) (l : List Chain)
    (h : s.obey? i raw = some t) : (s.placed n i l).execute raw = t.placed n i l := by
  simp only [obey?, Option.ite_none_left_eq_some, Option.some.injEq] at h
  obtain ⟨hcontrol, rfl⟩ := h
  have hplaced := placed_perform { s with current := i } n l (by simpa using hcontrol)
  exact hplaced

/-- Judging a condition on the line that the script stands at. -/
theorem test_placed (s : Script) (i n : Nat) (l : List Chain) (cond : Condition) :
    (s.placed n i l).test cond = ((s.judge i cond).1.placed n i l, (s.judge i cond).2) :=
  placed_test { s with current := i } n l cond

/-- The second script runs the same lines as the first and does the same. -/
structure Kept (s t : Script) : Prop where
  /-- The lines are the same. -/
  listing : t.listing = s.listing
  /-- The status is the same. -/
  status : t.status = s.status

/-- A script keeps what it has. -/
theorem Kept.refl (s : Script) : Kept s s := ⟨rfl, rfl⟩

/-- What is kept twice is kept. -/
theorem Kept.trans {s t u : Script} (hst : Kept s t) (htu : Kept t u) : Kept s u :=
  ⟨htu.listing.trans hst.listing, htu.status.trans hst.status⟩

/-- Placing a script keeps what it has. -/
theorem Kept.placed {s t : Script} (h : Kept s t) (n c : Nat) (l : List Chain) :
    Kept s (t.placed n c l) :=
  ⟨h.listing, h.status⟩

/-- Captures keep the listing and the status. -/
theorem kept_capture (s : Script) (groups : List Text) : Kept s (s.capture groups) := by
  unfold capture
  split <;> exact ⟨rfl, rfl⟩

/-- A complaint keeps the listing and the status. -/
theorem kept_complain (s : Script) (e : Complaint) : Kept s (s.complain e) := ⟨rfl, rfl⟩

/-- Judging a condition keeps the listing and the status. -/
theorem kept_judge (s : Script) (i : Nat) (cond : Condition) : Kept s (s.judge i cond).1 := by
  have hcurrent : Kept s { s with current := i } := ⟨rfl, rfl⟩
  cases cond with
  | argCount count => exact hcurrent
  | expr t =>
    have hcapture (groups : List Text) := hcurrent.trans (kept_capture _ groups)
    simp only [judge, test]
    split
    · exact hcapture _
    · split
      · exact hcapture _
      · exact (hcapture _).trans (kept_complain _ _)

/-- A statement that does not direct the run keeps the listing and the status. -/
theorem kept_perform (s : Script) {statement : Statement} (hcontrol : statement.isControl = false) :
    Kept s (s.perform statement) := by
  cases statement with
  | goto _ | gosub _ _ | comeBack | exit | matchWait _ | waitFor _ _ | pause _ =>
    simp [Statement.isControl] at hcontrol
  | nothing | echo _ | send _ | pass _ | setShared _ _ | unset _ | shift => exact ⟨rfl, rfl⟩
  | set name value =>
    simp only [perform]
    split <;> exact ⟨rfl, rfl⟩
  | math name operation amount =>
    simp only [perform, math]
    split
    · exact ⟨rfl, rfl⟩
    · split <;> exact ⟨rfl, rfl⟩
  | evalText name t | evalNumber name t =>
    simp only [perform, assign]
    split
    · exact (kept_capture _ _).trans (kept_complain _ _)
    · exact (kept_capture _ _).trans ⟨rfl, rfl⟩
  | awaitAt label mode pattern =>
    simp only [perform, await]
    split <;> exact ⟨rfl, rfl⟩

/-- A command that goes on to the next line keeps the listing and the status. -/
theorem kept_obey? {s t : Script} {i : Nat} {raw : Text} (h : s.obey? i raw = some t) :
    Kept s t := by
  simp only [obey?, Option.ite_none_left_eq_some, Option.some.injEq] at h
  obtain ⟨hcontrol, rfl⟩ := h
  have hcurrent : Kept s { s with current := i } := ⟨rfl, rfl⟩
  exact hcurrent.trans (kept_perform _ (by simpa using hcontrol))

end Mudline.Script
