import Mudline.Proofs.Script.Frame

/-!
# Who sets the shared variables

A script shares its variables with others by one statement alone, which sets a shared variable. Up
to its command no line touches the shared variables, and no other command does. So a run in which no
line carries out this statement leaves the shared variables as they are.
-/

namespace Mudline.Script

/-- Whether a statement sets a shared variable. -/
def Statement.isSetShared : Statement → Bool
  | .setShared _ _ => true
  | _ => false

/-- Whether the next line of a running script sets a shared variable. -/
def setsShared (s : Script) : Bool :=
  s.status == .running &&
    match s.approach with
    | (u, some raw) => (Statement.read (u.expandLine raw)).isSetShared
    | (_, none) => false

/-- The line that sets a shared variable is the one that carries out such a statement. -/
theorem setsShared_iff {s : Script} :
    s.setsShared = true ↔ ∃ u name value, s.Issues u (.setShared name value) := by
  rw [setsShared, Bool.and_eq_true, beq_iff_eq]
  constructor
  · rintro ⟨hrunning, hsets⟩
    rcases happroach : s.approach with ⟨u, _ | raw⟩
    · simp [happroach] at hsets
    · rw [happroach] at hsets
      cases hread : Statement.read (u.expandLine raw) <;>
        simp [hread, Statement.isSetShared] at hsets
      exact ⟨u, _, _, hrunning, raw, happroach, hread⟩
  · rintro ⟨u, name, value, hrunning, raw, happroach, hread⟩
    simp [hrunning, happroach, hread, Statement.isSetShared]

/-- Captures leave the shared variables. -/
@[simp] theorem capture_globals (s : Script) (groups : List Text) :
    (s.capture groups).globals = s.globals := by
  unfold capture
  split <;> rfl

/-- A test leaves the shared variables. -/
@[simp] theorem test_globals (s : Script) (cond : Condition) :
    (s.test cond).1.globals = s.globals := by
  cases cond with
  | argCount n => rfl
  | expr t =>
    simp only [test]
    split
    · exact capture_globals s _
    · split
      · exact capture_globals s _
      · exact capture_globals s _

/-- Skipping a body leaves the shared variables. -/
@[simp] theorem skipBody_globals (s : Script) (body : Body) :
    (s.skipBody body).globals = s.globals := by
  cases body <;> rfl

/-- Closing a block leaves the shared variables. -/
@[simp] theorem closeBlock_globals (s : Script) : s.closeBlock.globals = s.globals := by
  unfold closeBlock
  split <;> rfl

/-- Approaching a body leaves the shared variables. -/
@[simp] theorem approachBody_globals (s : Script) (body : Body) :
    (s.approachBody body).1.globals = s.globals := by
  cases body with
  | inline raw | blockInline raw | block => rfl
  | next =>
    simp only [approachBody]
    split <;> rfl

/-- Approaching a branch leaves the shared variables. -/
@[simp] theorem approachBranch_globals (s : Script) (body : Body) (taken : Bool) :
    (s.approachBranch body taken).1.globals = s.globals := by
  cases taken with
  | true => exact approachBody_globals s body
  | false => exact skipBody_globals s body

/-- Approaching a line leaves the shared variables. -/
theorem approachLine_globals (s : Script) (line : Line) :
    (s.approachLine line).1.globals = s.globals := by
  cases line with
  | blank | comment | label _ | blockStart | command _ => rfl
  | blockEnd => exact closeBlock_globals s
  | ifLine cond body =>
    exact (approachBranch_globals _ _ _).trans (test_globals s cond)
  | elseIfLine cond body =>
    simp only [approachLine]
    split
    · exact (approachBranch_globals _ _ _).trans (test_globals s cond)
    · exact skipBody_globals s body
  | elseLine body =>
    simp only [approachLine]
    split
    · exact approachBody_globals (s.setChain .taken) body
    · exact skipBody_globals s body

/-- Up to its command, a line leaves the shared variables. -/
theorem approach_globals (s : Script) : s.approach.1.globals = s.globals := by
  rw [approach]
  split
  · exact approachLine_globals _ _
  · rfl

/-- A jump leaves the shared variables. -/
@[simp] theorem jump_globals (s : Script) (label : Text) : (s.jump label).globals = s.globals := by
  unfold jump
  split <;> rfl

/-- A wait leaves the shared variables. -/
@[simp] theorem waitSeconds_globals (s : Script) (seconds : Float) (status : Duration → Status) :
    (s.waitSeconds seconds status).globals = s.globals := by
  unfold waitSeconds
  split <;> rfl

/-- An assignment to a variable of the script leaves the shared variables. -/
@[simp] theorem assign_globals (s : Script) (name : Text) (r : Outcome) :
    (s.assign name r).globals = s.globals := by
  simp only [assign]
  split <;> exact capture_globals s _

/-- No other statement sets a shared variable. -/
theorem perform_globals (s : Script) {statement : Statement}
    (h : statement.isSetShared = false) : (s.perform statement).globals = s.globals := by
  cases statement with
  | setShared name value => simp [Statement.isSetShared] at h
  | nothing | echo _ | send _ | pass _ | unset _ | shift | exit => rfl
  | set name value =>
    simp only [perform]
    split <;> rfl
  | math name operation amount =>
    simp only [perform, math]
    split
    · rfl
    · split <;> rfl
  | evalText name t | evalNumber name t => exact assign_globals s name _
  | goto label => exact jump_globals s label
  | gosub label args =>
    simp only [perform, call]
    split <;> exact jump_globals s label
  | comeBack =>
    simp only [perform, comeBack]
    split <;> rfl
  | awaitAt label mode pattern =>
    simp only [perform, await]
    split <;> rfl
  | waitFor mode pattern =>
    simp only [perform, waitFor]
    split <;> rfl
  | matchWait seconds | pause seconds =>
    cases seconds with
    | none => rfl
    | some seconds => exact waitSeconds_globals s seconds _

/-- A line that does not set a shared variable leaves all as they are. -/
theorem step_globals {s : Script} (hrunning : s.status = .running) (h : s.setsShared = false) :
    s.step.globals = s.globals := by
  have happroach := s.approach_globals
  rw [step_eq]
  rcases hpair : s.approach with ⟨u, _ | raw⟩
  · rw [hpair] at happroach
    exact happroach
  · rw [hpair] at happroach
    have hother : (Statement.read (u.expandLine raw)).isSetShared = false := by
      simpa [setsShared, hrunning, hpair] using h
    exact (perform_globals u hother).trans happroach

/-- Lines of which none sets a shared variable leave all as they are. -/
theorem runFor_globals {s : Script} {budget : Nat}
    (h : ∀ k < budget, (s.runFor k).setsShared = false) :
    (s.runFor budget).globals = s.globals := by
  induction budget generalizing s with
  | zero => rfl
  | succ budget ih =>
    rw [runFor]
    split
    · rename_i hstatus
      have hrunning : s.status = .running := by simpa using hstatus
      have hrest : ∀ k < budget, (s.step.runFor k).setsShared = false := by
        intro k hk
        have hline := h (k + 1) (Nat.succ_lt_succ hk)
        rwa [runFor, if_pos hstatus] at hline
      rw [ih hrest, step_globals hrunning (h 0 (Nat.succ_pos budget))]
    · rfl

end Mudline.Script
