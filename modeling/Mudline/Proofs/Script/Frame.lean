import Mudline.Proofs.Script.Requests

/-!
# What a line leaves alone

A condition, and every statement that is no control statement, leaves a script where it stands: the
next line, the open blocks, the calls to come back from and the status are the same. Up to its
command a line moves the script within its listing, or just behind it, and touches neither the calls
nor what is waited for.
-/

namespace Mudline.Script

/-- The second script stands where the first does, in the same blocks and calls, and waits for the
same. -/
structure Steady (s t : Script) : Prop where
  /-- The lines are the same. -/
  listing : t.listing = s.listing
  /-- The next line is the same. -/
  next : t.next = s.next
  /-- The line that ran last is the same. -/
  current : t.current = s.current
  /-- The open blocks are the same. -/
  levels : t.levels = s.levels
  /-- The calls are the same. -/
  stack : t.stack = s.stack
  /-- The patterns that are waited for are the same. -/
  awaited : t.awaited = s.awaited
  /-- The status is the same. -/
  status : t.status = s.status

/-- A script that does nothing is steady. -/
theorem Steady.refl (s : Script) : Steady s s := ⟨rfl, rfl, rfl, rfl, rfl, rfl, rfl⟩

/-- What is steady twice is steady. -/
theorem Steady.trans {s t u : Script} (hst : Steady s t) (htu : Steady t u) : Steady s u where
  listing := htu.listing.trans hst.listing
  next := htu.next.trans hst.next
  current := htu.current.trans hst.current
  levels := htu.levels.trans hst.levels
  stack := htu.stack.trans hst.stack
  awaited := htu.awaited.trans hst.awaited
  status := htu.status.trans hst.status

/-- A complaint leaves the script steady. -/
theorem steady_complain (s : Script) (c : Complaint) : Steady s (s.complain c) :=
  ⟨rfl, rfl, rfl, rfl, rfl, rfl, rfl⟩

/-- Captures leave the script steady. -/
theorem steady_capture (s : Script) (groups : List Text) : Steady s (s.capture groups) := by
  unfold capture
  split <;> exact ⟨rfl, rfl, rfl, rfl, rfl, rfl, rfl⟩

/-- Captures leave the arguments. -/
@[simp] theorem capture_args (s : Script) (groups : List Text) :
    (s.capture groups).args = s.args := by
  unfold capture
  split <;> rfl

/-- A test leaves the script steady. -/
theorem steady_test (s : Script) (cond : Condition) : Steady s (s.test cond).1 := by
  cases cond with
  | argCount n => exact .refl s
  | expr t =>
    simp only [test]
    split
    · exact steady_capture s _
    · split
      · exact steady_capture s _
      · exact (steady_capture s _).trans (steady_complain _ _)

/-- A test leaves the arguments. -/
@[simp] theorem test_args (s : Script) (cond : Condition) : (s.test cond).1.args = s.args := by
  cases cond with
  | argCount n => rfl
  | expr t =>
    simp only [test]
    split
    · exact capture_args s _
    · split
      · exact capture_args s _
      · exact capture_args s _

/-- An assignment leaves the script steady. -/
theorem steady_assign (s : Script) (name : Text) (r : Outcome) : Steady s (s.assign name r) := by
  simp only [assign]
  split
  · exact (steady_capture s _).trans (steady_complain _ _)
  · exact (steady_capture s _).trans ⟨rfl, rfl, rfl, rfl, rfl, rfl, rfl⟩

/-- Arithmetic leaves the script steady. -/
theorem steady_math (s : Script) (name operation amount : Text) :
    Steady s (s.math name operation amount) := by
  simp only [math]
  split
  · exact steady_complain s _
  · split
    · exact steady_complain s _
    · exact ⟨rfl, rfl, rfl, rfl, rfl, rfl, rfl⟩

/-- Whether a statement notes a pattern and goes on. -/
def Statement.isAwaitAt : Statement → Bool
  | .awaitAt _ _ _ => true
  | _ => false

/-- A statement that neither controls the script nor notes a pattern leaves it where it stands. -/
theorem steady_perform (s : Script) {statement : Statement} (hcontrol : statement.isControl = false)
    (hawait : statement.isAwaitAt = false) : Steady s (s.perform statement) := by
  cases statement with
  | goto _ | gosub _ _ | comeBack | exit | matchWait _ | waitFor _ _ | pause _ =>
    simp [Statement.isControl] at hcontrol
  | awaitAt _ _ _ => simp [Statement.isAwaitAt] at hawait
  | nothing | echo _ | send _ | pass _ | setShared _ _ | unset _ | shift =>
    exact ⟨rfl, rfl, rfl, rfl, rfl, rfl, rfl⟩
  | set name value =>
    simp only [perform]
    split
    · exact steady_complain s _
    · exact ⟨rfl, rfl, rfl, rfl, rfl, rfl, rfl⟩
  | math name operation amount => exact steady_math s name operation amount
  | evalText name t | evalNumber name t => exact steady_assign s name _

/-- Whether a statement goes on elsewhere. -/
def Statement.isJump : Statement → Bool
  | .goto _ | .gosub _ _ | .comeBack => true
  | _ => false

/-- A jump leaves the listing. -/
@[simp] theorem jump_listing (s : Script) (label : Text) :
    (s.jump label).listing = s.listing := by
  unfold jump
  split <;> rfl

/-- A jump leaves the calls. -/
@[simp] theorem jump_stack (s : Script) (label : Text) : (s.jump label).stack = s.stack := by
  unfold jump
  split <;> rfl

/-- A wait leaves the listing and the calls. -/
theorem waitSeconds_kept (s : Script) (seconds : Float) (status : Duration → Status) :
    (s.waitSeconds seconds status).listing = s.listing ∧
      (s.waitSeconds seconds status).stack = s.stack := by
  unfold waitSeconds
  split <;> exact ⟨rfl, rfl⟩

/-- A statement that does not go on elsewhere keeps the lines and the calls. -/
theorem perform_kept (s : Script) {statement : Statement} (hjump : statement.isJump = false) :
    (s.perform statement).listing = s.listing ∧ (s.perform statement).stack = s.stack := by
  have hkept (h : Steady s (s.perform statement)) :
      (s.perform statement).listing = s.listing ∧ (s.perform statement).stack = s.stack :=
    ⟨h.listing, h.stack⟩
  cases statement with
  | goto _ | gosub _ _ | comeBack => simp [Statement.isJump] at hjump
  | awaitAt label mode pattern =>
    simp only [perform, await]
    split <;> exact ⟨rfl, rfl⟩
  | waitFor mode pattern =>
    simp only [perform, waitFor]
    split <;> exact ⟨rfl, rfl⟩
  | matchWait seconds | pause seconds =>
    cases seconds with
    | none => exact ⟨rfl, rfl⟩
    | some seconds => exact waitSeconds_kept s seconds _
  | exit => exact ⟨rfl, rfl⟩
  | nothing | echo _ | send _ | pass _ | setShared _ _ | set _ _ | unset _ | math _ _ _
  | evalText _ _ | evalNumber _ _ | shift =>
    exact hkept (steady_perform s rfl rfl)

/-- No statement changes the lines. -/
@[simp] theorem perform_listing (s : Script) (statement : Statement) :
    (s.perform statement).listing = s.listing := by
  cases hjump : statement.isJump with
  | false => exact (perform_kept s hjump).1
  | true =>
    cases statement with
    | goto label => exact jump_listing s label
    | gosub label args =>
      simp only [perform, call]
      split <;> exact jump_listing s label
    | comeBack =>
      simp only [perform, comeBack]
      split <;> rfl
    | _ => simp [Statement.isJump] at hjump

/-- Lines have places within the listing. -/
theorem Listing.lt_of_kind? {l : Listing} {i : Nat} {line : Line} (h : l.kind? i = some line) :
    i < l.lines.length := by
  obtain ⟨listed, hlisted, -⟩ := Option.map_eq_some_iff.mp h
  exact (List.getElem?_eq_some_iff.mp hlisted).1

/-- From a place on, there are as many lines as behind it. -/
@[simp] theorem Listing.length_kindsFrom (l : Listing) (i : Nat) :
    (l.kindsFrom i).length = l.lines.length - i := by
  simp [kindsFrom]

/-- A block ends within its lines. -/
theorem blockLength_le (depth : Int) (lines : List Line) :
    blockLength depth lines ≤ lines.length := by
  induction lines generalizing depth with
  | nil => exact Nat.le_refl _
  | cons line rest ih =>
    have hrest := ih (depth + line.delta)
    rw [blockLength, List.length_cons]
    split <;> omega

/-- A statement ends at most one line behind the lines. -/
theorem statementLength_le (lines : List Line) : statementLength lines ≤ lines.length + 1 := by
  induction lines with
  | nil => exact Nat.zero_le _
  | cons line rest ih =>
    have hblock := blockLength_le 0 (line :: rest)
    rw [List.length_cons] at hblock
    rw [statementLength, List.length_cons]
    split
    · omega
    · split
      · omega
      · split <;> omega

/-- Silent lines end within the lines. -/
theorem silentLength_le (lines : List Line) : silentLength lines ≤ lines.length :=
  (List.takeWhile_sublist _).length_le

/-- What a line does to the script before its command: it moves it on, and leaves its calls, its
arguments and what it waits for alone. -/
structure MovedOn (s u : Script) : Prop where
  /-- The lines are the same. -/
  listing : u.listing = s.listing
  /-- The calls are the same. -/
  stack : u.stack = s.stack
  /-- The patterns that are waited for are the same. -/
  awaited : u.awaited = s.awaited
  /-- The status is the same. -/
  status : u.status = s.status
  /-- The arguments are the same. -/
  args : u.args = s.args
  /-- A block is still open, if one was. -/
  levels : s.levels ≠ [] → u.levels ≠ []
  /-- The next line is one of the listing, or the next but one to its last. -/
  next : u.next ≤ s.listing.lines.length + 1
  /-- The line that ran last is one of the listing. -/
  current : u.current < s.listing.lines.length

/-- What moves on from a script that is steady moves on from the script before. -/
theorem Steady.movedOn {s t u : Script} (h : Steady s t) (hargs : t.args = s.args)
    (hmoved : MovedOn t u) : MovedOn s u where
  listing := hmoved.listing.trans h.listing
  stack := hmoved.stack.trans h.stack
  awaited := hmoved.awaited.trans h.awaited
  status := hmoved.status.trans h.status
  args := hmoved.args.trans hargs
  levels hlevels := hmoved.levels (by rwa [h.levels])
  next := h.listing ▸ hmoved.next
  current := h.listing ▸ hmoved.current

section MovedOn

variable {s : Script}

/-- A move within the listing. -/
theorem movedOn_goTo {i : Nat} (hcurrent : s.current < s.listing.lines.length)
    (hi : i ≤ s.listing.lines.length + 1) : MovedOn s (s.goTo i) :=
  ⟨rfl, rfl, rfl, rfl, rfl, id, hi, hcurrent⟩

/-- What moves on with another chain moves on. -/
theorem MovedOn.setChain {c : Chain} {u : Script} (h : MovedOn (s.setChain c) u) : MovedOn s u :=
  ⟨h.listing, h.stack, h.awaited, h.status, h.args,
    fun _ => h.levels (List.cons_ne_nil c s.levels.tail), h.next, h.current⟩

/-- What moves on and opens a block moves on. -/
theorem MovedOn.openBlock {u : Script} (h : MovedOn s u) : MovedOn s u.openBlock :=
  ⟨h.listing, h.stack, h.awaited, h.status, h.args, fun _ => List.cons_ne_nil _ _, h.next,
    h.current⟩

/-- It makes no difference whether a block is closed before or after a move. -/
theorem closeBlock_goTo (s : Script) (i : Nat) : (s.goTo i).closeBlock = s.closeBlock.goTo i := by
  rcases hlevels : s.levels with _ | ⟨x, _ | ⟨y, rest⟩⟩ <;> simp [Script.closeBlock, goTo, hlevels]

/-- The outermost block stays open. -/
theorem MovedOn.closeBlock {u : Script} (h : MovedOn s u) : MovedOn s u.closeBlock := by
  unfold Script.closeBlock
  split
  · exact ⟨h.listing, h.stack, h.awaited, h.status, h.args, fun _ => List.cons_ne_nil _ _, h.next,
      h.current⟩
  · exact h

/-- The body of a conditional on a line of the listing is passed over. -/
theorem movedOn_skipBody (hcurrent : s.current < s.listing.lines.length)
    (hnext : s.next < s.listing.lines.length) (body : Body) : MovedOn s (s.skipBody body) := by
  cases body with
  | inline raw | blockInline raw => exact movedOn_goTo hcurrent (by omega)
  | block =>
    have hlength := blockLength_le 0 (s.listing.kindsFrom s.next)
    rw [Listing.length_kindsFrom] at hlength
    exact movedOn_goTo hcurrent (by omega)
  | next =>
    have hlength := statementLength_le (s.listing.kindsFrom (s.next + 1))
    rw [Listing.length_kindsFrom] at hlength
    exact movedOn_goTo hcurrent (by omega)

/-- The body of a conditional on a line of the listing is entered. -/
theorem movedOn_approachBody (hcurrent : s.current < s.listing.lines.length)
    (hnext : s.next < s.listing.lines.length) (body : Body) :
    MovedOn s (s.approachBody body).1 := by
  cases body with
  | inline raw | blockInline raw => exact movedOn_goTo hcurrent (by omega)
  | block => exact (movedOn_goTo hcurrent (by omega)).openBlock
  | next =>
    have hlength := silentLength_le (s.listing.kindsFrom (s.next + 1))
    rw [Listing.length_kindsFrom] at hlength
    simp only [approachBody]
    split
    · rename_i hkind
      have hi := Listing.lt_of_kind? hkind
      exact (movedOn_goTo hcurrent (by omega)).openBlock
    · rename_i raw hkind
      have hi := Listing.lt_of_kind? hkind
      exact ⟨rfl, rfl, rfl, rfl, rfl, id, by dsimp only; omega, hi⟩
    · exact movedOn_goTo hcurrent (by omega)

/-- Approaching a branch moves on. -/
theorem movedOn_approachBranch (hcurrent : s.current < s.listing.lines.length)
    (hnext : s.next < s.listing.lines.length) (body : Body) (taken : Bool) :
    MovedOn s (s.approachBranch body taken).1 := by
  cases taken with
  | true => exact movedOn_approachBody hcurrent hnext body
  | false => exact movedOn_skipBody hcurrent hnext body

/-- A condition on a line of the listing is judged, and its body entered or passed over. -/
theorem movedOn_judged (hcurrent : s.current < s.listing.lines.length)
    (hnext : s.next < s.listing.lines.length) (cond : Condition) (c : Chain) (body : Body)
    (taken : Bool) :
    MovedOn s (((s.test cond).1.setChain c).approachBranch body taken).1 := by
  have htest := steady_test s cond
  refine htest.movedOn (test_args s cond) (MovedOn.setChain (c := c) ?_)
  refine movedOn_approachBranch ?_ ?_ body taken
  · simpa only [setChain, htest.current, htest.listing] using hcurrent
  · simpa only [setChain, htest.next, htest.listing] using hnext

/-- A line of the listing moves the script on. -/
theorem movedOn_approachLine (hcurrent : s.current < s.listing.lines.length)
    (hnext : s.next < s.listing.lines.length) (line : Line) :
    MovedOn s (s.approachLine line).1 := by
  have hsucc : s.next + 1 ≤ s.listing.lines.length + 1 := by omega
  cases line with
  | blank | comment => exact movedOn_goTo hcurrent hsucc
  | label name =>
    exact MovedOn.setChain (movedOn_goTo (s := s.setChain .absent) hcurrent hsucc)
  | blockStart => exact (movedOn_goTo hcurrent hsucc).openBlock
  | blockEnd =>
    have hclosed := (movedOn_goTo hcurrent hsucc).closeBlock
    rwa [closeBlock_goTo] at hclosed
  | ifLine cond body => exact movedOn_judged hcurrent hnext cond _ body _
  | elseIfLine cond body =>
    simp only [approachLine]
    split
    · exact movedOn_judged hcurrent hnext cond _ body _
    · exact movedOn_skipBody hcurrent hnext body
  | elseLine body =>
    simp only [approachLine]
    split
    · exact MovedOn.setChain
        (movedOn_approachBody (s := s.setChain .taken) hcurrent hnext body)
    · exact movedOn_skipBody hcurrent hnext body
  | command raw =>
    exact MovedOn.setChain (movedOn_goTo (s := s.setChain .absent) hcurrent hsucc)

/-- The next line, if there is one, moves the script on. -/
theorem movedOn_approach {line : Line} (hline : s.listing.kind? s.next = some line) :
    MovedOn s s.approach.1 := by
  have hnext := Listing.lt_of_kind? hline
  have hmoved := movedOn_approachLine (s := { s with current := s.next }) hnext hnext line
  rw [approach, hline]
  exact ⟨hmoved.listing, hmoved.stack, hmoved.awaited, hmoved.status, hmoved.args, hmoved.levels,
    hmoved.next, hmoved.current⟩

end MovedOn

/-- What a line can do: past the last line the script ends, and any other line moves the script on
and then carries out a statement or nothing. -/
theorem step_cases (s : Script) :
    s.step = s.finish ∨
      ∃ u, MovedOn s u ∧ (s.step = u ∨ ∃ statement, s.step = u.perform statement) := by
  rw [step_eq]
  cases hline : s.listing.kind? s.next with
  | none =>
    left
    simp only [approach, hline]
    rfl
  | some line =>
    right
    have hmoved := movedOn_approach hline
    rcases hpair : s.approach with ⟨u, _ | raw⟩
    · rw [hpair] at hmoved
      exact ⟨u, hmoved, .inl rfl⟩
    · rw [hpair] at hmoved
      exact ⟨u, hmoved, .inr ⟨_, rfl⟩⟩

/-- A line leaves the listing. -/
@[simp] theorem step_listing (s : Script) : s.step.listing = s.listing := by
  rcases s.step_cases with hend | ⟨u, hmoved, hquiet | ⟨statement, hperform⟩⟩
  · rw [hend, finish]
  · rw [hquiet, hmoved.listing]
  · rw [hperform, perform_listing, hmoved.listing]

/-- So do several lines. -/
@[simp] theorem runFor_listing (budget : Nat) (s : Script) :
    (s.runFor budget).listing = s.listing := by
  induction budget generalizing s with
  | zero => rfl
  | succ budget ih =>
    rw [runFor]
    split
    · rw [ih, step_listing]
    · rfl

/-- An incoming line changes neither the lines nor the calls. -/
theorem feed_kept (s : Script) (line : Text) :
    (s.feed line).1.listing = s.listing ∧ (s.feed line).1.stack = s.stack := by
  simp only [feed]
  split
  · split
    · exact ⟨rfl, rfl⟩
    · split
      · exact ⟨jump_listing _ _, jump_stack _ _⟩
      · exact ⟨rfl, rfl⟩
  · exact ⟨rfl, rfl⟩

/-- Nor does the end of a wait. -/
theorem timeOut_kept (s : Script) :
    s.timeOut.1.listing = s.listing ∧ s.timeOut.1.stack = s.stack := by
  unfold timeOut
  split <;> exact ⟨rfl, rfl⟩

/-- Nor does the end of a pause. -/
theorem resume_kept (s : Script) :
    s.resume.1.listing = s.listing ∧ s.resume.1.stack = s.stack := by
  unfold resume
  split <;> exact ⟨rfl, rfl⟩

/-- No request changes the lines. -/
@[simp] theorem serve_listing (s : Script) (r : Request) : (s.serve r).listing = s.listing := by
  cases r with
  | start args | shiftArgs => rfl
  | runFor budget => exact runFor_listing budget s
  | feed line => exact (feed_kept s line).1
  | timeOut => exact (timeOut_kept s).1
  | resume => exact (resume_kept s).1
  | stop =>
    simp only [serve, stop]
    split <;> rfl

/-- So do requests. -/
@[simp] theorem after_listing (s : Script) (rs : List Request) :
    (s.after rs).listing = s.listing := by
  induction rs generalizing s with
  | nil => rfl
  | cons r rs ih => rw [after_cons, ih, serve_listing]

end Mudline.Script
