import Mudline.Proofs.Script.Frame

/-!
# Coming back from a call

A call keeps where the script stands, and what it keeps is what the script comes back to. In between
the callee may go anywhere, wait, be woken and call on: each line and each request keeps the calls
that are open and perhaps makes one more, comes back from the latest, or gives up all of them. So as
long as more calls are open than before the call, the frame of the call lies untouched on those
below it, and the line that comes back to their number takes just this frame.
-/

namespace Mudline.Script

/-- What a single line or request may do to the calls: keep them, with some more perhaps, come back
from the latest, or give them all up. -/
def MayCall (s t : Script) : Prop :=
  s.stack <:+ t.stack ∨ t.stack = s.stack.tail ∨ t.stack = []

/-- What leaves the calls as they are may be a call. -/
theorem mayCall_of_eq {s t : Script} (h : t.stack = s.stack) : MayCall s t :=
  .inl (h ▸ List.suffix_rfl)

/-- A statement adds one call at most. -/
theorem mayCall_perform (s : Script) (statement : Statement) : MayCall s (s.perform statement) := by
  cases hjump : statement.isJump with
  | false => exact mayCall_of_eq (perform_kept s hjump).2
  | true =>
    cases statement with
    | goto label => exact mayCall_of_eq (jump_stack s label)
    | gosub label args =>
      simp only [perform, call]
      split
      · exact .inl (List.suffix_cons _ _)
      · exact mayCall_of_eq (jump_stack s label)
    | comeBack =>
      simp only [perform, comeBack]
      split
      · rename_i hstack
        exact .inr (.inl (by simp [hstack]))
      · exact mayCall_of_eq rfl
    | _ => simp [Statement.isJump] at hjump

/-- A line adds one call at most. -/
theorem mayCall_step (s : Script) : MayCall s s.step := by
  rcases s.step_cases with hend | ⟨u, hmoved, hquiet | ⟨statement, hperform⟩⟩
  · exact mayCall_of_eq (by rw [hend, finish])
  · exact mayCall_of_eq (by rw [hquiet, hmoved.stack])
  · have hcalls := mayCall_perform u statement
    rwa [MayCall, hmoved.stack, ← hperform] at hcalls

/-- Whether a request runs one line, or none at all. -/
def Request.isSingle : Request → Bool
  | .runFor budget => budget == 1
  | _ => true

/-- What requests are split into runs at most one line each. -/
theorem Request.isSingle_of_mem {rs : List Request} {r : Request}
    (h : r ∈ rs.flatMap Request.singly) : r.isSingle = true := by
  obtain ⟨q, -, hr⟩ := List.mem_flatMap.mp h
  cases q with
  | runFor budget =>
    obtain rfl := List.eq_of_mem_replicate hr
    rfl
  | start _ | feed _ | timeOut | resume | stop | shiftArgs =>
    obtain rfl := List.mem_singleton.mp hr
    rfl

/-- A request for at most one line adds one call at most. -/
theorem mayCall_serve (s : Script) {r : Request} (hr : r.isSingle = true) :
    MayCall s (s.serve r) := by
  cases r with
  | start args => exact .inr (.inr rfl)
  | runFor budget =>
    obtain rfl : budget = 1 := by simpa [Request.isSingle] using hr
    rw [serve, runFor_one]
    split
    · exact mayCall_step s
    · exact mayCall_of_eq rfl
  | feed line => exact mayCall_of_eq (feed_kept s line).2
  | timeOut => exact mayCall_of_eq (timeOut_kept s).2
  | resume => exact mayCall_of_eq (resume_kept s).2
  | stop =>
    refine .inr (.inr ?_)
    simp only [serve, stop]
    split <;> rfl
  | shiftArgs => exact mayCall_of_eq rfl

/-- As long as more calls are open than those below a frame, the frame stays where it is. -/
theorem MayCall.suffix {s t : Script} (h : MayCall s t) {frame : Frame} {base : List Frame}
    (hframe : frame :: base <:+ s.stack) (hdeep : base.length < t.stack.length) :
    frame :: base <:+ t.stack := by
  rcases h with hkept | hback | hnone
  · exact hframe.trans hkept
  · rcases hstack : s.stack with _ | ⟨latest, rest⟩
    · simp [hback, hstack] at hdeep
    · rw [hstack, List.tail_cons] at hback
      rw [hstack, ← hback] at hframe
      -- Coming back from the frame itself would leave no more calls than those below it.
      rcases List.suffix_cons_iff.mp hframe with hall | hrest
      · obtain ⟨-, hsame⟩ := List.cons.inj hall
        rw [← hsame] at hdeep
        exact absurd hdeep (Nat.lt_irrefl _)
      · exact hrest
  · simp [hnone] at hdeep

/-- The same of single requests in a row, if it is so after each of them. -/
theorem suffix_after {s : Script} {ms : List Request} (hsingle : ∀ r ∈ ms, r.isSingle = true)
    {frame : Frame} {base : List Frame} (hframe : frame :: base <:+ s.stack)
    (hdeep : ∀ ps, ps <+: ms → base.length < (s.after ps).stack.length) :
    frame :: base <:+ (s.after ms).stack := by
  induction ms generalizing s with
  | nil => exact hframe
  | cons r ms ih =>
    rw [List.forall_mem_cons] at hsingle
    have hfirst : base.length < (s.serve r).stack.length :=
      hdeep [r] (List.cons_prefix_cons.mpr ⟨rfl, List.nil_prefix⟩)
    refine ih hsingle.2 ((mayCall_serve s hsingle.1).suffix hframe hfirst) fun ps hps => ?_
    exact hdeep (r :: ps) (List.cons_prefix_cons.mpr ⟨rfl, hps⟩)

/-- The command that stands on the line of a body itself. -/
def Body.inline? : Body → Option Text
  | .inline raw | .blockInline raw => some raw
  | _ => none

/-- The command that stands on a line itself. -/
def Line.command? : Line → Option Text
  | .command raw => some raw
  | line => line.body?.bind Body.inline?

/-- The index of the next line that is not silent. -/
def belowNext (s : Script) : Nat :=
  s.next + 1 + silentLength (s.listing.kindsFrom (s.next + 1))

/-- The script comes to the command in a body, on the line itself or on the next line that is not
silent, and goes on behind it. -/
structure EntersAt (s u : Script) (body : Body) (raw : Text) : Prop where
  /-- It goes on behind the line of the command. -/
  next : u.next = u.current + 1
  /-- The blocks are the same. -/
  levels : u.levels = s.levels
  /-- The line of the command. -/
  place : body.inline? = some raw ∧ u.current = s.next ∨
    body = .next ∧ u.current = s.belowNext ∧ s.listing.kind? u.current = some (.command raw)

/-- The command that a body leads to stands in it or below it. -/
theorem entersAt_of_approachBody {s u : Script} {body : Body} {raw : Text}
    (hcurrent : s.current = s.next) (h : s.approachBody body = (u, some raw)) :
    EntersAt s u body raw := by
  cases body with
  | inline statement | blockInline statement =>
    obtain ⟨rfl, hraw⟩ := Prod.mk.inj h
    obtain rfl := Option.some.inj hraw
    exact ⟨congrArg (· + 1) hcurrent.symm, rfl, .inl ⟨rfl, hcurrent⟩⟩
  | block => simp [approachBody] at h
  | next =>
    simp only [approachBody] at h
    split at h
    · simp at h
    · rename_i hkind
      obtain ⟨rfl, hraw⟩ := Prod.mk.inj h
      obtain rfl := Option.some.inj hraw
      exact ⟨rfl, rfl, .inr ⟨rfl, rfl, hkind⟩⟩
    · simp at h

/-- The command that a line carries out stands on the line itself or, if the line is a conditional,
perhaps on the next line that is not silent. The script goes on behind the command, and in its block
a conditional leaves a chain of which a branch has been taken, and any other line leaves none. -/
structure CommandAt (s u : Script) (line : Line) (raw : Text) : Prop where
  /-- It goes on behind the line of the command. -/
  next : u.next = u.current + 1
  /-- The chain of the innermost block. -/
  levels : u.levels = (if line.isConditional then .taken else .absent) :: s.levels.tail
  /-- The line of the command. -/
  place : line.command? = some raw ∧ u.current = s.next ∨
    line.takesNext = true ∧ u.current = s.belowNext ∧
      s.listing.kind? u.current = some (.command raw)

/-- A conditional comes to a command only by taking its branch. -/
theorem EntersAt.commandAt {s t u : Script} {line : Line} {body : Body} {raw : Text}
    (h : EntersAt (t.setChain .taken) u body raw) (hsteady : Steady s t)
    (hbody : line.body? = some body) : CommandAt s u line raw := by
  have hlisting := hsteady.listing
  have hnext := hsteady.next
  have hbelow : (t.setChain .taken).belowNext = s.belowNext := by
    simp only [belowNext, setChain, hlisting, hnext]
  refine ⟨h.next, ?_, ?_⟩
  · rw [Line.isConditional, hbody, h.levels, setChain, hsteady.levels]
    rfl
  · rcases h.place with ⟨hinline, hcurrent⟩ | ⟨hbelow', hcurrent, hkind⟩
    · refine .inl ⟨?_, hcurrent.trans hnext⟩
      cases line <;> simp_all [Line.command?, Line.body?]
    · refine .inr ⟨?_, hcurrent.trans hbelow, hlisting ▸ hkind⟩
      rw [Line.takesNext, hbody, hbelow']
      rfl

/-- The command that a branch leads to belongs to its line. -/
theorem commandAt_of_approachBranch {s u : Script} {line : Line} {body : Body} {raw : Text}
    {cond : Condition} (hcurrent : s.current = s.next) (hbody : line.body? = some body)
    (h : ((s.test cond).1.setChain (.ofTest (s.test cond).2)).approachBranch body (s.test cond).2 =
      (u, some raw)) : CommandAt s u line raw := by
  have hsteady := steady_test s cond
  cases htaken : (s.test cond).2 with
  | true =>
    rw [htaken] at h
    have hstands : (s.test cond).1.current = (s.test cond).1.next := by
      rw [hsteady.current, hsteady.next, hcurrent]
    exact (entersAt_of_approachBody (s := (s.test cond).1.setChain .taken) hstands h).commandAt
      hsteady hbody
  | false =>
    rw [htaken] at h
    simp [approachBranch] at h

/-- The command that a line leads to belongs to it. -/
theorem commandAt_of_approachLine {s u : Script} {line : Line} {raw : Text}
    (hcurrent : s.current = s.next) (h : s.approachLine line = (u, some raw)) :
    CommandAt s u line raw := by
  cases line with
  | blank | comment | label _ | blockStart | blockEnd => simp [approachLine] at h
  | ifLine cond body => exact commandAt_of_approachBranch hcurrent rfl h
  | elseIfLine cond body =>
    simp only [approachLine] at h
    split at h
    · exact commandAt_of_approachBranch hcurrent rfl h
    · simp at h
  | elseLine body =>
    simp only [approachLine] at h
    split at h
    · exact (entersAt_of_approachBody (s := s.setChain .taken) hcurrent h).commandAt (.refl s) rfl
    · simp at h
  | command statement =>
    obtain ⟨rfl, hraw⟩ := Prod.mk.inj h
    obtain rfl := Option.some.inj hraw
    exact ⟨congrArg (· + 1) hcurrent.symm, rfl, .inl ⟨rfl, hcurrent⟩⟩

/-- A script that issues a statement has moved on. -/
theorem Issues.movedOn {s u : Script} {statement : Statement} (h : s.Issues u statement) :
    MovedOn s u := by
  obtain ⟨-, raw, happroach, -⟩ := h
  cases hline : s.listing.kind? s.next with
  | none => simp [approach, hline] at happroach
  | some line =>
    have hmoved := movedOn_approach hline
    rwa [happroach] at hmoved

/-- The statement of a line is read from the command that the line comes to. -/
theorem Issues.commandAt {s u : Script} {statement : Statement} (h : s.Issues u statement) :
    ∃ line raw, s.listing.kind? s.next = some line ∧ CommandAt s u line raw ∧
      Statement.read (u.expandLine raw) = statement := by
  obtain ⟨-, raw, happroach, hread⟩ := h
  cases hline : s.listing.kind? s.next with
  | none => simp [approach, hline] at happroach
  | some line =>
    rw [approach, hline] at happroach
    have hat := commandAt_of_approachLine (s := { s with current := s.next }) rfl happroach
    exact ⟨line, raw, rfl, ⟨hat.next, hat.levels, hat.place⟩, hread⟩

/-- Running one line is a step of a script that issues a statement. -/
theorem Issues.serve_one {s u : Script} {statement : Statement} (h : s.Issues u statement) :
    s.serve (.runFor 1) = s.step := by
  have hrunning : (s.status == .running) = true := by simpa using h.1
  rw [serve, runFor_one, if_pos hrunning]

/-- What a call of a label that there is leaves: the callee with its arguments and its groups, and
the caller on the calls. -/
theorem Issues.step_gosub {s u : Script} {label : Text} {args : List Text} {i : Nat}
    (h : s.Issues u (.gosub label args)) (hknown : s.listing.label? label = some i) :
    s.step = { u with
      next := i
      levels := [.absent]
      captures := Text.join " " args :: args
      args := args
      stack := ⟨u.next, u.levels, u.captures, s.args⟩ :: s.stack } := by
  have hlisting := h.movedOn.listing
  have hargs := h.movedOn.args
  have hstack := h.movedOn.stack
  rw [h.step]
  simp only [perform, call, jump, callGroups, hlisting, hknown, hargs, hstack]

/-- The way back restores the latest call. -/
theorem Issues.step_comeBack {s v : Script} {frame : Frame} {rest : List Frame}
    (h : s.Issues v .comeBack) (hstack : s.stack = frame :: rest) :
    s.step = { v with
      next := frame.returnTo
      levels := frame.levels
      captures := frame.captures
      args := frame.args
      stack := rest } := by
  have hlatest : v.stack = frame :: rest := h.movedOn.stack.trans hstack
  rw [h.step]
  simp only [perform, comeBack, hlatest]

/-- A script that calls a part of itself comes back to where it was. Of a run `rs`, whose lines are
looked at one by one, the first line makes the call, more calls are open than before during all of
`ms`, and then a line comes back to as many as before. The rest of the run then begins behind the
command that called, in the blocks, with the groups, the arguments and the other calls of the
caller. -/
theorem call_comes_back {s u v : Script} {label : Text} {args : List Text} {i : Nat}
    {rs ms ns : List Request} (hcall : s.Issues u (.gosub label args))
    (hknown : s.listing.label? label = some i)
    (hrun : rs.flatMap Request.singly = .runFor 1 :: (ms ++ .runFor 1 :: ns))
    (hinside : ∀ ps, ps <+: ms → s.stack.length < (s.step.after ps).stack.length)
    (hreturn : (s.step.after ms).Issues v .comeBack)
    (hback : (s.step.after ms).step.stack.length = s.stack.length) :
    (∃ line raw, s.listing.kind? s.next = some line ∧ CommandAt s u line raw ∧
      Statement.read (u.expandLine raw) = .gosub label args) ∧
    s.step = { u with
      next := i
      levels := [.absent]
      captures := Text.join " " args :: args
      args := args
      stack := ⟨u.next, u.levels, u.captures, s.args⟩ :: s.stack } ∧
    (s.step.after ms).step = { v with
      next := u.next
      levels := u.levels
      captures := u.captures
      args := s.args
      stack := s.stack } ∧
    s.after rs = (s.step.after ms).step.after ns := by
  have hcalled := hcall.step_gosub hknown
  have hsingle : ∀ r ∈ ms, r.isSingle = true := by
    intro r hr
    have hmem : r ∈ rs.flatMap Request.singly := by simp [hrun, hr]
    exact Request.isSingle_of_mem hmem
  have hframe : ⟨u.next, u.levels, u.captures, s.args⟩ :: s.stack <:+ (s.step.after ms).stack :=
    suffix_after hsingle (by simp [hcalled]) hinside
  refine ⟨hcall.commandAt, hcalled, ?_, ?_⟩
  · -- The way back takes one call away, so the frame of this call must be the latest.
    obtain ⟨more, hmore⟩ := hframe
    rcases hlatest : (s.step.after ms).stack with _ | ⟨latest, rest⟩
    · simp [hlatest] at hmore
    · have hrest : rest.length = s.stack.length := by
        simpa [hreturn.step_comeBack hlatest] using hback
      have hsame : ⟨u.next, u.levels, u.captures, s.args⟩ :: s.stack = latest :: rest :=
        List.IsSuffix.eq_of_length ⟨more, hmore.trans hlatest⟩ (by simp [hrest])
      obtain ⟨rfl, rfl⟩ := List.cons.inj hsame
      exact hreturn.step_comeBack hlatest
  · rw [← after_singly, hrun, after_cons, after_append, after_cons, hcall.serve_one,
      hreturn.serve_one]

/-- A script with one argument, ready to run, that calls a part of itself in the body of a
conditional. That part waits for a goblin and calls another part. -/
def sentryScript : Script where
  listing := {
    name := "sentry"
    lines :=
      [.ifLine (.argCount 1) .next, .command "gosub look %1 twice",
        .elseLine (.inline "echo alone"), .command "exit", .label "look", .command "shift",
        .command "match found goblin", .command "matchwait", .label "found",
        .command "gosub rest", .command "return", .label "rest", .command "return"].map
      fun kind => ⟨⟨[], "sentry", 1⟩, kind⟩
    labels := [("rest", 11), ("found", 8), ("look", 4)] }
  args := ["gate"]
  status := .running

/-- What is asked of the sentry after its call, line by line, until it comes back. -/
def sentryWatch : List Request :=
  List.replicate 5 (.runFor 1) ++ .feed "A goblin arrives." :: List.replicate 4 (.runFor 1)

/-- A sentry is called, calls another, waits, and comes back with all that it had. -/
theorem call_comes_back_sentry :
    ∃ u v, sentryScript.Issues u (.gosub "look" ["gate", "twice"]) ∧
      (∀ ps, ps <+: sentryWatch → 0 < (sentryScript.step.after ps).stack.length) ∧
      (sentryScript.step.after sentryWatch).Issues v .comeBack ∧
      (sentryScript.step.after sentryWatch).step = { v with
        next := 2
        levels := [.taken]
        captures := []
        args := ["gate"]
        stack := [] } ∧
      sentryScript.after [.runFor 6, .feed "A goblin arrives.", .runFor 9] =
        (sentryScript.step.after sentryWatch).step.after (List.replicate 4 (.runFor 1)) := by
  have hcall : sentryScript.Issues sentryScript.approach.1 (.gosub "look" ["gate", "twice"]) :=
    ⟨rfl, "gosub look %1 twice", rfl, rfl⟩
  have hreturn : (sentryScript.step.after sentryWatch).Issues
      (sentryScript.step.after sentryWatch).approach.1 .comeBack :=
    ⟨by decide +kernel, "return", by rfl, by rfl⟩
  have hinside : ∀ ps, ps <+: sentryWatch → 0 < (sentryScript.step.after ps).stack.length := by
    have hfronts : ∀ n < sentryWatch.length + 1,
        0 < (sentryScript.step.after (sentryWatch.take n)).stack.length := by
      decide +kernel
    intro ps hps
    rw [List.prefix_iff_eq_take.mp hps]
    exact hfronts _ (Nat.lt_succ_of_le hps.length_le)
  have hrun : [.runFor 6, .feed "A goblin arrives.", .runFor 9].flatMap Request.singly =
      .runFor 1 :: (sentryWatch ++ .runFor 1 :: List.replicate 4 (.runFor 1)) := rfl
  obtain ⟨-, -, hback, hrest⟩ :=
    call_comes_back hcall rfl hrun hinside hreturn (by decide +kernel)
  exact ⟨_, _, hcall, hinside, hreturn, hback, hrest⟩

end Mudline.Script
