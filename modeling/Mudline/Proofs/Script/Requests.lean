import Mudline.Proofs.Script.Structured

/-!
# Requests to a script

Whoever runs a script talks to it by a handful of requests: to begin, to run some lines, to take an
incoming line, to go on after a wait. This file names them, so that what holds of a script can be
said of every sequence of them. A request to run some lines is as good as that many requests to run
one, so nothing is lost by looking at a run line by line.

A line does two things. It moves the script on, judging its condition if it has one, and then it
carries out a command, if there is one to carry out. The script between the two is what the command
finds, and what a call keeps for the way back.
-/

namespace Mudline.Script

/-- Something that is asked of a script. -/
inductive Request
  /-- To begin with the first line. -/
  | start (args : List Text)
  /-- To run at most so many lines. -/
  | runFor (budget : Nat)
  /-- To take an incoming line. -/
  | feed (line : Text)
  /-- To wait for matches no longer. -/
  | timeOut
  /-- To end a pause. -/
  | resume
  /-- To end. -/
  | stop
  /-- To drop the first argument. -/
  | shiftArgs
  deriving DecidableEq, Repr

/-- Whether a request makes the script begin. -/
def Request.isStart : Request → Bool
  | .start _ => true
  | _ => false

/-- The script after a request. -/
def serve (s : Script) : Request → Script
  | .start args => s.start args
  | .runFor budget => s.runFor budget
  | .feed line => (s.feed line).1
  | .timeOut => s.timeOut.1
  | .resume => s.resume.1
  | .stop => s.stop
  | .shiftArgs => s.shiftArgs

/-- The script after several requests. -/
def after (s : Script) (rs : List Request) : Script :=
  rs.foldl serve s

/-- Nothing is asked of the script. -/
@[simp] theorem after_nil (s : Script) : s.after [] = s := rfl

/-- The first request comes before the others. -/
@[simp] theorem after_cons (s : Script) (r : Request) (rs : List Request) :
    s.after (r :: rs) = (s.serve r).after rs := rfl

/-- Requests may be cut in two. -/
theorem after_append (s : Script) (rs qs : List Request) :
    s.after (rs ++ qs) = (s.after rs).after qs :=
  List.foldl_append

/-- The requests that a request is made of, where lines are run one at a time. -/
def Request.singly : Request → List Request
  | .runFor budget => List.replicate budget (.runFor 1)
  | r => [r]

/-- A run of one line is a step of a running script. -/
theorem runFor_one (s : Script) :
    s.runFor 1 = if s.status == .running then s.step else s := by
  rw [runFor]
  split <;> rfl

/-- A script that does not run stays as it is, whatever the budget. -/
theorem runFor_of_not_running {s : Script} (h : s.status ≠ .running) (budget : Nat) :
    s.runFor budget = s := by
  cases budget with
  | zero => rfl
  | succ budget =>
    rw [runFor, if_neg]
    simpa using h

/-- A budget can be used up line by line. -/
theorem runFor_succ (s : Script) (budget : Nat) :
    s.runFor (budget + 1) = (s.runFor 1).runFor budget := by
  rw [runFor_one, runFor]
  split
  · rfl
  · rename_i hstill
    have hidle : s.status ≠ .running := by simpa using hstill
    rw [runFor_of_not_running hidle]

/-- A run is as many runs of one line. -/
theorem after_replicate_runFor (s : Script) (budget : Nat) :
    s.after (List.replicate budget (.runFor 1)) = s.runFor budget := by
  induction budget generalizing s with
  | zero => rfl
  | succ budget ih =>
    rw [List.replicate_succ, after_cons, ih, runFor_succ]
    rfl

/-- What is asked line by line is done as if it were asked at once. -/
theorem after_singly (s : Script) (rs : List Request) :
    s.after (rs.flatMap Request.singly) = s.after rs := by
  induction rs generalizing s with
  | nil => rfl
  | cons r rs ih =>
    rw [List.flatMap_cons, after_append, ih, after_cons]
    cases r with
    | runFor budget => rw [Request.singly, after_replicate_runFor]; rfl
    | start _ | feed _ | timeOut | resume | stop | shiftArgs => rfl

/-- Enters the body of a conditional, up to the command that it consists of. -/
def approachBody (s : Script) : Body → Script × Option Text
  | .inline raw | .blockInline raw => (s.goTo (s.next + 1), some raw)
  | .block => ((s.goTo (s.next + 1)).openBlock, none)
  | .next =>
    let i := s.next + 1 + silentLength (s.listing.kindsFrom (s.next + 1))
    match s.listing.kind? i with
    | some .blockStart => ((s.goTo (i + 1)).openBlock, none)
    | some (.command raw) => ({ s with next := i + 1, current := i }, some raw)
    | _ => (s.goTo i, none)

/-- Enters the body of a conditional or goes past it, up to the command of the body. -/
def approachBranch (s : Script) (body : Body) (taken : Bool) : Script × Option Text :=
  if taken then s.approachBody body else (s.skipBody body, none)

/-- Runs a line up to the command that it carries out. -/
def approachLine (s : Script) : Line → Script × Option Text
  | .ifLine cond body =>
    let (s, taken) := s.test cond
    (s.setChain (.ofTest taken)).approachBranch body taken
  | .elseIfLine cond body =>
    if s.chain == .untaken then
      let (s, taken) := s.test cond
      (s.setChain (.ofTest taken)).approachBranch body taken
    else (s.skipBody body, none)
  | .elseLine body =>
    if s.chain == .untaken then (s.setChain .taken).approachBody body else (s.skipBody body, none)
  | .command raw => ((s.setChain .absent).goTo (s.next + 1), some raw)
  | line => (s.runLine line, none)

/-- Runs the next line up to the command that it carries out. Past the last line the script ends. -/
def approach (s : Script) : Script × Option Text :=
  match s.listing.kind? s.next with
  | some line => { s with current := s.next }.approachLine line
  | none => (s.finish, none)

/-- Carries out the command that a line has come to. -/
def obey : Script × Option Text → Script
  | (s, some raw) => s.execute raw
  | (s, none) => s

/-- A body is entered by obeying the command that it leads to. -/
theorem enterBody_eq (s : Script) (body : Body) :
    s.enterBody body = obey (s.approachBody body) := by
  cases body with
  | inline raw | blockInline raw | block => rfl
  | next =>
    simp only [enterBody, approachBody]
    generalize s.next + 1 + silentLength (s.listing.kindsFrom (s.next + 1)) = i
    cases s.listing.kind? i with
    | none => rfl
    | some line => cases line <;> rfl

/-- A branch is run by obeying the command that it leads to. -/
theorem runBody_eq (s : Script) (body : Body) (taken : Bool) :
    s.runBody body taken = obey (s.approachBranch body taken) := by
  cases taken with
  | true => exact s.enterBody_eq body
  | false => rfl

/-- A line is run by obeying the command that it leads to. -/
theorem runLine_eq (s : Script) (line : Line) : s.runLine line = obey (s.approachLine line) := by
  cases line with
  | blank | comment | label _ | blockStart | blockEnd | command _ => rfl
  | ifLine cond body => exact runBody_eq _ _ _
  | elseIfLine cond body =>
    simp only [runLine, approachLine]
    split
    · exact runBody_eq _ _ _
    · rfl
  | elseLine body =>
    simp only [runLine, approachLine]
    split
    · exact enterBody_eq _ _
    · rfl

/-- A line is what it does up to its command, and then its command. -/
theorem step_eq (s : Script) : s.step = obey s.approach := by
  rw [step, approach]
  cases s.listing.kind? s.next with
  | none => rfl
  | some line => exact runLine_eq _ line

/-- The next line of a running script carries out a statement, which finds the script as it is in
the second. -/
def Issues (s u : Script) (statement : Statement) : Prop :=
  s.status = .running ∧
    ∃ raw, s.approach = (u, some raw) ∧ Statement.read (u.expandLine raw) = statement

/-- A step performs the statement that is issued. -/
theorem Issues.step {s u : Script} {statement : Statement} (h : s.Issues u statement) :
    s.step = u.perform statement := by
  obtain ⟨-, raw, happroach, rfl⟩ := h
  rw [step_eq, happroach]
  rfl

end Mudline.Script
