import Mudline.Formula.Eval
import Mudline.Script.State
import Mudline.Script.Statement

/-!
# What statements do

Each statement changes the state of the script that runs it. One that cannot be carried out shows a
complaint and changes nothing else, except that a jump to an unknown label ends the script.
-/

namespace Mudline.Script

/-- Goes on at a label. Each jump leaves all blocks; a jump to an unknown label ends the script. -/
def jump (s : Script) (label : Text) : Script :=
  match s.listing.label? label with
  | some i => { s with next := i, levels := [.absent] }
  | none => (s.complain (.unknownLabel label)).finish

/-- The groups that a called label sees: all arguments joined, then each. -/
def callGroups (args : List Text) : List Text :=
  Text.join " " args :: args

/-- Keeps what is needed for the way back, and goes on at a label with new arguments. -/
def call (s : Script) (label : Text) (args : List Text) : Script :=
  let frame : Frame := ⟨s.next, s.levels, s.captures, s.args⟩
  match s.listing.label? label with
  | some _ =>
    { s.jump label with
      stack := frame :: s.stack
      captures := callGroups args
      args := args }
  | none => s.jump label

/-- Comes back from the latest call; without a call the script ends. -/
def comeBack (s : Script) : Script :=
  match s.stack with
  | frame :: stack =>
    { s with
      next := frame.returnTo
      levels := frame.levels
      captures := frame.captures
      args := frame.args
      stack := stack }
  | [] => s.finish

/-- Drops the first argument. -/
def shiftArgs (s : Script) : Script :=
  { s with args := s.args.tail }

/-- Takes over the groups of the matches that a formula made, if it made any. -/
def capture (s : Script) (groups : List Text) : Script :=
  if groups.isEmpty then s else { s with captures := groups }

/-- Sets a variable to the result of a formula. -/
def assign (s : Script) (name : Text) (r : Outcome) : Script :=
  let s := s.capture r.groups
  if name.isEmpty then s.complain .resultWithoutName
  else { s with locals := s.locals.set name r.result }

/-- Changes a number variable. What is no number counts as zero. -/
def math (s : Script) (name operation amount : Text) : Script :=
  let amount := (Number.read? amount).getD 0.0
  match Operation.read? operation with
  | none => s.complain (.unknownOperation operation)
  | some op =>
    if op.divides && amount == 0.0 then s.complain .divisionByZero
    else
      let result := op.apply ((s.locals.number? name).getD 0.0) amount
      { s with locals := s.locals.set name (Number.format result) }

/-- Notes a pattern to wait for. -/
def await (s : Script) (label : Option Text) (mode : Pattern.Mode) (pattern : Text) : Script :=
  match Pattern.compile mode pattern with
  | .ok p => { s with awaited := s.awaited ++ [⟨p, label⟩] }
  | .error e => s.complain (.badPattern e)

/-- Waits for one pattern instead of those noted before. -/
def waitFor (s : Script) (mode : Pattern.Mode) (pattern : Text) : Script :=
  match Pattern.compile mode pattern with
  | .ok p => { s with awaited := [⟨p, none⟩], status := .waitingFor }
  | .error e => { s with awaited := [] }.complain (.badPattern e)

/-- Waits, where the status depends on a number of seconds that must be a duration. -/
def waitSeconds (s : Script) (seconds : Float) (status : Duration → Status) : Script :=
  match Duration.ofSeconds? seconds with
  | some d => { s with status := status d }
  | none => s.fail .durationRange

/-- Carries out a statement. -/
def perform (s : Script) : Statement → Script
  | .nothing => s
  | .echo t => s.emit (.echo (t ++ ['\n']))
  | .send t => s.emit (.send t)
  | .pass t => s.emit (.command t)
  | .setShared name value => { s with globals := s.globals.set name value }
  | .set name value =>
    if name.isEmpty then s.complain .varWithoutName
    else { s with locals := s.locals.set name value }
  | .unset name => { s with locals := s.locals.unset name }
  | .math name operation amount => s.math name operation amount
  | .evalText name t =>
    s.assign name (Formula.evalText (Formula.context s.globals.contains) (Formula.parse t))
  | .evalNumber name t =>
    s.assign name (Formula.evalNumber (Formula.context s.globals.contains) (Formula.parse t))
  | .goto label => s.jump label
  | .gosub label args => s.call label args
  | .comeBack => s.comeBack
  | .shift => s.shiftArgs
  | .exit => s.finish
  | .awaitAt label mode pattern => s.await (some label) mode pattern
  | .matchWait none => { s with status := .waitingForMatch none }
  | .matchWait (some seconds) => s.waitSeconds seconds fun d => .waitingForMatch (some d)
  | .waitFor mode pattern => s.waitFor mode pattern
  | .pause none => { s with status := .paused s.settings.pauseDefault }
  | .pause (some seconds) => s.waitSeconds seconds .paused

/-- Carries out a line after its references have been replaced. -/
def execute (s : Script) (raw : Text) : Script :=
  s.perform (Statement.read (s.expandLine raw))

end Mudline.Script
