import Mudline.Script.Effect

/-!
# Running scripts

A script runs line by line. A conditional that is not taken is passed over without replacing or
evaluating anything in its body. The run stops when the script waits, ends, or has used up the lines
allowed to it; how the lines are allotted makes no difference to what the script does.
-/

namespace Mudline.Script

/-- Judges a condition. A condition that yields neither truth value shows its report and fails. -/
def test (s : Script) : Condition → Script × Bool
  | .argCount n => (s, n ≤ s.args.length)
  | .expr t =>
    let formula := Formula.parse (s.expandLine t)
    let r := Formula.evalBool (Formula.context s.globals.contains) formula
    let s := s.capture r.groups
    if r.result == "true" then (s, true)
    else if r.result == "false" then (s, false)
    else (s.complain (.badCondition r.result), false)

/-- Goes on at the given line. -/
def goTo (s : Script) (i : Nat) : Script :=
  { s with next := i }

/-- Goes past the body of a conditional that is not taken. -/
def skipBody (s : Script) : Body → Script
  | .inline _ | .blockInline _ => s.goTo (s.next + 1)
  | .block => s.goTo (s.next + blockLength 0 (s.listing.kindsFrom s.next) + 1)
  | .next => s.goTo (s.next + 1 + statementLength (s.listing.kindsFrom (s.next + 1)))

/-- Enters the body of a conditional that is taken. -/
def enterBody (s : Script) : Body → Script
  | .inline statement | .blockInline statement => (s.goTo (s.next + 1)).execute statement
  | .block => (s.goTo (s.next + 1)).openBlock
  | .next =>
    let i := s.next + 1 + silentLength (s.listing.kindsFrom (s.next + 1))
    match s.listing.kind? i with
    | some .blockStart => (s.goTo (i + 1)).openBlock
    | some (.command raw) => { s with next := i + 1, current := i }.execute raw
    | _ => s.goTo i

/-- Enters the body of a conditional or goes past it. -/
def runBody (s : Script) (body : Body) (taken : Bool) : Script :=
  if taken then s.enterBody body else s.skipBody body

/-- Runs one line. -/
def runLine (s : Script) : Line → Script
  | .blank | .comment => s.goTo (s.next + 1)
  | .label _ => (s.setChain .absent).goTo (s.next + 1)
  | .blockStart => s.openBlock.goTo (s.next + 1)
  | .blockEnd => s.closeBlock.goTo (s.next + 1)
  | .ifLine cond body =>
    let (s, taken) := s.test cond
    (s.setChain (.ofTest taken)).runBody body taken
  | .elseIfLine cond body =>
    if s.chain == .untaken then
      let (s, taken) := s.test cond
      (s.setChain (.ofTest taken)).runBody body taken
    else s.runBody body false
  | .elseLine body =>
    if s.chain == .untaken then (s.setChain .taken).runBody body true else s.runBody body false
  | .command raw => ((s.setChain .absent).goTo (s.next + 1)).execute raw

/-- Runs the next line; past the last line the script ends. -/
def step (s : Script) : Script :=
  match s.listing.kind? s.next with
  | some line => { s with current := s.next }.runLine line
  | none => s.finish

/-- Runs at most so many lines, as long as the script is running. -/
def runFor : Nat → Script → Script
  | 0, s => s
  | budget + 1, s => if s.status == .running then runFor budget s.step else s

/-- Makes a script ready to run from its first line. Variables, groups and events stay. -/
def start (s : Script) (args : List Text) : Script :=
  { s with args := args, next := 0, levels := [.absent], stack := [], awaited := []
           status := .running }

/-- How many lines a script may run that is not stopped. -/
def unlimited : Nat := Text.maxWord

/-- Runs a script from its first line until it waits or ends. -/
def run (s : Script) (args : List Text) : Script :=
  (s.start args).runFor unlimited

/-- The first pattern that is waited for and matches a line, with the groups of the match. -/
def hit? (awaited : List Awaited) (line : Text) : Option (Awaited × List Text) :=
  awaited.findSome? fun a => (a.pattern.find? line).map (a, ·)

/-- Offers a line to a script. If the script waits for it, the script goes on, at the label that
belongs to the pattern or at the next line, and waits for nothing else. -/
def feed (s : Script) (line : Text) : Script × Bool :=
  if s.status.listens then
    match hit? s.awaited line with
    | none => (s, false)
    | some (a, groups) =>
      let s := { s with awaited := [], captures := groups, status := .running }
      match a.label with
      | some label => (s.jump label, true)
      | none => (s, true)
  else (s, false)

/-- Ends the wait for one of several patterns. -/
def timeOut (s : Script) : Script × Bool :=
  match s.status with
  | .waitingForMatch _ => ({ s with awaited := [], status := .running }, true)
  | _ => (s, false)

/-- Ends a pause. -/
def resume (s : Script) : Script × Bool :=
  match s.status with
  | .paused _ => ({ s with status := .running }, true)
  | _ => (s, false)

/-- Ends a script from outside. -/
def stop (s : Script) : Script :=
  let s := { s with stack := [] }
  if s.status == .finished then { s with awaited := [] } else s.finish

/-- Collects the events. -/
def drain (s : Script) : Script × List Event :=
  ({ s with events := [] }, s.events)

end Mudline.Script
