import Mudline.Proofs.Script.Frame

/-!
# Places in complaints

A complaint names the line that ran last. The name of the script itself stands in its place where
there is no such line. That this never shows is said by taking the name away: under any other name a
script does and says the same, as long as each complaint is made about a line of the listing.
-/

namespace Mudline.Script

/-- The place of a line: the script it was read from and its number there. -/
def ListedLine.place (line : ListedLine) : Text :=
  line.source.file ++ '(' :: Text.ofNat line.source.number ++ [')']

/-- The line that ran last is one of the listing. -/
def Located (s : Script) : Prop :=
  s.current < s.listing.lines.length

/-- A script that is at a line tells the place of this line. -/
theorem Located.location {s : Script} (h : s.Located) :
    ∃ line, s.listing.lines[s.current]? = some line ∧ s.location = line.place := by
  obtain ⟨line, hline⟩ : ∃ line, s.listing.lines[s.current]? = some line :=
    ⟨_, List.getElem?_eq_getElem h⟩
  exact ⟨line, hline, by rw [Script.location, hline]; rfl⟩

/-- A script that has moved on is at a line. -/
theorem MovedOn.located {s u : Script} (h : MovedOn s u) : u.Located := by
  rw [Located, h.listing]
  exact h.current

/-- The script under another name. -/
def named (s : Script) (name : Text) : Script :=
  { s with listing := { s.listing with name := name } }

section Named

variable {s : Script} (name : Text)

/-- A complaint is the same under another name. -/
theorem Located.complain_named (h : s.Located) (c : Complaint) :
    (s.named name).complain c = (s.complain c).named name := by
  have hlocation : (s.named name).location = s.location := by
    have hline := List.getElem?_eq_getElem h
    simp only [Script.location, named, hline]
  simp only [complain, hlocation]
  rfl

/-- Captures are the same under another name. -/
theorem capture_named (s : Script) (groups : List Text) :
    (s.named name).capture groups = (s.capture groups).named name := by
  unfold capture
  split <;> rfl

/-- What leaves the script steady leaves it at its line. -/
theorem Located.steady {t : Script} (h : s.Located) (hsteady : Steady s t) : t.Located := by
  rwa [Located, hsteady.current, hsteady.listing]

/-- A test is the same under another name. -/
theorem Located.test_named (h : s.Located) (cond : Condition) :
    (s.named name).test cond = ((s.test cond).1.named name, (s.test cond).2) := by
  cases cond with
  | argCount n => rfl
  | expr t =>
    have hexpand : (s.named name).expandLine t = s.expandLine t := rfl
    have hglobals : (s.named name).globals = s.globals := rfl
    have hcaptured (groups : List Text) := h.steady (steady_capture s groups)
    simp only [test, hexpand, hglobals, capture_named]
    split
    · rfl
    · split
      · rfl
      · rw [(hcaptured _).complain_named]

/-- A jump is the same under another name. -/
theorem Located.jump_named (h : s.Located) (label : Text) :
    (s.named name).jump label = (s.jump label).named name := by
  have hsame : (s.named name).listing.label? label = s.listing.label? label := rfl
  simp only [jump, hsame, h.complain_named]
  split <;> rfl

/-- A call is the same under another name. -/
theorem Located.call_named (h : s.Located) (label : Text) (args : List Text) :
    (s.named name).call label args = (s.call label args).named name := by
  have hsame : (s.named name).listing.label? label = s.listing.label? label := rfl
  simp only [call, hsame, h.jump_named]
  split <;> rfl

/-- An assignment is the same under another name. -/
theorem Located.assign_named (h : s.Located) (variableName : Text) (r : Outcome) :
    (s.named name).assign variableName r = (s.assign variableName r).named name := by
  simp only [assign, capture_named]
  split
  · exact (h.steady (steady_capture s _)).complain_named name _
  · rfl

/-- Arithmetic is the same under another name. -/
theorem Located.math_named (h : s.Located) (variableName operation amount : Text) :
    (s.named name).math variableName operation amount =
      (s.math variableName operation amount).named name := by
  have hlocals : (s.named name).locals = s.locals := rfl
  simp only [math, hlocals]
  split
  · exact h.complain_named name _
  · split
    · exact h.complain_named name _
    · rfl

/-- A pattern to wait for is the same under another name. -/
theorem Located.await_named (h : s.Located) (label : Option Text) (mode : Pattern.Mode)
    (pattern : Text) :
    (s.named name).await label mode pattern = (s.await label mode pattern).named name := by
  simp only [await]
  split
  · rfl
  · exact h.complain_named name _

/-- Waiting for a single pattern is the same under another name. -/
theorem Located.waitFor_named (h : s.Located) (mode : Pattern.Mode) (pattern : Text) :
    (s.named name).waitFor mode pattern = (s.waitFor mode pattern).named name := by
  have hcleared : Located { s with awaited := [] } := h
  simp only [waitFor]
  split
  · rfl
  · exact hcleared.complain_named name _

/-- A return is the same under another name. -/
theorem comeBack_named (s : Script) : (s.named name).comeBack = s.comeBack.named name := by
  have hstack : (s.named name).stack = s.stack := rfl
  simp only [comeBack, hstack]
  split <;> rfl

/-- A wait is the same under another name. -/
theorem waitSeconds_named (s : Script) (seconds : Float) (status : Duration → Status) :
    (s.named name).waitSeconds seconds status = (s.waitSeconds seconds status).named name := by
  simp only [waitSeconds]
  split <;> rfl

/-- A statement on a line of the listing does the same under any name. -/
theorem Located.perform_named (h : s.Located) (statement : Statement) :
    (s.named name).perform statement = (s.perform statement).named name := by
  cases statement with
  | nothing | echo _ | send _ | pass _ | setShared _ _ | unset _ | shift | exit => rfl
  | set variableName value =>
    simp only [perform]
    split
    · exact h.complain_named name _
    · rfl
  | math variableName operation amount => exact h.math_named name _ _ _
  | evalText variableName t | evalNumber variableName t => exact h.assign_named name _ _
  | goto label => exact h.jump_named name label
  | gosub label args => exact h.call_named name label args
  | comeBack => exact comeBack_named name s
  | awaitAt label mode pattern => exact h.await_named name _ mode pattern
  | matchWait seconds | pause seconds =>
    cases seconds with
    | none => rfl
    | some seconds => exact waitSeconds_named name s seconds _
  | waitFor mode pattern => exact h.waitFor_named name mode pattern

/-- A body is skipped in the same way under another name. -/
theorem skipBody_named (s : Script) (body : Body) :
    (s.named name).skipBody body = (s.skipBody body).named name := by
  cases body <;> rfl

/-- A line up to its command, under another name. -/
def namedPair (p : Script × Option Text) : Script × Option Text :=
  (p.1.named name, p.2)

/-- A body is approached in the same way under another name. -/
theorem approachBody_named (s : Script) (body : Body) :
    (s.named name).approachBody body = namedPair name (s.approachBody body) := by
  cases body with
  | inline _ | blockInline _ | block => rfl
  | next =>
    have hkinds (i : Nat) : (s.named name).listing.kindsFrom i = s.listing.kindsFrom i := rfl
    have hkind (i : Nat) : (s.named name).listing.kind? i = s.listing.kind? i := rfl
    have hnext : (s.named name).next = s.next := rfl
    simp only [approachBody, hkinds, hkind, hnext]
    split <;> rfl

/-- A branch is approached in the same way under another name. -/
theorem approachBranch_named (s : Script) (body : Body) (taken : Bool) :
    (s.named name).approachBranch body taken = namedPair name (s.approachBranch body taken) := by
  cases taken with
  | true => exact approachBody_named name s body
  | false => exact congrArg (·, none) (skipBody_named name s body)

/-- A line is approached in the same way under another name. -/
theorem Located.approachLine_named (h : s.Located) (line : Line) :
    (s.named name).approachLine line = namedPair name (s.approachLine line) := by
  have hchain : (s.named name).chain = s.chain := rfl
  have hset (t : Script) (c : Chain) : (t.named name).setChain c = (t.setChain c).named name := rfl
  cases line with
  | blank | comment | label _ | blockStart | command _ => rfl
  | blockEnd =>
    have hclose : (s.named name).closeBlock = s.closeBlock.named name := by
      have hlevels : (s.named name).levels = s.levels := rfl
      simp only [closeBlock, hlevels]
      split <;> rfl
    simp only [approachLine, runLine, hclose]
    rfl
  | ifLine cond body =>
    simp only [approachLine, h.test_named, hset]
    exact approachBranch_named name _ body _
  | elseIfLine cond body =>
    simp only [approachLine, hchain, h.test_named, hset, skipBody_named]
    split
    · exact approachBranch_named name _ body _
    · rfl
  | elseLine body =>
    simp only [approachLine, hchain, hset, skipBody_named]
    split
    · exact approachBody_named name _ body
    · rfl

/-- A line of the listing does the same under any name. -/
theorem step_named (s : Script) : (s.named name).step = s.step.named name := by
  rw [step_eq, step_eq]
  have hkind : (s.named name).listing.kind? (s.named name).next = s.listing.kind? s.next := rfl
  cases hline : s.listing.kind? s.next with
  | none =>
    simp only [approach, hkind, hline]
    rfl
  | some line =>
    have hlocated : Located { s with current := s.next } := Listing.lt_of_kind? hline
    have happroach : (s.named name).approach = namedPair name s.approach := by
      simp only [approach, hkind, hline]
      exact hlocated.approachLine_named name line
    have hmoved := movedOn_approach hline
    rw [happroach]
    rcases hpair : s.approach with ⟨u, _ | raw⟩
    · rfl
    · rw [hpair] at hmoved
      exact hmoved.located.perform_named name _

/-- A run is the same under another name. -/
theorem runFor_named (budget : Nat) (s : Script) :
    (s.named name).runFor budget = (s.runFor budget).named name := by
  induction budget generalizing s with
  | zero => rfl
  | succ budget ih =>
    have hstatus : (s.named name).status = s.status := rfl
    rw [runFor, runFor, hstatus]
    split
    · rw [step_named, ih]
    · rfl

/-- A line that comes in does the same under any name, if a line has run whenever a pattern is
waited for. -/
theorem feed_named {s : Script} (h : s.awaited ≠ [] → s.Located) (line : Text) :
    (s.named name).feed line = ((s.feed line).1.named name, (s.feed line).2) := by
  have hstatus : (s.named name).status = s.status := rfl
  have hawaited : (s.named name).awaited = s.awaited := rfl
  simp only [feed, hstatus, hawaited]
  split
  · split
    · rfl
    · rename_i a groups hhit
      -- Only a jump to an unknown label complains, and a pattern was waited for before it.
      have hsome : s.awaited ≠ [] := by
        rintro hnone
        rw [hnone] at hhit
        simp [hit?] at hhit
      have hlocated : Located { s with awaited := [], captures := groups, status := .running } :=
        h hsome
      split
      · rw [← hlocated.jump_named]
        rfl
      · rfl
  · rfl

/-- A request is served alike under any name. -/
theorem serve_named {s : Script} (h : s.awaited ≠ [] → s.Located) (r : Request) :
    (s.named name).serve r = (s.serve r).named name := by
  have hstatus : (s.named name).status = s.status := rfl
  cases r with
  | start args | shiftArgs => rfl
  | runFor budget => exact runFor_named name budget s
  | feed line => exact congrArg Prod.fst (feed_named name h line)
  | timeOut =>
    simp only [serve, timeOut, hstatus]
    split <;> rfl
  | resume =>
    simp only [serve, resume, hstatus]
    split <;> rfl
  | stop =>
    simp only [serve, stop, hstatus]
    split <;> rfl

end Named

end Mudline.Script
