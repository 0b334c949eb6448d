import Mudline.Proofs.Script.Fault

/-!
# Scripts that are started again

A script that is started goes back to its first line, leaves all blocks and calls, and waits for
nothing. It also takes over the arguments. But it keeps its variables and the groups of its last
match. So a script that is started again does what a fresh copy of it would do with these variables
and groups, and it does what a fresh copy does exactly if nothing of the kind has been left behind.
-/

namespace Mudline.Script

/-- Two scripts that cannot be told apart by what they show: what they are doing, what they say, and
what their variables, arguments and groups are. -/
structure Alike (s t : Script) : Prop where
  /-- They are doing the same. -/
  status : s.status = t.status
  /-- They say the same. -/
  events : s.events = t.events
  /-- Their variables are the same. -/
  locals : s.locals = t.locals
  /-- Their arguments are the same. -/
  args : s.args = t.args
  /-- Their groups are the same. -/
  captures : s.captures = t.captures
  /-- The shared variables are the same. -/
  globals : s.globals = t.globals

/-- A script is like itself. -/
theorem Alike.refl (s : Script) : Alike s s := ⟨rfl, rfl, rfl, rfl, rfl, rfl⟩

/-- The script, as if another line had run last. -/
def withCurrent (s : Script) (i : Nat) : Script :=
  { s with current := i }

/-- The line that ran last makes no difference. -/
theorem alike_withCurrent (s : Script) (i : Nat) : Alike (s.withCurrent i) s :=
  ⟨rfl, rfl, rfl, rfl, rfl, rfl⟩

/-- Only a line looks at the line that ran last, and it is that line itself. -/
theorem step_withCurrent {s : Script} {line : Line} (h : s.listing.kind? s.next = some line)
    (i : Nat) : (s.withCurrent i).step = s.step := by
  have hline : (s.withCurrent i).listing.kind? (s.withCurrent i).next = some line := h
  simp only [step, h, hline]
  rfl

/-- Behind the last line there is none that looks at it. -/
theorem step_withCurrent_of_end {s : Script} (h : s.listing.kind? s.next = none) (i : Nat) :
    (s.withCurrent i).step = s.finish.withCurrent i ∧ s.step = s.finish := by
  have hline : (s.withCurrent i).listing.kind? (s.withCurrent i).next = none := h
  constructor
  · simp only [step, hline]
    rfl
  · simp only [step, h]

/-- Which line ran last before a run cannot be told from the run. -/
theorem alike_runFor (s : Script) (i budget : Nat) :
    Alike ((s.withCurrent i).runFor budget) (s.runFor budget) := by
  by_cases hrunning : s.status = .running
  · cases budget with
    | zero => exact alike_withCurrent s i
    | succ budget =>
      have hruns : (s.status == .running) = true := by simpa using hrunning
      have hruns' : ((s.withCurrent i).status == .running) = true := hruns
      rw [runFor, runFor, if_pos hruns, if_pos hruns']
      cases hline : s.listing.kind? s.next with
      | some line =>
        rw [step_withCurrent hline]
        exact .refl _
      | none =>
        obtain ⟨hend', hend⟩ := step_withCurrent_of_end hline i
        have hidle : s.finish.status ≠ .running := by simp [finish]
        rw [hend', hend, runFor_of_not_running hidle, runFor_of_not_running (by exact hidle)]
        exact alike_withCurrent s.finish i
  · rw [runFor_of_not_running hrunning, runFor_of_not_running (by exact hrunning)]
    exact alike_withCurrent s i

/-- Nothing that is done to a script changes its listing. -/
theorem afterAccess_listing (s : Script) (accesses : List Access) :
    (s.afterAccess accesses).listing = s.listing := by
  induction accesses generalizing s with
  | nil => rfl
  | cons a accesses ih =>
    rw [afterAccess_cons, ih]
    cases a with
    | request r => exact serve_listing s r
    | setLocals _ | setGlobals _ | drainEvents => rfl

/-- The script with the variables and the groups of another. -/
def withScopeOf (s t : Script) : Script :=
  { s with locals := t.locals, captures := t.captures }

/-- A script that has the scope of another already is not changed by it. -/
theorem withScopeOf_eq_self {s t : Script} (hlocals : t.locals = s.locals)
    (hcaptures : t.captures = s.captures) : s.withScopeOf t = s := by
  rw [withScopeOf, hlocals, hcaptures]

/-- What is loaded is the same whatever the shared variables and the settings are. -/
theorem load_of_load {library : Library} {name : Text} {globals : Store} {settings : Settings}
    {s : Script} (h : load library name globals settings = .ok s) (globals' : Store)
    (settings' : Settings) : load library name globals' settings' =
      .ok { listing := s.listing, globals := globals', settings := settings' } := by
  unfold load at h ⊢
  cases hlisting : Listing.load library name with
  | error e =>
    rw [hlisting] at h
    cases h
  | ok listing =>
    rw [hlisting] at h
    obtain rfl := Except.ok.inj h
    rfl

section Restart

variable {library : Library} {name : Text} {globals : Store} {settings : Settings} {s : Script}
  (h : load library name globals settings = .ok s)

include h

/-- Whatever has been done with a script, it is started again as a fresh copy of it is that has got
its variables and groups. -/
theorem exists_fresh (accesses : List Access) : ∃ fresh,
    load library name (s.afterAccess accesses).globals (s.afterAccess accesses).settings =
        .ok fresh ∧
      fresh.locals = {} ∧ fresh.captures = [] ∧
      ∀ args budget, Alike (((s.afterAccess accesses).drain.1.start args).runFor budget)
        (((fresh.withScopeOf (s.afterAccess accesses)).start args).runFor budget) := by
  have hlisting := afterAccess_listing s accesses
  generalize s.afterAccess accesses = t at hlisting ⊢
  have hfresh := load_of_load h t.globals t.settings
  rw [← hlisting] at hfresh
  refine ⟨_, hfresh, rfl, rfl, fun args budget => ?_⟩
  generalize hcopy : ({ listing := t.listing, globals := t.globals, settings := t.settings } :
    Script) = fresh
  have hstart :
      t.drain.1.start args = ((fresh.withScopeOf t).start args).withCurrent t.current := by
    subst hcopy
    rfl
  rw [hstart]
  exact alike_runFor _ _ budget

/-- A script that is started again, after whatever has been done with it, runs as a fresh copy of it
does with the same variables and groups. So it runs as a fresh copy does if it has kept none; and
then only, if every line of the run is to be the same. -/
theorem restarts_afresh_iff (accesses : List Access) (args : List Text) : ∃ fresh,
    load library name (s.afterAccess accesses).globals (s.afterAccess accesses).settings =
        .ok fresh ∧
      Alike ((s.afterAccess accesses).drain.1.run args)
        ((fresh.withScopeOf (s.afterAccess accesses)).run args) ∧
      ((s.afterAccess accesses).locals = {} → (s.afterAccess accesses).captures = [] →
        Alike ((s.afterAccess accesses).drain.1.run args) (fresh.run args)) ∧
      ((∀ budget, Alike (((s.afterAccess accesses).drain.1.start args).runFor budget)
          ((fresh.start args).runFor budget)) ↔
        (s.afterAccess accesses).locals = {} ∧ (s.afterAccess accesses).captures = []) := by
  obtain ⟨fresh, hfresh, hlocals, hcaptures, halike⟩ := exists_fresh h accesses
  have hnone (hl : (s.afterAccess accesses).locals = {})
      (hc : (s.afterAccess accesses).captures = []) :
      fresh.withScopeOf (s.afterAccess accesses) = fresh :=
    withScopeOf_eq_self (hl.trans hlocals.symm) (hc.trans hcaptures.symm)
  refine ⟨fresh, hfresh, halike args unlimited, fun hl hc => ?_, fun hsame => ?_, ?_⟩
  · exact hnone hl hc ▸ halike args unlimited
  · -- Before the first line has run, a script still shows what it has kept.
    have hstart := hsame 0
    exact ⟨hstart.locals.trans hlocals, hstart.captures.trans hcaptures⟩
  · rintro ⟨hl, hc⟩ budget
    exact hnone hl hc ▸ halike args budget

end Restart

/-- A library with a script that shows a variable before it sets it. -/
def ledgerLibrary : Library :=
  fun name => List.lookup name [("ledger", ["echo %gold", "var gold 5"])]

/-- The script that shows a variable before it sets it. -/
def ledger : Script where
  listing := {
    name := "ledger"
    lines := ["echo %gold", "var gold 5"].zipIdx.map fun (text, i) =>
      ⟨⟨text, "ledger", i + 1⟩, .command text⟩
    labels := [] }

/-- The ledger is loaded. -/
theorem load_ledger : load ledgerLibrary "ledger" {} {} = .ok ledger := by
  rfl

/-- A ledger that is run again finds its gold of the first run. -/
theorem restarts_afresh_iff_ledger :
    load ledgerLibrary "ledger" {} {} = .ok ledger ∧ ∃ fresh,
      load ledgerLibrary "ledger" {} {} = .ok fresh ∧
      Alike ((ledger.run []).drain.1.run []) ((fresh.withScopeOf (ledger.run [])).run []) ∧
      ¬∀ budget, Alike (((ledger.run []).drain.1.start []).runFor budget)
        ((fresh.start []).runFor budget) := by
  obtain ⟨fresh, hfresh, halike, -, hiff⟩ := restarts_afresh_iff load_ledger
    [.request (.start []), .request (.runFor unlimited)] []
  have hglobals : (ledger.run []).globals = {} := by decide +kernel
  have hsettings : (ledger.run []).settings = {} := rfl
  have hlocals : (ledger.run []).locals ≠ {} := by decide +kernel
  change load _ _ (ledger.run []).globals (ledger.run []).settings = _ at hfresh
  rw [hglobals, hsettings] at hfresh
  exact ⟨load_ledger, fresh, hfresh, halike, fun hsame => hlocals (hiff.mp hsame).1⟩

/-- Started again, a script finds a variable that it has set in its last run. -/
theorem not_always_afresh :
    ¬∀ (library : Library) (name : Text) (globals : Store) (settings : Settings)
      (s fresh : Script) (accesses : List Access) (args : List Text),
      load library name globals settings = .ok s →
      (s.afterAccess accesses).status = .finished →
      load library name (s.afterAccess accesses).globals (s.afterAccess accesses).settings =
          .ok fresh →
        Alike ((s.afterAccess accesses).drain.1.run args) (fresh.run args) := by
  intro hall
  have hglobals : (ledger.run []).globals = {} := by decide +kernel
  have hsettings : (ledger.run []).settings = {} := rfl
  have hfresh : load ledgerLibrary "ledger" (ledger.run []).globals (ledger.run []).settings =
      .ok ledger := by
    rw [hglobals, hsettings, load_ledger]
  have halike := hall ledgerLibrary "ledger" {} {} ledger ledger
    [.request (.start []), .request (.runFor unlimited)] [] load_ledger (by decide +kernel) hfresh
  have hagain : ((ledger.run []).drain.1.run []).events = [.echo "5\n"] := by decide +kernel
  have hfirst : (ledger.run []).events = [.echo "%gold\n"] := by decide +kernel
  have hsame : [Event.echo "5\n"] = [.echo "%gold\n"] :=
    hagain.symm.trans (halike.events.trans hfirst)
  exact absurd hsame (by decide)

end Mudline.Script
