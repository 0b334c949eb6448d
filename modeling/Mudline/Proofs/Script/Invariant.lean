import Mudline.Proofs.Script.Place

/-!
# What always holds of a script

Between two requests, whatever they were, the parts of a script fit together: what it waits for fits
its status, the lines and labels that it may go on at are those of its listing, and as long as it
has not ended a block is open in it and in every call that it has to come back from. Each statement,
and each line up to its statement, keeps these facts together; so does each request. A script that
has ended says and changes nothing until it is started again.
-/

namespace Mudline.Script

/-- The parts of a script fit together. -/
structure Sound (s : Script) : Prop where
  /-- A script that has ended or was never started waits for nothing. -/
  idle : s.status = .finished ∨ s.status = .loaded → s.awaited = []
  /-- A script that waits for one pattern goes on at the next line. -/
  single : s.status = .waitingFor → ∃ p, s.awaited = [⟨p, none⟩]
  /-- In every other state, each pattern has a label to go on at. -/
  labelled : s.status ≠ .waitingFor → ∀ a ∈ s.awaited, a.label ≠ none
  /-- The next line is one of the listing, or the next but one to its last. -/
  next : s.next ≤ s.listing.lines.length + 1
  /-- So are the lines to come back to. -/
  returns : ∀ f ∈ s.stack, f.returnTo ≤ s.listing.lines.length + 1
  /-- Until the script ends, a block is open. -/
  levels : s.status ≠ .finished → s.levels ≠ []
  /-- Until the script ends, a block is open in each call to come back from. -/
  frames : s.status ≠ .finished → ∀ f ∈ s.stack, f.levels ≠ []
  /-- A script that waits for a pattern has run a line. -/
  located : s.awaited ≠ [] → s.Located
  /-- The line that ran last is one of the listing, if there are any. -/
  placed : s.listing.lines ≠ [] → s.Located
  /-- Labels are on lines of the listing. -/
  labels : ∀ name i, s.listing.label? name = some i → i < s.listing.lines.length

namespace Sound

variable {s t : Script}

/-- What leaves the script steady leaves it sound. -/
theorem steady (h : s.Sound) (hsteady : Steady s t) : t.Sound where
  idle := by simpa only [hsteady.status, hsteady.awaited] using h.idle
  single := by simpa only [hsteady.status, hsteady.awaited] using h.single
  labelled := by simpa only [hsteady.status, hsteady.awaited] using h.labelled
  next := by simpa only [hsteady.next, hsteady.listing] using h.next
  returns := by simpa only [hsteady.stack, hsteady.listing] using h.returns
  levels := by simpa only [hsteady.status, hsteady.levels] using h.levels
  frames := by simpa only [hsteady.status, hsteady.stack] using h.frames
  located hsome := (h.located (by rwa [← hsteady.awaited])).steady hsteady
  placed hlines := (h.placed (by rwa [← hsteady.listing])).steady hsteady
  labels := by simpa only [hsteady.listing] using h.labels

/-- Whoever waits for nothing and has not ended may do whatever it does not wait for. -/
theorem cleared (h : s.Sound) (hgoes : s.status ≠ .finished) (status : Status)
    (hstatus : status ≠ .waitingFor) : Sound { s with awaited := [], status := status } where
  idle _ := rfl
  single hsingle := absurd hsingle hstatus
  labelled _ := by simp
  next := h.next
  returns := h.returns
  levels _ := h.levels hgoes
  frames _ := h.frames hgoes
  located hsome := absurd rfl hsome
  placed := h.placed
  labels := h.labels

/-- Finishing leaves a script sound. -/
theorem finish (h : s.Sound) : s.finish.Sound where
  idle _ := rfl
  single hsingle := by simp [Script.finish] at hsingle
  labelled _ := by simp [Script.finish]
  next := h.next
  returns := h.returns
  levels hgoes := absurd rfl hgoes
  frames hgoes := absurd rfl hgoes
  located hsome := absurd rfl hsome
  placed := h.placed
  labels := h.labels

/-- A jump leaves a script sound. -/
theorem jump (h : s.Sound) (label : Text) : (s.jump label).Sound := by
  rw [Script.jump]
  split
  · rename_i i hknown
    have hi := h.labels label i hknown
    exact { h with
      next := by dsimp only; omega
      levels := fun _ => List.cons_ne_nil _ _ }
  · exact (h.steady (steady_complain s _)).finish

/-- A call keeps a block that is open and a line of the listing. -/
theorem call (h : s.Sound) (hgoes : s.status ≠ .finished) (label : Text) (args : List Text) :
    (s.call label args).Sound := by
  have hjump := h.jump label
  rw [Script.call]
  split
  · rename_i i hknown
    have hlands : s.jump label = { s with next := i, levels := [.absent] } := by
      simp [Script.jump, hknown]
    rw [hlands] at hjump ⊢
    exact { hjump with
      returns := List.forall_mem_cons.mpr ⟨h.next, h.returns⟩
      frames := fun _ => List.forall_mem_cons.mpr ⟨h.levels hgoes, h.frames hgoes⟩ }
  · exact hjump

/-- A return leaves a script sound. -/
theorem comeBack (h : s.Sound) : s.comeBack.Sound := by
  rw [Script.comeBack]
  split
  · rename_i frame stack hstack
    have hreturns := h.returns
    have hframes := h.frames
    rw [hstack, List.forall_mem_cons] at hreturns
    simp only [hstack, List.forall_mem_cons] at hframes
    exact { h with
      next := hreturns.1
      returns := hreturns.2
      levels := fun hgoes => (hframes hgoes).1
      frames := fun hgoes => (hframes hgoes).2 }
  · exact h.finish

/-- A pattern to wait for leaves a running script sound. -/
theorem await (h : s.Sound) (hrunning : s.status = .running) (hlocated : s.Located) (label : Text)
    (mode : Pattern.Mode) (pattern : Text) : (s.await (some label) mode pattern).Sound := by
  rw [Script.await]
  split
  · have hlabelled := h.labelled (by simp [hrunning])
    exact { h with
      idle := by simp [hrunning]
      single := by simp [hrunning]
      labelled := fun _ => List.forall_mem_append.mpr ⟨hlabelled, by simp⟩
      located := fun _ => hlocated }
  · exact h.steady (steady_complain s _)

/-- Waiting for a single pattern leaves a running script sound. -/
theorem waitFor (h : s.Sound) (hrunning : s.status = .running) (hlocated : s.Located)
    (mode : Pattern.Mode) (pattern : Text) : (s.waitFor mode pattern).Sound := by
  have hgoes : s.status ≠ .finished := by simp [hrunning]
  rw [Script.waitFor]
  split
  · rename_i p hcompiled
    exact { h with
      idle := by simp
      single := fun _ => ⟨p, rfl⟩
      labelled := fun hother => absurd rfl hother
      levels := fun _ => h.levels hgoes
      frames := fun _ => h.frames hgoes
      located := fun _ => hlocated }
  · have hcleared := h.cleared hgoes .running (by simp)
    rw [← hrunning] at hcleared
    exact hcleared.steady (steady_complain _ _)

/-- A running script may begin to wait for what it has noted. -/
theorem rest (h : s.Sound) (hrunning : s.status = .running) {status : Status}
    (hfinished : status ≠ .finished) (hloaded : status ≠ .loaded) (hsingle : status ≠ .waitingFor) :
    Sound { s with status := status } :=
  { h with
    idle := fun hidle => by simp [hfinished, hloaded] at hidle
    single := fun h => absurd h hsingle
    labelled := fun _ => h.labelled (by simp [hrunning])
    levels := fun _ => h.levels (by simp [hrunning])
    frames := fun _ => h.frames (by simp [hrunning]) }

/-- Waiting for some time leaves a running script sound. -/
theorem waitSeconds (h : s.Sound) (hrunning : s.status = .running) (seconds : Float)
    {status : Duration → Status} (hfinished : ∀ d, status d ≠ .finished)
    (hloaded : ∀ d, status d ≠ .loaded) (hsingle : ∀ d, status d ≠ .waitingFor) :
    (s.waitSeconds seconds status).Sound := by
  rw [Script.waitSeconds]
  split
  · exact h.rest hrunning (hfinished _) (hloaded _) (hsingle _)
  · exact h.rest hrunning (by simp) (by simp) (by simp)

/-- Every statement that a running script carries out on a line of its listing. -/
theorem perform (h : s.Sound) (hrunning : s.status = .running) (hlocated : s.Located)
    (statement : Statement) : (s.perform statement).Sound := by
  have hgoes : s.status ≠ .finished := by simp [hrunning]
  cases hcontrol : statement.isControl with
  | false =>
    cases hawait : statement.isAwaitAt with
    | false => exact h.steady (steady_perform s hcontrol hawait)
    | true =>
      cases statement with
      | awaitAt label mode pattern => exact h.await hrunning hlocated label mode pattern
      | _ => simp [Statement.isAwaitAt] at hawait
  | true =>
    cases statement with
    | goto label => exact h.jump label
    | gosub label args => exact h.call hgoes label args
    | comeBack => exact h.comeBack
    | exit => exact h.finish
    | matchWait seconds =>
      cases seconds with
      | none => exact h.rest hrunning (by simp) (by simp) (by simp)
      | some seconds => exact h.waitSeconds hrunning seconds (by simp) (by simp) (by simp)
    | waitFor mode pattern => exact h.waitFor hrunning hlocated mode pattern
    | pause seconds =>
      cases seconds with
      | none => exact h.rest hrunning (by simp) (by simp) (by simp)
      | some seconds => exact h.waitSeconds hrunning seconds (by simp) (by simp) (by simp)
    | _ => simp [Statement.isControl] at hcontrol

/-- A line of a running script, up to its command. -/
theorem movedOn (h : s.Sound) (hrunning : s.status = .running) (hmoved : MovedOn s t) :
    t.Sound where
  idle hidle := by simp [hmoved.status, hrunning] at hidle
  single hsingle := by simp [hmoved.status, hrunning] at hsingle
  labelled _ := by simpa only [hmoved.awaited] using h.labelled (by simp [hrunning])
  next := by simpa only [hmoved.listing] using hmoved.next
  returns := by simpa only [hmoved.stack, hmoved.listing] using h.returns
  levels _ := hmoved.levels (h.levels (by simp [hrunning]))
  frames _ := by simpa only [hmoved.stack] using h.frames (by simp [hrunning])
  located _ := hmoved.located
  placed _ := hmoved.located
  labels := by simpa only [hmoved.listing] using h.labels

/-- A line leaves a running script sound. -/
theorem step (h : s.Sound) (hrunning : s.status = .running) : s.step.Sound := by
  rcases s.step_cases with hend | ⟨u, hmoved, hquiet | ⟨statement, hperform⟩⟩
  · exact hend ▸ h.finish
  · exact hquiet ▸ h.movedOn hrunning hmoved
  · have hmid := h.movedOn hrunning hmoved
    exact hperform ▸ hmid.perform (hmoved.status.trans hrunning) hmoved.located statement

/-- A run leaves a script sound. -/
theorem runFor (h : s.Sound) (budget : Nat) : (s.runFor budget).Sound := by
  induction budget generalizing s with
  | zero => exact h
  | succ budget ih =>
    rw [Script.runFor]
    split
    · rename_i hrunning
      exact ih (h.step (by simpa using hrunning))
    · exact h

/-- A line of the game leaves a script sound. -/
theorem feed (h : s.Sound) (line : Text) : (s.feed line).1.Sound := by
  rw [Script.feed]
  split
  · rename_i hlistens
    have hgoes : s.status ≠ .finished := by
      rintro hended
      simp [hended, Status.listens] at hlistens
    split
    · exact h
    · rename_i a groups hhit
      -- Nothing is waited for any more before the jump, which may end the script.
      have hcleared : Sound { s with awaited := [], captures := groups, status := .running } :=
        { h.cleared hgoes .running (by simp) with }
      split
      · exact hcleared.jump _
      · exact hcleared
  · exact h

/-- The end of a wait leaves a script sound. -/
theorem timeOut (h : s.Sound) : s.timeOut.1.Sound := by
  rw [Script.timeOut]
  split
  · rename_i d hwaiting
    exact h.cleared (by simp [hwaiting]) .running (by simp)
  · exact h

/-- The end of a pause leaves a script sound. -/
theorem resume (h : s.Sound) : s.resume.1.Sound := by
  rw [Script.resume]
  split
  · rename_i d hpaused
    exact { h with
      idle := by simp
      single := by simp
      labelled := fun _ => h.labelled (by simp [hpaused])
      levels := fun _ => h.levels (by simp [hpaused])
      frames := fun _ => h.frames (by simp [hpaused]) }
  · exact h

/-- Being stopped leaves a script sound. -/
theorem stop (h : s.Sound) : s.stop.Sound := by
  have hleft : Sound { s with stack := [] } :=
    { h with returns := by simp, frames := fun _ => by simp }
  have hended : (Script.finish { s with stack := [] }).Sound := hleft.finish
  rw [Script.stop]
  split
  · rename_i hfinished
    have hsame : { s with stack := [], awaited := [] } = Script.finish { s with stack := [] } := by
      have hstatus : s.status = .finished := by simpa using hfinished
      rw [Script.finish, ← hstatus]
    exact hsame ▸ hended
  · exact hended

/-- A script that starts is sound. -/
theorem start (h : s.Sound) (args : List Text) : (s.start args).Sound where
  idle _ := rfl
  single hsingle := by simp [Script.start] at hsingle
  labelled _ := by simp [Script.start]
  next := Nat.zero_le _
  returns := by simp [Script.start]
  levels _ := List.cons_ne_nil _ _
  frames _ := by simp [Script.start]
  located hsome := absurd rfl hsome
  placed := h.placed
  labels := h.labels

/-- A request leaves a script sound. -/
theorem serve (h : s.Sound) (r : Request) : (s.serve r).Sound := by
  cases r with
  | start args => exact h.start args
  | runFor budget => exact h.runFor budget
  | feed line => exact h.feed line
  | timeOut => exact h.timeOut
  | resume => exact h.resume
  | stop => exact h.stop
  | shiftArgs => exact h.steady ⟨rfl, rfl, rfl, rfl, rfl, rfl, rfl⟩

/-- Requests leave a script sound. -/
theorem after (h : s.Sound) (rs : List Request) : (s.after rs).Sound := by
  induction rs generalizing s with
  | nil => exact h
  | cons r rs ih => exact ih (h.serve r)

end Sound

/-- Labels are noted with the indices of their lines. -/
theorem lt_of_mem_labelsFrom {start : Nat} {lines : List ListedLine} {entry : Text × Nat}
    (h : entry ∈ labelsFrom start lines) : entry.2 < start + lines.length := by
  simp only [labelsFrom, List.mem_reverse, List.mem_filterMap] at h
  obtain ⟨⟨line, i⟩, hmem, hlabel⟩ := h
  have hi := (List.mem_zipIdx hmem).2.1
  dsimp only at hlabel
  split at hlabel
  · obtain rfl := Option.some.inj hlabel
    exact hi
  · cases hlabel

/-- A listing that was loaded has the labels of its lines. -/
theorem Listing.labels_of_load {library : Library} {name : Text} {l : Listing}
    (hload : Listing.load library name = .ok l) : l.labels = labelsFrom 0 l.lines := by
  rw [Listing.load] at hload
  split at hload
  · cases hload
  · dsimp only at hload
    split at hload
    · cases hload
    · cases hload
      rfl

/-- Labels stand within the listing. -/
theorem Listing.lt_of_label? {library : Library} {name : Text} {l : Listing}
    (hload : Listing.load library name = .ok l) {label : Text} {i : Nat}
    (h : l.label? label = some i) : i < l.lines.length := by
  have hmem : (Unicode.lower label, i) ∈ labelsFrom 0 l.lines := by
    obtain ⟨before, later, hentry, -⟩ := List.lookup_eq_some_iff.mp h
    rw [← Listing.labels_of_load hload, hentry]
    simp
  simpa using lt_of_mem_labelsFrom hmem

/-- A script that is loaded is sound. -/
theorem sound_of_load {library : Library} {name : Text} {globals : Store} {settings : Settings}
    {s : Script} (hload : load library name globals settings = .ok s) : s.Sound := by
  rw [load] at hload
  cases hlisting : Listing.load library name with
  | error e =>
    rw [hlisting] at hload
    cases hload
  | ok l =>
    rw [hlisting] at hload
    cases hload
    exact {
      idle := fun _ => rfl
      single := by simp
      labelled := by simp
      next := Nat.zero_le _
      returns := by simp
      levels := by simp
      frames := by simp
      located := by simp
      placed := List.length_pos_iff.mpr
      labels := fun _ _ => Listing.lt_of_label? hlisting }

/-- Whether a request makes the script run a line. -/
def runsLine (s : Script) : Request → Bool
  | .runFor budget => budget != 0 && s.status == .running && (s.listing.kind? s.next).isSome
  | _ => false

/-- Whether a line runs while the requests are served. -/
def hasRun (s : Script) : List Request → Bool
  | [] => false
  | r :: rs => s.runsLine r || (s.serve r).hasRun rs

/-- A script that runs a line has one. -/
theorem lines_ne_nil_of_runsLine {s : Script} {r : Request} (h : s.runsLine r = true) :
    s.listing.lines ≠ [] := by
  cases r with
  | runFor budget =>
    simp only [runsLine, Bool.and_eq_true] at h
    obtain ⟨line, hline⟩ := Option.isSome_iff_exists.mp h.2
    exact List.ne_nil_of_length_pos (Nat.zero_lt_of_lt (Listing.lt_of_kind? hline))
  | start _ | feed _ | timeOut | resume | stop | shiftArgs => simp [runsLine] at h

/-- A script that has run a line has one. -/
theorem lines_ne_nil_of_hasRun {s : Script} {rs : List Request} (h : s.hasRun rs = true) :
    s.listing.lines ≠ [] := by
  induction rs generalizing s with
  | nil => simp [hasRun] at h
  | cons r rs ih =>
    simp only [hasRun, Bool.or_eq_true] at h
    rcases h with hfirst | hlater
    · exact lines_ne_nil_of_runsLine hfirst
    · simpa using ih hlater

/-- Once a line has run, the line that ran last is one of the listing. -/
theorem Sound.located_of_hasRun {s : Script} {rs : List Request} (h : s.Sound)
    (hrun : s.hasRun rs = true) : (s.after rs).Located :=
  (h.after rs).placed (by simpa using lines_ne_nil_of_hasRun hrun)

/-- A sound script goes on in the same way under another name. -/
theorem Sound.after_named {s : Script} (h : s.Sound) (name : Text) (rs : List Request) :
    (s.named name).after rs = (s.after rs).named name := by
  induction rs generalizing s with
  | nil => rfl
  | cons r rs ih => rw [after_cons, after_cons, serve_named name h.located, ih (h.serve r)]

/-- The second script has ended, has said and changed nothing since the first, and takes no notice
of what could wake it. -/
structure EndedSince (s t : Script) : Prop where
  /-- It has ended. -/
  status : t.status = .finished
  /-- It has said nothing. -/
  events : t.events = s.events
  /-- It has changed no variable of its own. -/
  locals : t.locals = s.locals
  /-- It has changed no shared variable. -/
  globals : t.globals = s.globals
  /-- It takes no line. -/
  feed : ∀ line, t.feed line = (t, false)
  /-- No wait of its is cut short. -/
  timeOut : t.timeOut = (t, false)
  /-- No pause of its is ended. -/
  resume : t.resume = (t, false)

/-- A script that has finished and said and set nothing more has ended since. -/
theorem endedSince {s t : Script} (hstatus : t.status = .finished) (hevents : t.events = s.events)
    (hlocals : t.locals = s.locals) (hglobals : t.globals = s.globals) : EndedSince s t where
  status := hstatus
  events := hevents
  locals := hlocals
  globals := hglobals
  feed line := by simp [Script.feed, hstatus, Status.listens]
  timeOut := by simp [Script.timeOut, hstatus]
  resume := by simp [Script.resume, hstatus]

/-- Only to be started wakes a script that has ended. -/
theorem EndedSince.serve {s t : Script} (h : EndedSince s t) {r : Request}
    (hr : r.isStart = false) : EndedSince s (t.serve r) := by
  cases r with
  | start args => simp [Request.isStart] at hr
  | runFor budget =>
    have hsame : t.runFor budget = t := runFor_of_not_running (by simp [h.status]) budget
    rwa [Script.serve, hsame]
  | feed line => rwa [Script.serve, h.feed]
  | timeOut => rwa [Script.serve, h.timeOut]
  | resume => rwa [Script.serve, h.resume]
  | stop =>
    have hstop : t.stop = { t with stack := [], awaited := [] } := by simp [Script.stop, h.status]
    rw [Script.serve, hstop]
    exact endedSince h.status h.events h.locals h.globals
  | shiftArgs => exact endedSince h.status h.events h.locals h.globals

/-- A script that has ended stays so, whatever is asked of it but to start. -/
theorem EndedSince.after {s t : Script} (h : EndedSince s t) {rs : List Request}
    (hrs : ∀ r ∈ rs, r.isStart = false) : EndedSince s (t.after rs) := by
  induction rs generalizing t with
  | nil => exact h
  | cons r rs ih =>
    rw [List.forall_mem_cons] at hrs
    exact ih (h.serve hrs.1) hrs.2

/-- Whatever is asked of a script that was loaded, its parts fit together. Once a line has run, the
place that a complaint names is that of a line of the listing, and the name of the script is never
shown for want of one. Once the script has ended, it is silent until it is started again. -/
theorem sound_after_load {library : Library} {name : Text} {globals : Store} {settings : Settings}
    {s : Script} (hload : load library name globals settings = .ok s) (rs : List Request) :
    (s.after rs).Sound ∧
    (s.hasRun rs = true →
      ∃ line, (s.after rs).listing.lines[(s.after rs).current]? = some line ∧
        (s.after rs).location = line.place) ∧
    (∀ other, (s.named other).after rs = (s.after rs).named other) ∧
    ((s.after rs).status = .finished →
      ∀ later, (∀ r ∈ later, r.isStart = false) →
        EndedSince (s.after rs) ((s.after rs).after later)) := by
  have hsound := sound_of_load hload
  refine ⟨hsound.after rs, fun hrun => ?_, fun other => hsound.after_named other rs, ?_⟩
  · exact (hsound.located_of_hasRun hrun).location
  · intro hended later hlater
    exact (endedSince hended rfl rfl rfl).after hlater

/-- A script that calls a part of itself, which waits for a goblin, comes back and ends. -/
def lookoutLines : List Text :=
  ["gosub look", "echo seen", "exit", "look:", "match found goblin", "matchwait", "found:",
    "return"]

/-- A library of that script. -/
def lookoutLibrary : Library :=
  fun name => if name = "lookout" then some lookoutLines else none

/-- The lookout is kept until the goblin comes. -/
def lookoutRequests : List Request :=
  [.start [], .runFor 2, .runFor 9, .feed "A goblin arrives.", .runFor 9]

/-- A lookout that has ended is asked again and says nothing more. -/
theorem sound_after_load_lookout :
    ∃ s, load lookoutLibrary "lookout" {} {} = .ok s ∧
      s.hasRun lookoutRequests = true ∧ (s.after lookoutRequests).status = .finished ∧
      (s.after lookoutRequests).Sound ∧
      EndedSince (s.after lookoutRequests)
        ((s.after lookoutRequests).after [.feed "A goblin arrives.", .stop, .runFor 9]) := by
  refine ⟨_, rfl, by decide +kernel, by decide +kernel, ?_⟩
  obtain ⟨hsound, -, -, hended⟩ :=
    @sound_after_load lookoutLibrary "lookout" {} {} _ rfl lookoutRequests
  exact ⟨hsound, hended (by decide +kernel) _ (by decide)⟩

end Mudline.Script
