import Mudline.Proofs.Display.Joined
import Mudline.Proofs.Stream.Passage

/-!
# Nothing shown is lost

What is to be shown waits for a prompt, across chunks if it must, and neighbours of one style are
joined before they are shown. Read as characters that each carry their style, what has been shown
and what still waits are together just what the tokens added, whatever the chunks were and wherever
the setup began again. A reader that begins afresh shows each run by itself until the setup is over,
and from then on whole batches, each of which ends in its only prompt.
-/

namespace Mudline.Display

/-- Runs that are shown together at a prompt: some that are none, and then the prompt, of which no
two neighbours could be joined. -/
structure IsBatch (runs : List Run) : Prop where
  /-- The prompt comes last, and there is something before it. -/
  split : ∃ front prompt, runs = front ++ [prompt] ∧ front ≠ [] ∧ prompt.style.isPrompt = true ∧
    ∀ r ∈ front, r.style.isPrompt = false
  /-- Neighbours differ in more than their texts. -/
  apart : runs.IsChain fun a b => a.joins b = false

/-- Plain runs with a prompt behind them are a batch when they are combined. -/
theorem isBatch_combine {front : List Run} {prompt : Run} (hfront : front ≠ [])
    (hplain : ∀ r ∈ front, r.style.isPrompt = false) (hprompt : prompt.style.isPrompt = true) :
    IsBatch (combine (front ++ [prompt])) where
  split := by
    have hapart : ∀ r ∈ front, r.joins prompt = false := by
      intro r hr
      rw [← Bool.not_eq_true, Run.joins_iff]
      intro hstyle
      have hsame := hplain r hr
      rw [hstyle, hprompt] at hsame
      cases hsame
    exact ⟨combine front, prompt, combine_concat hapart, combine_ne_nil hfront, hprompt,
      forall_style_combine (p := fun style => style.isPrompt = false) hplain⟩
  apart := isChain_combine _

end Mudline.Display

namespace Mudline.Stream

open Display

/-- The runs that a command shows. -/
def Command.runs : Command → List Run
  | .text runs => runs
  | _ => []

/-- The run that a token adds to what is to be shown. A prompt with nothing to show before it adds
none. -/
def addition? (s : Stream) (t : Token) : Option Run :=
  if s.isBarePrompt t then none else s.derived? t

/-- What announces a token is no text. -/
theorem text_notMem_announce (setupDone : Bool) (globals : Store) (t : Token) (runs : List Run) :
    .text runs ∉ announce setupDone globals t := by
  unfold announce
  cases Kind.ofToken t with
  | roundTime => cases (t.attr? "value").bind Text.readWord? <;> simp
  | streamWindow | component =>
    dsimp only
    split <;> simp
  | _ => simp

/-- What a token announces has no runs. -/
theorem runs_announce (setupDone : Bool) (globals : Store) (t : Token) :
    (announce setupDone globals t).flatMap Command.runs = [] := by
  rw [List.flatMap_eq_nil_iff]
  intro c hc
  cases c with
  | text runs => exact absurd hc (text_notMem_announce setupDone globals t runs)
  | _ => rfl

/-- A token that brings a fault is not shown. -/
theorem derived?_of_fault {s : Stream} {t : Token}
    (h : (Command.firstFault? (s.process t).2).isSome = true) : s.derived? t = none := by
  cases hkind : Kind.ofToken t with
  | text | lineEnd | prompt | link | bold | command | preset =>
    simp [process, announce, hkind, Command.firstFault?] at h
  | _ => simp [derived?, display, State.run?, hkind]

/-- No character is lost, doubled or moved by a token. -/
theorem cells_take (s : Stream) (t : Token) :
    cells (s.pending ++ (s.addition? t).toList) =
      cells ((s.take t).commands.flatMap Command.runs ++ (s.take t).reader.pending) := by
  have hquiet : ((s.process t).2).flatMap Command.runs = [] := runs_announce _ _ t
  have hpending : (s.passed t).pending = s.pending := rfl
  have hkept : (s.process t).1.pending = s.pending := rfl
  have hcase := s.takeCase t
  generalize s.take t = taken at hcase
  cases hcase with
  | fault hfault => simp [addition?, derived?_of_fault hfault, hquiet, hkept]
  | quiet hrun => simp [addition?, hrun, hquiet, hpending]
  | bare hbare => simp [addition?, hbare, hquiet, hpending]
  | shown r hrun hbare hnow => simp [addition?, hrun, hbare, hquiet, Command.runs]
  | held r hrun hprompt hdone =>
    have hbare : s.isBarePrompt t = false :=
      Bool.and_eq_false_iff.mpr (.inl (beq_false_of_ne hprompt))
    simp [addition?, hrun, hbare, hquiet]

/-- The runs that the tokens of a chunk add, in order. -/
def additions (ps : List Passage) : List Run :=
  ps.filterMap fun p => p.before.addition? p.token

/-- The first token adds its run before the others. -/
theorem additions_cons (p : Passage) (ps : List Passage) :
    additions (p :: ps) = (p.before.addition? p.token).toList ++ additions ps := by
  unfold additions
  cases h : p.before.addition? p.token with
  | none => simp [h]
  | some r => simp [h]

/-- Nor by the tokens of a chunk. -/
theorem cells_readTokens (s : Stream) (tokens : List Token) :
    cells (s.pending ++ additions (s.passages tokens)) =
      cells ((s.readTokens tokens).2.flatMap Command.runs ++ (s.readTokens tokens).1.pending) := by
  induction tokens generalizing s with
  | nil => simp [passages, additions]
  | cons t rest ih =>
    have hfirst := cells_take s t
    rw [readTokens_cons, passages, additions_cons, ← List.append_assoc, cells_append, hfirst,
      cells_append]
    split
    · simp only [List.flatMap_append, List.append_assoc, cells_append, ← ih (s.take t).reader]
    · simp [additions]

/-- Something that comes in. -/
inductive Input
  /-- A chunk of the stream, and the seconds that the wall clock shows. -/
  | chunk (now : Nat) (t : Text)
  /-- The setup begins again, or is said to be over. -/
  | resetSetup (done : Bool)

/-- The tokens that are read of what comes in. -/
def inputPassages (s : Stream) : Input → List Passage
  | .chunk now t => passages { s with now := now } (tokensOf t)
  | .resetSetup _ => []

/-- The reader after what has come in, and the commands. -/
def handle (s : Stream) : Input → Stream × List Command
  | .chunk now t => read { s with now := now } t
  | .resetSetup done => (s.resetSetup done, [])

/-- The reader after all that has come in, and the commands. -/
def handleAll (s : Stream) : List Input → Stream × List Command
  | [] => (s, [])
  | input :: rest =>
    let (s, commands) := s.handle input
    let (s, later) := s.handleAll rest
    (s, commands ++ later)

/-- The tokens that are read of all that comes in. -/
def allPassages (s : Stream) : List Input → List Passage
  | [] => []
  | input :: rest => s.inputPassages input ++ (s.handle input).1.allPassages rest

/-- Of an input, each cell is shown or still pending. -/
theorem cells_handle (s : Stream) (input : Input) :
    cells (s.pending ++ additions (s.inputPassages input)) =
      cells ((s.handle input).2.flatMap Command.runs ++ (s.handle input).1.pending) := by
  cases input with
  | chunk now t => exact cells_readTokens { s with now := now } (tokensOf t)
  | resetSetup done => simp [inputPassages, handle, additions, resetSetup]

/-- What has been shown and what still waits are together what the tokens added. -/
theorem cells_handleAll (s : Stream) (inputs : List Input) :
    cells (s.pending ++ additions (s.allPassages inputs)) =
      cells ((s.handleAll inputs).2.flatMap Command.runs ++ (s.handleAll inputs).1.pending) := by
  induction inputs generalizing s with
  | nil => simp [allPassages, handleAll, additions]
  | cons input rest ih =>
    have hfirst := cells_handle s input
    have hsplit : additions (s.allPassages (input :: rest)) =
        additions (s.inputPassages input) ++ additions ((s.handle input).1.allPassages rest) :=
      List.filterMap_append
    rw [hsplit, ← List.append_assoc, cells_append, hfirst, handleAll]
    simp only [List.flatMap_append, List.append_assoc, cells_append, ← ih (s.handle input).1]

/-- Adjoining a run does not change whether it is a prompt. -/
theorem adjoin_isPrompt (last : Token) (r : Run) :
    (State.adjoin last r).style.isPrompt = r.style.isPrompt := by
  unfold State.adjoin
  dsimp only
  split <;> split <;> rfl

/-- The run of a text is no prompt. -/
theorem textRun_isPrompt (s : State) (t : Token) : (s.textRun t).style.isPrompt = false := by
  unfold State.textRun
  cases s.lastToken with
  | none => rfl
  | some last => exact adjoin_isPrompt last _

/-- Only a prompt is shown as one. -/
theorem isPrompt_of_run? {s : State} {t : Token} {r : Run} (h : s.run? t = some r) :
    r.style.isPrompt = (t.kind == "prompt") := by
  have hprompt : Kind.ofToken t = .prompt ↔ t.kind = "prompt" := Kind.ofToken_eq_iff (by decide)
  have hplain : Kind.ofToken t ≠ .prompt → (t.kind == "prompt") = false := fun hother =>
    beq_false_of_ne fun hname => hother (hprompt.mpr hname)
  cases hkind : Kind.ofToken t <;> simp only [State.run?, hkind, reduceCtorEq] at h
  case prompt =>
    obtain rfl := Option.some.inj h
    rw [hprompt.mp hkind]
    rfl
  case text =>
    obtain rfl := Option.some.inj h
    rw [textRun_isPrompt, hplain (by simp [hkind])]
  case lineEnd =>
    split at h
    · obtain rfl := Option.some.inj h
      rw [hplain (by simp [hkind])]
    · cases h
  case command =>
    obtain ⟨face, -, rfl⟩ := Option.map_eq_some_iff.mp h
    rw [hplain (by simp [hkind])]
    rfl
  case link | bold | preset =>
    obtain rfl := Option.some.inj h
    rw [hplain (by simp [hkind])]
    rfl

/-- Whether a token ends the setup. -/
def endsSetup (t : Token) : Bool :=
  t.kind == "endsetup"

/-- Whether the setup ends with one of the tokens that are read. -/
def setupEnds (ps : List Passage) : Bool :=
  ps.any fun p => endsSetup p.token

/-- How a reader stands that began afresh, by whether the end of the setup has been read. -/
structure Prepared (ended : Bool) (s : Stream) : Prop where
  /-- The reader knows whether the setup is over. -/
  setupDone : s.state.setupDone = ended
  /-- During the setup nothing waits to be shown. -/
  pending : ended = false → s.pending = []
  /-- No prompt waits to be shown. -/
  plain : ∀ r ∈ s.pending, r.style.isPrompt = false

/-- What a token shows, by whether the end of the setup has been read. -/
structure ShowsWell (ended : Bool) (k : Taken) : Prop where
  /-- During the setup each run is shown at once and by itself, and none is a prompt. -/
  early : ended = false → k.reader.pending = [] ∧
    ∀ runs, .text runs ∈ k.commands → ∃ r, runs = [r] ∧ r.style.isPrompt = false
  /-- After the setup whole batches are shown. -/
  late : ended = true → ∀ runs, .text runs ∈ k.commands → IsBatch runs

/-- The setup is done when it was so before or a token ends it. -/
theorem setupDone_mark (s : State) (t : Token) :
    (s.mark t).setupDone = (s.setupDone || endsSetup t) := by
  have hend : Kind.ofToken t = .endSetup ↔ t.kind = "endsetup" :=
    Kind.ofToken_eq_iff (by decide)
  cases hkind : Kind.ofToken t with
  | endSetup => simp [State.mark, hkind, endsSetup, hend.mp hkind]
  | _ =>
    have hother : endsSetup t = false :=
      beq_false_of_ne fun hname => by simp [hend.mpr hname] at hkind
    simp [State.mark, hkind, hother]

/-- Passing a token, the setup is done when it was so before or the token ends it. -/
theorem setupDone_passed (s : Stream) (t : Token) :
    (s.passed t).state.setupDone = (s.state.setupDone || endsSetup t) := by
  have hpass (state : State) : (state.pass t).setupDone = state.setupDone := by
    unfold State.pass
    cases Kind.ofToken t with
    | lineEnd =>
      dsimp only
      split <;> rfl
    | _ => rfl
  exact (hpass _).trans (setupDone_mark s.state t)

/-- What has to be shown stays in order, and it is shown as it should be. -/
theorem Prepared.take {ended : Bool} {s : Stream} (h : Prepared ended s) (t : Token) :
    Prepared (ended || endsSetup t) (s.take t).reader ∧
      ShowsWell (ended || endsSetup t) (s.take t) := by
  have hdone : (s.passed t).state.setupDone = (ended || endsSetup t) := by
    rw [setupDone_passed, h.setupDone]
  have hpending : (ended || endsSetup t) = false → s.pending = [] := fun hsetup =>
    h.pending (Bool.or_eq_false_iff.mp hsetup).1
  have hsilent (runs : List Run) : Command.text runs ∉ (s.process t).2 :=
    text_notMem_announce _ _ t runs
  have hcase := s.takeCase t
  generalize s.take t = taken at hcase
  cases hcase with
  | fault hfault =>
    exact ⟨⟨(setupDone_mark s.state t).trans (by rw [h.setupDone]), hpending, h.plain⟩,
      fun hsetup => ⟨hpending hsetup, fun runs hruns => absurd hruns (hsilent runs)⟩,
      fun _ runs hruns => absurd hruns (hsilent runs)⟩
  | quiet hrun | bare hbare =>
    exact ⟨⟨hdone, hpending, h.plain⟩,
      fun hsetup => ⟨hpending hsetup, fun runs hruns => absurd hruns (hsilent runs)⟩,
      fun _ runs hruns => absurd hruns (hsilent runs)⟩
  | shown r hrun hbare hnow =>
    have hprompt := isPrompt_of_run? hrun
    have honly (runs : List Run)
        (hruns : .text runs ∈ (s.process t).2 ++ [.text (combine (s.pending ++ [r]))]) :
        runs = combine (s.pending ++ [r]) := by
      simpa [hsilent runs] using hruns
    -- During the setup nothing waits, and after it only a prompt shows what waits.
    refine ⟨⟨hdone, fun _ => rfl, by simp⟩, fun hsetup => ⟨rfl, fun runs hruns => ?_⟩,
      fun hsetup runs hruns => ?_⟩
    · have hnone := hpending hsetup
      have hplain : (t.kind == "prompt") = false := by
        simpa [isBarePrompt, hnone] using hbare
      exact ⟨r, by rw [honly runs hruns, hnone]; rfl, hprompt.trans hplain⟩
    · have hname : t.kind = "prompt" := hnow.resolve_right (by simp [hdone, hsetup])
      have hsome : s.pending ≠ [] := by
        intro hnone
        simp [isBarePrompt, hname, hnone] at hbare
      rw [honly runs hruns]
      exact isBatch_combine hsome h.plain (by simp [hprompt, hname])
  | held r hrun hprompt hsetup =>
    have hended : (ended || endsSetup t) = true := hdone.symm.trans hsetup
    have hplain : r.style.isPrompt = false := by
      rw [isPrompt_of_run? hrun]
      exact beq_false_of_ne hprompt
    refine ⟨⟨hdone, fun hnot => ?_, List.forall_mem_append.mpr ⟨h.plain, by simpa using hplain⟩⟩,
      fun hnot => ?_, fun _ runs hruns => absurd hruns (hsilent runs)⟩
    · simp [hended] at hnot
    · simp [hended] at hnot

/-- All tokens that are read show what they should, by whether the end of the setup had been read
before them. -/
def AllShowWell : Bool → List Passage → Prop
  | _, [] => True
  | ended, p :: ps =>
    ShowsWell (ended || endsSetup p.token) p.taken ∧ AllShowWell (ended || endsSetup p.token) ps

/-- The setup ends with the first token or with one of the others. -/
theorem setupEnds_cons (p : Passage) (ps : List Passage) :
    setupEnds (p :: ps) = (endsSetup p.token || setupEnds ps) := rfl

/-- Tokens that show well do so behind others that do. -/
theorem allShowWell_append {ended : Bool} {ps qs : List Passage} (hps : AllShowWell ended ps)
    (hqs : AllShowWell (ended || setupEnds ps) qs) : AllShowWell ended (ps ++ qs) := by
  induction ps generalizing ended with
  | nil => simpa [setupEnds] using hqs
  | cons p ps ih =>
    rw [setupEnds_cons, ← Bool.or_assoc] at hqs
    exact ⟨hps.1, ih hps.2 hqs⟩

/-- Each of the tokens shows well, with the setup done if it has ended up to it. -/
theorem AllShowWell.at {ended : Bool} {front later : List Passage} {p : Passage}
    (h : AllShowWell ended (front ++ p :: later)) :
    ShowsWell (ended || setupEnds (front ++ [p])) p.taken := by
  induction front generalizing ended with
  | nil => simpa [setupEnds] using h.1
  | cons q front ih =>
    rw [List.cons_append, setupEnds_cons, ← Bool.or_assoc]
    exact ih h.2

/-- A reader that is prepared stays so, and all tokens show well. -/
theorem Prepared.readTokens {ended : Bool} {s : Stream} (h : Prepared ended s)
    (tokens : List Token) :
    Prepared (ended || setupEnds (s.passages tokens)) (s.readTokens tokens).1 ∧
      AllShowWell ended (s.passages tokens) := by
  induction tokens generalizing ended s with
  | nil => simpa [passages, setupEnds, AllShowWell] using h
  | cons t rest ih =>
    obtain ⟨hprepared, hshows⟩ := h.take t
    rw [readTokens_cons, passages, setupEnds_cons, ← Bool.or_assoc]
    split
    · obtain ⟨hlast, hall⟩ := ih hprepared
      exact ⟨hlast, hshows, hall⟩
    · exact ⟨by simpa [setupEnds] using hprepared, hshows, trivial⟩

/-- Chunks that come in when the wall clock shows the seconds given with them. -/
def chunks (cs : List (Nat × Text)) : List Input :=
  cs.map fun c => .chunk c.1 c.2

/-- So it is with several inputs. -/
theorem Prepared.handleAll {ended : Bool} {s : Stream} (h : Prepared ended s)
    (cs : List (Nat × Text)) :
    Prepared (ended || setupEnds (s.allPassages (chunks cs))) (s.handleAll (chunks cs)).1 ∧
      AllShowWell ended (s.allPassages (chunks cs)) := by
  induction cs generalizing ended s with
  | nil => simpa [chunks, allPassages, setupEnds, AllShowWell, Stream.handleAll] using h
  | cons c cs ih =>
    have hclock : Prepared ended { s with now := c.1 } := ⟨h.setupDone, h.pending, h.plain⟩
    obtain ⟨hfirst, hshows⟩ := hclock.readTokens (tokensOf c.2)
    obtain ⟨hlast, hall⟩ := ih hfirst
    have hends : setupEnds (s.allPassages (chunks (c :: cs))) =
        (setupEnds (s.inputPassages (.chunk c.1 c.2)) ||
          setupEnds ((s.handle (.chunk c.1 c.2)).1.allPassages (chunks cs))) := List.any_append
    rw [hends, ← Bool.or_assoc]
    exact ⟨hlast, allShowWell_append hshows hall⟩

/-- The commands of several inputs are those of their tokens. -/
theorem handleAll_commands (s : Stream) (inputs : List Input) :
    (s.handleAll inputs).2 = (s.allPassages inputs).flatMap (·.taken.commands) := by
  induction inputs generalizing s with
  | nil => rfl
  | cons input rest ih =>
    have hfirst : (s.handle input).2 = (s.inputPassages input).flatMap (·.taken.commands) := by
      cases input with
      | chunk now t => exact readTokens_commands _ _
      | resetSetup done => rfl
    rw [allPassages, List.flatMap_append, ← ih, ← hfirst]
    rfl

/-- A reader that has read nothing. -/
def fresh (globals : Store) (ignored : Option Regex) : Stream :=
  { globals := globals, ignored := ignored }

/-- What is shown, and what waits to be shown, is all that the tokens added, in order. And of a
reader that begins afresh and whose setup is never begun again, the commands are those of the tokens
that were read, and each of these shows what it should. -/
theorem nothing_shown_is_lost :
    (∀ (s : Stream) (inputs : List Input),
      cells (s.pending ++ additions (s.allPassages inputs)) =
        cells ((s.handleAll inputs).2.flatMap Command.runs ++
          (s.handleAll inputs).1.pending)) ∧
    (∀ (globals : Store) (ignored : Option Regex) (cs : List (Nat × Text)),
      ((fresh globals ignored).handleAll (chunks cs)).2 =
        ((fresh globals ignored).allPassages (chunks cs)).flatMap (·.taken.commands) ∧
      Prepared (setupEnds ((fresh globals ignored).allPassages (chunks cs)))
        ((fresh globals ignored).handleAll (chunks cs)).1 ∧
      ∀ front p later, (fresh globals ignored).allPassages (chunks cs) = front ++ p :: later →
        ShowsWell (setupEnds (front ++ [p])) p.taken) := by
  refine ⟨cells_handleAll, fun globals ignored cs => ?_⟩
  have hfresh : Prepared false (fresh globals ignored) := ⟨rfl, fun _ => rfl, by simp [fresh]⟩
  obtain ⟨hlast, hall⟩ := hfresh.handleAll cs
  refine ⟨handleAll_commands _ _, by simpa using hlast, fun front p later hsplit => ?_⟩
  rw [hsplit] at hall
  simpa using hall.at

/-- A greeting during the setup, and a line that two chunks bring before the prompt. -/
def greeting : List (Nat × Text) :=
  [(0, "Hi"), (1, "<endsetup/>A door"), (2, " opens.<prompt>R&gt;</prompt>")]

/-- A greeting is shown in two commands, the second of which ends with a prompt. -/
theorem nothing_shown_is_lost_greeting :
    ((fresh {} none).handleAll (chunks greeting)).2 =
      [.text [⟨"Hi", {}⟩], .text [⟨"A door opens.", {}⟩, ⟨"R>", { isPrompt := true }⟩]] ∧
    (∃ p later, (fresh {} none).allPassages (chunks greeting) = p :: later ∧
      p.taken.commands = [.text [⟨"Hi", {}⟩]] ∧ ShowsWell false p.taken) := by
  obtain ⟨-, -, hshows⟩ := nothing_shown_is_lost.2 {} none greeting
  exact ⟨by decide +kernel, _, _, rfl, by decide +kernel, hshows [] _ _ rfl⟩

end Mudline.Stream
