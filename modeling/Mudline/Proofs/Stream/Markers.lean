import Mudline.Proofs.Stream.Batch

/-!
# The state is the history of the markers

What a token is shown like depends on the markers before it. This file says which: of each sort of
marker only the last counts, and the window is the one that was named last since the text went back
to the main window. The reader keeps no more than that, and every run is shown in the window and the
style that the history calls for, although each kind of token takes its window in a way of its own.
-/

namespace Mudline.Stream

open Display

/-- Whether a token has the given name. -/
def isNamed (name : Text) (t : Token) : Bool :=
  t.kind == name

/-- Whether a token chooses between plain and monospaced text. -/
def choosesMono (t : Token) : Bool :=
  isNamed "output" t && (t.attr? "class").isSome

/-- Whether a token names the window that text goes to. -/
def namesWindow (t : Token) : Bool :=
  isNamed "pushstream" t && (t.attr? "id").isSome

/-- The last token that satisfies a test. -/
def lastWith? (test : Token → Bool) (ts : List Token) : Option Token :=
  (ts.filter test).getLast?

/-- Whether the last marker of bold text begins it. -/
def boldAfter (ts : List Token) : Bool :=
  (lastWith? (fun t => isNamed "pushbold" t || isNamed "popbold" t) ts).any (isNamed "pushbold")

/-- Whether the last choice was for monospaced text. -/
def monoAfter (ts : List Token) : Bool :=
  (lastWith? choosesMono ts).any fun t => t.attr? "class" == some ("mono" : Text)

/-- Whether the last marker of text in a window of its own begins it. -/
def inStreamAfter (ts : List Token) : Bool :=
  (lastWith? (fun t => isNamed "pushstream" t || isNamed "popstream" t) ts).any
    (isNamed "pushstream")

/-- The tokens since the text last went back to the main window. -/
def sincePop (ts : List Token) : List Token :=
  (ts.reverse.takeWhile (!isNamed "popstream" ·)).reverse

/-- The window that was named last since the text went back to the main window, in lower case. -/
def windowAfter (ts : List Token) : Text :=
  ((lastWith? namesWindow (sincePop ts)).map fun t => Unicode.lower (t.attrD "id")).getD []

/-- The state is what the markers among the tokens so far say. -/
structure Remembers (ts : List Token) (s : State) : Prop where
  /-- Whether text is bold. -/
  bold : s.bold = boldAfter ts
  /-- Whether text is monospaced. -/
  mono : s.mono = monoAfter ts
  /-- Whether text goes to a window of its own. -/
  inStream : s.inStream = inStreamAfter ts
  /-- The window that text goes to. -/
  streamId : s.streamId = windowAfter ts
  /-- Whether the setup is over. -/
  setupDone : s.setupDone = ts.any (isNamed "endsetup")
  /-- Text in the main window has no name of a window. -/
  mainWindow : s.inStream = false → s.streamId = []

/-- A run is shown as the markers up to its token say. A prompt is in the main window, and so is the
end of a line, which has no style at all. -/
structure ShownAs (ts : List Token) (t : Token) (r : Run) : Prop where
  /-- The window. -/
  window : r.style.window = if t.kind = "prompt" then [] else windowAfter ts
  /-- The end of a line is a line feed without a style. -/
  lineEnd : t.kind = "eot" → r = { text := ['\n'] }
  /-- Whether the text is monospaced. -/
  mono : t.kind ≠ "eot" → r.style.mono = monoAfter ts
  /-- Whether the text is bold. -/
  bold : t.kind ≠ "eot" → r.style.bold = (boldAfter ts || isNamed "b" t && inStreamAfter ts)

/-- The last token with some property is the one at the end or the last before it. -/
theorem lastWith?_append (test : Token → Bool) (ts : List Token) (t : Token) :
    lastWith? test (ts ++ [t]) = if test t then some t else lastWith? test ts := by
  rw [lastWith?, List.filter_append]
  cases htest : test t with
  | true => simp [htest]
  | false => simp [htest, lastWith?]

/-- A marker that is not the last of its sort says nothing. -/
theorem any_lastWith?_append (test choice : Token → Bool) (ts : List Token) (t : Token) :
    (lastWith? test (ts ++ [t])).any choice =
      if test t then choice t else (lastWith? test ts).any choice := by
  rw [lastWith?_append]
  split <;> rfl

/-- The tokens since a window was left begin anew when one is left. -/
theorem sincePop_append (ts : List Token) (t : Token) :
    sincePop (ts ++ [t]) = if isNamed "popstream" t then [] else sincePop ts ++ [t] := by
  rw [sincePop, List.reverse_append, List.reverse_singleton, List.singleton_append,
    List.takeWhile_cons]
  cases hpop : isNamed "popstream" t with
  | true => rfl
  | false => exact List.reverse_cons

/-- The window is the one that a token names, or none after it was left. -/
theorem windowAfter_append (ts : List Token) (t : Token) :
    windowAfter (ts ++ [t]) =
      if isNamed "popstream" t then []
      else if namesWindow t then Unicode.lower (t.attrD "id") else windowAfter ts := by
  rw [windowAfter, sincePop_append]
  split
  · rfl
  · rw [lastWith?_append]
    split <;> rfl

/-- A token has a name if it is of the kind that the table gives to the name. -/
theorem isNamed_iff (name : Text) (k : Kind) (h : (name, k) ∈ Kind.table) (t : Token) :
    isNamed name t = decide (Kind.ofToken t = k) := by
  rw [isNamed, Bool.eq_iff_iff, beq_iff_eq, decide_eq_true_iff, Kind.ofToken_eq_iff h]

/-- What a marker changes of the state. -/
theorem mark_eq (s : State) (t : Token) :
    ∃ swallow, s.mark t = { s with
      bold := if isNamed "pushbold" t || isNamed "popbold" t then isNamed "pushbold" t else s.bold
      inStream :=
        if isNamed "pushstream" t || isNamed "popstream" t then isNamed "pushstream" t
        else s.inStream
      streamId :=
        if isNamed "popstream" t then []
        else if namesWindow t then Unicode.lower (t.attrD "id") else s.streamId
      setupDone := s.setupDone || isNamed "endsetup" t
      swallowLineEnd := swallow } := by
  have hpushBold := isNamed_iff "pushbold" .pushBold (by decide) t
  have hpopBold := isNamed_iff "popbold" .popBold (by decide) t
  have hpushStream := isNamed_iff "pushstream" .pushStream (by decide) t
  have hpopStream := isNamed_iff "popstream" .popStream (by decide) t
  have hend := isNamed_iff "endsetup" .endSetup (by decide) t
  refine ⟨(s.mark t).swallowLineEnd, ?_⟩
  simp only [namesWindow, hpushBold, hpopBold, hpushStream, hpopStream, hend]
  cases hkind : Kind.ofToken t with
  | pushStream =>
    simp only [State.mark, hkind, Token.attrD]
    cases t.attr? "id" <;> simp
  | _ => simp [State.mark, hkind]

/-- What a token that has been shown changes of the state. -/
theorem pass_eq (s : State) (t : Token) :
    ∃ swallow, s.pass t = { s with
      mono := if choosesMono t then t.attr? "class" == some ("mono" : Text) else s.mono
      lastToken := some t
      swallowLineEnd := swallow } := by
  have houtput := isNamed_iff "output" .output (by decide) t
  refine ⟨(s.pass t).swallowLineEnd, ?_⟩
  simp only [choosesMono, houtput]
  cases hkind : Kind.ofToken t with
  | output =>
    simp only [State.pass, hkind]
    cases t.attr? "class" <;> simp
  | lineEnd =>
    simp only [State.pass, hkind]
    split <;> simp
  | _ => simp [State.pass, hkind]

/-- The state after a token is what the markers up to it say. -/
theorem Remembers.next {ts : List Token} {s : State} (h : Remembers ts s) (t : Token) :
    Remembers (ts ++ [t]) ((s.mark t).pass t) := by
  obtain ⟨swallow, hmark⟩ := mark_eq s t
  obtain ⟨swallow', hpass⟩ := pass_eq (s.mark t) t
  rw [hpass, hmark]
  constructor
  case bold => simp only [h.bold, boldAfter, any_lastWith?_append]
  case mono => simp only [h.mono, monoAfter, any_lastWith?_append]
  case inStream => simp only [h.inStream, inStreamAfter, any_lastWith?_append]
  case streamId => simp only [h.streamId, windowAfter_append]
  case setupDone => simp [h.setupDone]
  case mainWindow =>
    -- Only a token that begins text in a window of its own names one.
    dsimp only [namesWindow]
    intro hmain
    by_cases hpop : isNamed "popstream" t
    · rw [if_pos hpop]
    · by_cases hpush : isNamed "pushstream" t
      · simp only [hpush, Bool.true_or, if_true, reduceCtorEq] at hmain
      · simp only [hpush, hpop, Bool.or_false, Bool.false_and, if_false, reduceCtorEq] at hmain ⊢
        exact h.mainWindow hmain

/-- A token that is not shown any more, and would not have changed the style, has had its effect. -/
theorem Remembers.mark {ts : List Token} {s : State} (h : Remembers ts s) {t : Token}
    (hmono : choosesMono t = false) : Remembers (ts ++ [t]) (s.mark t) := by
  have hnext := h.next t
  obtain ⟨swallow, hpass⟩ := pass_eq (s.mark t) t
  rw [hpass, hmono] at hnext
  exact ⟨hnext.bold, hnext.mono, hnext.inStream, hnext.streamId, hnext.setupDone, hnext.mainWindow⟩

/-- Only a token for output chooses the print. -/
theorem choosesMono_of_kind {t : Token} (h : Kind.ofToken t ≠ .output) : choosesMono t = false := by
  rw [choosesMono, isNamed_iff "output" .output (by decide) t, decide_eq_false h, Bool.false_and]

/-- The window of a token that is not in the main window by itself. -/
theorem Remembers.ownWindow {ts : List Token} {s : State} (h : Remembers ts s) :
    s.ownWindow = s.streamId := by
  rw [State.ownWindow]
  split
  · rfl
  · rename_i hmain
    exact (h.mainWindow (by simpa using hmain)).symm

/-- Adjoining a run changes nothing of its style but the preset. -/
theorem adjoin_style (last : Token) (r : Run) :
    (State.adjoin last r).style =
      { r.style with preset := (State.adjoin last r).style.preset } := by
  unfold State.adjoin
  dsimp only
  split <;> split <;> rfl

/-- A text is shown in its window and in the current style, perhaps with the name of a style. -/
theorem textRun_style (s : State) (t : Token) :
    (s.textRun t).style = { window := s.streamId, bold := s.bold, mono := s.mono,
                            preset := (s.textRun t).style.preset } := by
  unfold State.textRun
  cases s.lastToken with
  | none => rfl
  | some last => exact adjoin_style last _

/-- No line ends in a window of its own. -/
theorem inStream_of_lineEnds {s : State} (h : s.lineEnds = true) : s.inStream = false := by
  unfold State.lineEnds at h
  split at h
  · simp only [Bool.and_eq_true, Bool.not_eq_true'] at h
    exact h.1.2
  · cases h

/-- What is shown of a token is shown as the markers so far say. -/
theorem Remembers.shownAs {ts : List Token} {s : State} (h : Remembers ts s) {t : Token} {r : Run}
    (hrun : s.run? t = some r) : ShownAs ts t r := by
  have hprompt : t.kind = "prompt" ↔ Kind.ofToken t = .prompt :=
    (Kind.ofToken_eq_iff (by decide)).symm
  have hlineEnd : t.kind = "eot" ↔ Kind.ofToken t = .lineEnd :=
    (Kind.ofToken_eq_iff (by decide)).symm
  have hbold := isNamed_iff "b" .bold (by decide) t
  have hown := h.ownWindow
  suffices hshown : (r.style.window = if Kind.ofToken t = .prompt then [] else s.streamId) ∧
      (Kind.ofToken t = .lineEnd → r = { text := ['\n'] }) ∧
      (Kind.ofToken t ≠ .lineEnd → r.style.mono = s.mono) ∧
      (Kind.ofToken t ≠ .lineEnd →
        r.style.bold = (s.bold || decide (Kind.ofToken t = .bold) && s.inStream)) by
    obtain ⟨hwindow, hend, hmono, hb⟩ := hshown
    rw [h.streamId] at hwindow
    rw [h.mono] at hmono
    rw [h.bold, h.inStream] at hb
    exact ⟨by simpa only [hprompt] using hwindow, by simpa only [hlineEnd] using hend,
      by simpa only [ne_eq, hlineEnd] using hmono, by simpa only [ne_eq, hlineEnd, hbold] using hb⟩
  cases hkind : Kind.ofToken t <;> simp only [State.run?, hkind, reduceCtorEq] at hrun
  case text =>
    obtain rfl := Option.some.inj hrun
    rw [textRun_style]
    simp
  case lineEnd =>
    split at hrun
    · rename_i hends
      obtain rfl := Option.some.inj hrun
      have hmain : s.streamId = [] := by
        simp only [Bool.and_eq_true] at hends
        exact h.mainWindow (inStream_of_lineEnds hends.1)
      simp [hmain]
    · cases hrun
  case command =>
    obtain ⟨face, -, rfl⟩ := Option.map_eq_some_iff.mp hrun
    simp [State.plainRun, hown]
  case prompt | link | bold | preset =>
    obtain rfl := Option.some.inj hrun
    simp [State.plainRun, hown]

/-- A token that meets a fault does not choose the print. -/
theorem choosesMono_of_fault {s : Stream} {t : Token}
    (h : (Command.firstFault? (s.process t).2).isSome = true) : choosesMono t = false := by
  refine choosesMono_of_kind fun hkind => ?_
  simp [process, announce, hkind, Command.firstFault?] at h

/-- A token that shows a run does not choose the print. -/
theorem choosesMono_of_run? {s : State} {t : Token} {r : Run} (h : s.run? t = some r) :
    choosesMono t = false := by
  refine choosesMono_of_kind fun hkind => ?_
  simp [State.run?, hkind] at h

/-- What a token leaves behind, and what is shown of it, is what the markers up to it say. -/
theorem Remembers.take {ts : List Token} {s : Stream} (h : Remembers ts s.state) (t : Token) :
    Remembers (ts ++ [t]) (s.take t).reader.state ∧
      ∀ r, s.derived? t = some r → ShownAs (ts ++ [t]) t r := by
  refine ⟨?_, fun r hrun => (h.mark (choosesMono_of_run? hrun)).shownAs hrun⟩
  have hcase := s.takeCase t
  generalize s.take t = taken at hcase
  cases hcase with
  | fault hfault => exact h.mark (choosesMono_of_fault hfault)
  | quiet _ | bare _ | shown _ _ _ _ | held _ _ _ _ => exact h.next t

/-- The tokens of passages. -/
def tokensRead (ps : List Passage) : List Token :=
  ps.map (·.token)

/-- Before each of the tokens that are read, the state is what the markers among `ts` and the tokens
before it say. -/
def AllRemember : List Token → List Passage → Prop
  | _, [] => True
  | ts, p :: ps => Remembers ts p.before.state ∧ AllRemember (ts ++ [p.token]) ps

/-- Tokens are remembered behind others that are. -/
theorem allRemember_append {ts : List Token} {ps qs : List Passage} (hps : AllRemember ts ps)
    (hqs : AllRemember (ts ++ tokensRead ps) qs) : AllRemember ts (ps ++ qs) := by
  induction ps generalizing ts with
  | nil => simpa [tokensRead] using hqs
  | cons p ps ih => exact ⟨hps.1, ih hps.2 (by simpa [tokensRead] using hqs)⟩

/-- Before each of the tokens, the state remembers those that came before. -/
theorem AllRemember.at {ts : List Token} {front later : List Passage} {p : Passage}
    (h : AllRemember ts (front ++ p :: later)) :
    Remembers (ts ++ tokensRead front) p.before.state := by
  induction front generalizing ts with
  | nil => simpa [tokensRead] using h.1
  | cons q front ih => simpa [tokensRead] using ih h.2

/-- A state that remembers what came before does so after more tokens. -/
theorem Remembers.readTokens {ts : List Token} {s : Stream} (h : Remembers ts s.state)
    (tokens : List Token) :
    Remembers (ts ++ tokensRead (s.passages tokens)) (s.readTokens tokens).1.state ∧
      AllRemember ts (s.passages tokens) := by
  induction tokens generalizing ts s with
  | nil => simpa [passages, tokensRead, AllRemember] using h
  | cons t rest ih =>
    have hnext := (h.take t).1
    rw [readTokens_cons, passages]
    split
    · obtain ⟨hlast, hall⟩ := ih hnext
      exact ⟨by simpa [tokensRead] using hlast, h, hall⟩
    · exact ⟨by simpa [tokensRead] using hnext, h, trivial⟩

/-- So it is with several inputs. -/
theorem Remembers.handleAll {ts : List Token} {s : Stream} (h : Remembers ts s.state)
    (cs : List (Nat × Text)) :
    Remembers (ts ++ tokensRead (s.allPassages (chunks cs))) (s.handleAll (chunks cs)).1.state ∧
      AllRemember ts (s.allPassages (chunks cs)) := by
  induction cs generalizing ts s with
  | nil => simpa [chunks, allPassages, tokensRead, AllRemember, Stream.handleAll] using h
  | cons c cs ih =>
    have hclock : Remembers ts { s with now := c.1 }.state := h
    obtain ⟨hfirst, hall⟩ := hclock.readTokens (tokensOf c.2)
    obtain ⟨hlast, hlater⟩ := ih hfirst
    refine ⟨?_, allRemember_append hall hlater⟩
    have hsplit : tokensRead (s.allPassages (chunks (c :: cs))) =
        tokensRead (s.inputPassages (.chunk c.1 c.2)) ++
          tokensRead ((s.handle (.chunk c.1 c.2)).1.allPassages (chunks cs)) := List.map_append
    rw [hsplit, ← List.append_assoc]
    exact hlast

/-- The state of a reader that began afresh, and that never began its setup again, is what the
markers among all tokens that were read say: at the end of the chunks, and after each of the tokens.
And whatever was shown of a token was shown as the markers up to it say. -/
theorem state_is_history (globals : Store) (ignored : Option Regex) (cs : List (Nat × Text)) :
    Remembers (tokensRead ((fresh globals ignored).allPassages (chunks cs)))
      ((fresh globals ignored).handleAll (chunks cs)).1.state ∧
    ∀ front p later, (fresh globals ignored).allPassages (chunks cs) = front ++ p :: later →
      Remembers (tokensRead front ++ [p.token]) p.taken.reader.state ∧
      ∀ r, p.before.derived? p.token = some r →
        ShownAs (tokensRead front ++ [p.token]) p.token r := by
  have hfresh : Remembers [] (fresh globals ignored).state :=
    ⟨rfl, rfl, rfl, rfl, rfl, fun _ => rfl⟩
  obtain ⟨hlast, hall⟩ := hfresh.handleAll cs
  refine ⟨hlast, fun front p later hsplit => ?_⟩
  rw [hsplit] at hall
  exact hall.at.take p.token

/-- A thought in bold, in a window that an earlier chunk named, and a word in the main window. -/
def thought : List (Nat × Text) :=
  [(0, "<pushStream id='Thoughts'/>"), (1, "<pushBold/>Hail.<popStream/><b>Back.</b>")]

/-- A thought in bold print is shown in the window of thoughts. -/
theorem state_is_history_thought :
    ∃ front p later, (fresh {} none).allPassages (chunks thought) = front ++ p :: later ∧
      p.before.derived? p.token = some ⟨"Hail.", { window := "thoughts", bold := true }⟩ ∧
      Remembers (tokensRead front ++ [p.token]) p.taken.reader.state ∧
      ShownAs (tokensRead front ++ [p.token]) p.token
        ⟨"Hail.", { window := "thoughts", bold := true }⟩ := by
  have hlength : 2 < ((fresh {} none).allPassages (chunks thought)).length := by decide +kernel
  have hsplit := (List.take_append_drop 2 ((fresh {} none).allPassages (chunks thought))).symm
  rw [List.drop_eq_getElem_cons hlength] at hsplit
  have hderived : (((fresh {} none).allPassages (chunks thought))[2].before.derived?
      ((fresh {} none).allPassages (chunks thought))[2].token) =
        some ⟨"Hail.", { window := "thoughts", bold := true }⟩ := by
    clear hsplit
    decide +kernel +revert
  obtain ⟨hstate, hshown⟩ := (state_is_history {} none thought).2 _ _ _ hsplit
  exact ⟨_, _, _, hsplit, hderived, hstate, hshown _ hderived⟩

end Mudline.Stream
