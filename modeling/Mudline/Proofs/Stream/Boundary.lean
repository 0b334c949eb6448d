import Mudline.Proofs.Markup.Boundary
import Mudline.Proofs.Store
import Mudline.Proofs.Stream.Passage
import Mudline.Proofs.Text.Pieces

/-!
# Where chunks are cut

How the network cuts the stream into chunks should make no difference, and where it is cut at markup
it makes none. The tokens are the same, the reader takes along all that it needs, and only the time
of the last prompt may differ, for it is taken from the wall clock.
-/

namespace Mudline

namespace Stream

/-- Line ends are cut out and put in again as line feeds. -/
theorem normalized_eq (t : Text) :
    normalized t = Text.join ['\n'] (Text.piecesAfter ['\r', '\n'] 0 t) := rfl

/-- The end of a line becomes a line feed. -/
theorem normalized_lineEnd (rest : Text) :
    normalized ('\r' :: '\n' :: rest) = '\n' :: normalized rest := by
  have hpieces : Text.piecesAfter ['\r', '\n'] 0 ('\r' :: '\n' :: rest) =
      [] :: Text.piecesAfter ['\r', '\n'] 0 rest := rfl
  rw [normalized_eq, hpieces, Text.join_nil_cons (Text.piecesAfter_ne_nil _ _ _)]
  rfl

/-- Any other character stays as it is. -/
theorem normalized_other {c : Char} {rest : Text} (h : c = '\r' → rest.head? ≠ some '\n') :
    normalized (c :: rest) = c :: normalized rest := by
  have hprefix : ¬List.isPrefixOf ['\r', '\n'] (c :: rest) = true := by
    rw [List.isPrefixOf_iff_prefix, List.cons_prefix_cons]
    rintro ⟨hc, hrest⟩
    obtain ⟨tail, rfl⟩ := hrest
    exact h hc.symm rfl
  rw [normalized_eq, Text.piecesAfter, if_neg hprefix, Text.join_consFirst]
  rfl

/-- No end of a line goes across a cut before anything but a line feed. -/
theorem normalized_append {rest : Text} (hrest : rest.head? ≠ some '\n') :
    ∀ t : Text, normalized (t ++ rest) = normalized t ++ normalized rest
  | [] => rfl
  | [c] => by
    rw [List.singleton_append, normalized_other fun _ => hrest, normalized_other (by simp)]
    rfl
  | c :: d :: t => by
    by_cases hend : c = '\r' ∧ d = '\n'
    · obtain ⟨rfl, rfl⟩ := hend
      have ih := normalized_append hrest t
      rw [List.cons_append, List.cons_append, normalized_lineEnd, normalized_lineEnd, ih]
      rfl
    · have hother (u : Text) : normalized (c :: d :: u) = c :: normalized (d :: u) :=
        normalized_other fun hc => by simpa using fun hd => hend ⟨hc, hd⟩
      have ih := normalized_append hrest (d :: t)
      rw [List.cons_append] at ih
      rw [List.cons_append, List.cons_append, hother, hother, ih]
      rfl

/-- The tokens of two chunks, of which the first can be read by itself and the second begins with
markup. -/
theorem tokensOf_append {a b : Text} (hb : b.head? = some '<')
    (hends : Markup.EndsWhole {} (normalized a)) :
    tokensOf (a ++ b) = tokensOf a ++ tokensOf b := by
  obtain ⟨rest, rfl⟩ := List.head?_eq_some_iff.mp hb
  have hangle : normalized ('<' :: rest) = '<' :: normalized rest :=
    normalized_other (by simp)
  have hmarkup : Markup.AtMarkup (normalized ('<' :: rest)) := by
    rw [hangle]
    simp [Markup.AtMarkup]
  rw [tokensOf, normalized_append (by simp), Markup.read_append hends hmarkup]
  rfl

/-- The variable that holds when the last prompt came. -/
def clockVariable : Text := "gametimeupdate"

/-- Two stores differ in the time of the last prompt at most. -/
def AgreeOn (g h : Store) : Prop :=
  ∀ name, name ≠ clockVariable → g.get? name = h.get? name

/-- Stores that agree still do so after a variable is set in both. -/
theorem AgreeOn.set {g h : Store} (hagree : AgreeOn g h) (name value : Text) :
    AgreeOn (g.set name value) (h.set name value) := by
  intro other hother
  rw [Store.get?_set, Store.get?_set, hagree other hother]

/-- Stores that agree still do so after variables are set in both. -/
theorem AgreeOn.setAll {g h : Store} (hagree : AgreeOn g h) (entries : List (Text × Text)) :
    AgreeOn (g.setAll entries) (h.setAll entries) := by
  induction entries generalizing g h with
  | nil => exact hagree
  | cons entry rest ih => exact ih (hagree.set entry.1 entry.2)

/-- Stores that agree still do so after the clock is set differently in both. -/
theorem AgreeOn.set_clock {g h : Store} (hagree : AgreeOn g h) (value later : Text) :
    AgreeOn (g.set clockVariable value) (h.set clockVariable later) := by
  intro other hother
  have hne : ¬(other == clockVariable) = true := by simpa using hother
  rw [Store.get?_set, Store.get?_set, if_neg hne, if_neg hne, hagree other hother]

/-- What a token writes depends on the clock only in the time of the last prompt. -/
theorem AgreeOn.setAll_writes {g h : Store} (hagree : AgreeOn g h) (ignore : Text → Bool)
    (n m : Nat) (t : Token) :
    AgreeOn (g.setAll (writes ignore n t)) (h.setAll (writes ignore m t)) := by
  cases hkind : Kind.ofToken t with
  | prompt =>
    simp only [writes, hkind]
    exact ((hagree.set _ _).set _ _).set_clock _ _
  | _ =>
    have hsame : writes ignore n t = writes ignore m t := by simp only [writes, hkind]
    rw [hsame]
    exact hagree.setAll _

/-- Stores that agree lead to the same announcements. -/
theorem AgreeOn.announce {g h : Store} (hagree : AgreeOn g h) (setupDone : Bool) (t : Token) :
    announce setupDone g t = announce setupDone h t := by
  have hleft : g.get? "lefthand" = h.get? "lefthand" := hagree _ (by decide)
  have hright : g.get? "righthand" = h.get? "righthand" := hagree _ (by decide)
  simp only [Stream.announce, handValue, hleft, hright]

/-- Two readers differ at most in the time of the last prompt and in what the wall clock shows. -/
structure Agree (s u : Stream) : Prop where
  /-- The tokens have left the same behind. -/
  state : s.state = u.state
  /-- The same waits to be shown. -/
  pending : s.pending = u.pending
  /-- The same creatures are left out. -/
  ignored : s.ignored = u.ignored
  /-- The shared variables are the same but for the time of the last prompt. -/
  globals : AgreeOn s.globals u.globals

/-- Readers that differ in their clock agree. -/
theorem agree_now (s : Stream) (n m : Nat) : Agree { s with now := n } { s with now := m } :=
  ⟨rfl, rfl, rfl, fun _ _ => rfl⟩

/-- Agreement passes on. -/
theorem Agree.trans {s u v : Stream} (hsu : Agree s u) (huv : Agree u v) : Agree s v :=
  ⟨hsu.state.trans huv.state, hsu.pending.trans huv.pending, hsu.ignored.trans huv.ignored,
    fun name hname => (hsu.globals name hname).trans (huv.globals name hname)⟩

/-- Readers that agree process a token alike. -/
theorem Agree.process {s u : Stream} (h : Agree s u) (t : Token) :
    Agree (s.process t).1 (u.process t).1 ∧ (s.process t).2 = (u.process t).2 := by
  have hignores : s.ignores = u.ignores := by
    funext name
    rw [ignores, ignores, h.ignored]
  have hglobals := h.globals.setAll_writes s.ignores s.now u.now t
  rw [hignores] at hglobals
  refine ⟨⟨?_, h.pending, h.ignored, ?_⟩, ?_⟩
  · simp only [Stream.process, h.state]
  · simpa only [Stream.process, hignores] using hglobals
  · simp only [Stream.process, h.state, hignores]
    exact hglobals.announce _ t

/-- Readers that agree queue a run alike. -/
theorem Agree.queue {s u : Stream} (h : Agree s u) (isPrompt : Bool) (r : Display.Run) :
    Agree (s.queue isPrompt r).1 (u.queue isPrompt r).1 ∧
      (s.queue isPrompt r).2 = (u.queue isPrompt r).2 := by
  rw [Stream.queue, Stream.queue, h.state, h.pending]
  split
  · exact ⟨⟨rfl, rfl, h.ignored, h.globals⟩, rfl⟩
  · exact ⟨⟨rfl, rfl, h.ignored, h.globals⟩, rfl⟩

/-- Readers that agree read a token alike. -/
theorem Agree.take {s u : Stream} (h : Agree s u) (t : Token) :
    Agree (s.take t).reader (u.take t).reader ∧ (s.take t).commands = (u.take t).commands ∧
      (s.take t).goesOn = (u.take t).goesOn := by
  obtain ⟨hprocess, hcommands⟩ := h.process t
  have hstate : (s.process t).1.state = (u.process t).1.state := hprocess.state
  have hderived : s.derived? t = u.derived? t := congrArg (·.run? t) hstate
  have hbare : s.isBarePrompt t = u.isBarePrompt t := by
    rw [isBarePrompt, isBarePrompt, h.pending]
  have hpassed : Agree (s.passed t) (u.passed t) :=
    ⟨congrArg (·.pass t) hstate, hprocess.pending, hprocess.ignored, hprocess.globals⟩
  rw [Stream.take, Stream.take, hcommands, hderived, hbare]
  split
  · exact ⟨hprocess, rfl, rfl⟩
  · split
    · exact ⟨hpassed, rfl, rfl⟩
    · rename_i r _
      split
      · exact ⟨hpassed, rfl, rfl⟩
      · obtain ⟨hqueue, hshown⟩ := hpassed.queue (t.kind == "prompt") r
        exact ⟨hqueue, congrArg ((u.process t).2 ++ ·) hshown, rfl⟩

/-- Readers that agree read all tokens alike. -/
theorem Agree.readTokens {s u : Stream} (h : Agree s u) (tokens : List Token) :
    Agree (s.readTokens tokens).1 (u.readTokens tokens).1 ∧
      (s.readTokens tokens).2 = (u.readTokens tokens).2 := by
  induction tokens generalizing s u with
  | nil => exact ⟨h, rfl⟩
  | cons t rest ih =>
    obtain ⟨hreader, hcommands, hgoes⟩ := h.take t
    obtain ⟨hlast, hlater⟩ := ih hreader
    rw [readTokens_cons, readTokens_cons, hgoes, hcommands, hlater]
    split
    · exact ⟨hlast, rfl⟩
    · exact ⟨hreader, rfl⟩

/-- A token brings the faults of what announces it. -/
theorem firstFault?_take (s : Stream) (t : Token) :
    Command.firstFault? (s.take t).commands = Command.firstFault? (s.process t).2 := by
  have hcase := s.takeCase t
  generalize s.take t = taken at hcase
  cases hcase with
  | shown r hrun hbare hnow =>
    rw [Command.firstFault?, List.findSome?_append]
    exact Option.or_none
  | _ => rfl

/-- Unless it brings a fault or is a bare prompt, a token is followed by the next. -/
theorem goesOn_take {s : Stream} {t : Token} (hbare : s.isBarePrompt t = false) :
    (s.take t).goesOn = (Command.firstFault? (s.take t).commands).isNone := by
  rw [firstFault?_take]
  cases hfault : Command.firstFault? (s.process t).2 with
  | some f => simp [Stream.take, hfault]
  | none =>
    have hcase := s.takeCase t
    generalize s.take t = taken at hcase
    cases hcase with
    | fault hsome => simp [hfault] at hsome
    | bare htrue => simp [hbare] at htrue
    | _ => rfl

/-- Without bare prompts, all tokens of a chunk are read unless one brings a fault. -/
theorem goesOn_of_no_fault {s : Stream} {tokens : List Token}
    (hbare : ∀ p ∈ s.passages tokens, p.before.isBarePrompt p.token = false)
    (hfault : Command.firstFault? (s.readTokens tokens).2 = none) :
    ∀ p ∈ s.passages tokens, p.taken.goesOn = true := by
  intro p hp
  have hnone : Command.firstFault? p.taken.commands = none := by
    rw [readTokens_commands, Command.firstFault?, List.findSome?_eq_none_iff] at hfault
    rw [Command.firstFault?, List.findSome?_eq_none_iff]
    exact fun c hc => hfault c (List.mem_flatMap.mpr ⟨p, hp, hc⟩)
  have hgoes : p.taken.goesOn = (Command.firstFault? p.taken.commands).isNone :=
    goesOn_take (hbare p hp)
  rw [hgoes, hnone]
  rfl

/-- What stops the reading of the first tokens makes all others go unread. -/
theorem readTokens_append_of_fault {s : Stream} {front : List Token}
    (hbare : ∀ p ∈ s.passages front, p.before.isBarePrompt p.token = false)
    (hfault : Command.firstFault? (s.readTokens front).2 ≠ none) (rest : List Token) :
    s.readTokens (front ++ rest) = s.readTokens front := by
  induction front generalizing s with
  | nil => exact absurd rfl hfault
  | cons t front ih =>
    rw [passages, List.forall_mem_cons] at hbare
    rw [readTokens_cons] at hfault
    rw [List.cons_append, readTokens_cons, readTokens_cons]
    split
    · rename_i hgoes
      -- A token that is followed by the next brings no fault, so the fault comes later.
      rw [if_pos hgoes] at hbare hfault
      have hnone : Command.firstFault? (s.take t).commands = none := by
        rw [goesOn_take hbare.1] at hgoes
        simpa using hgoes
      have hlater : Command.firstFault? ((s.take t).reader.readTokens front).2 ≠ none := by
        rwa [Command.firstFault?, List.findSome?_append, ← Command.firstFault?, hnone,
          Option.none_or] at hfault
      rw [ih hbare.2 hlater]
    · rfl

/-- A chunk that is cut where markup begins, with nothing open or cut off before it, does what its
two parts do one after the other, unless the first part ends early: at a prompt without anything to
show before it, which is excluded, or with a fault, behind which nothing is read either way. The
wall clock may show another time for each. -/
theorem read_across_chunks (s : Stream) {a b : Text} (hb : b.head? = some '<')
    (hends : Markup.EndsWhole {} (normalized a)) (n₁ n₂ n₃ : Nat)
    (hbare : ∀ p ∈ passages { s with now := n₂ } (tokensOf a),
      p.before.isBarePrompt p.token = false) :
    let whole := read { s with now := n₁ } (a ++ b)
    let first := read { s with now := n₂ } a
    let second := read { first.1 with now := n₃ } b
    (Command.firstFault? first.2 = none →
      whole.2 = first.2 ++ second.2 ∧ Agree whole.1 second.1) ∧
    (Command.firstFault? first.2 ≠ none → whole.2 = first.2 ∧ Agree whole.1 first.1) := by
  intro whole first second
  obtain ⟨hreader, hcommands⟩ :=
    (agree_now s n₁ n₂).readTokens (tokensOf a ++ tokensOf b)
  have htokens : whole = readTokens { s with now := n₁ } (tokensOf a ++ tokensOf b) := by
    rw [← tokensOf_append hb hends]
    rfl
  rw [← htokens] at hreader hcommands
  refine ⟨fun hnone => ?_, fun hsome => ?_⟩
  · have hgoes := goesOn_of_no_fault hbare hnone
    rw [readTokens_append hgoes] at hreader hcommands
    obtain ⟨hlast, hlater⟩ := (agree_now first.1 first.1.now n₃).readTokens (tokensOf b)
    exact ⟨hcommands.trans (congrArg (first.2 ++ ·) hlater), hreader.trans hlast⟩
  · rw [readTokens_append_of_fault hbare hsome] at hreader hcommands
    exact ⟨hcommands, hreader⟩

/-- A chunk in which a door opens, up to the prompt. -/
def doorOpens : Text := "<endsetup/><b>A door</b> opens.\r\n"

/-- The prompt after it. -/
def doorPrompt : Text := "<prompt time=\"5\">R&gt;</prompt>"

/-- A door that opens in one chunk and a prompt in the next are read as in one. -/
theorem read_across_chunks_door :
    Markup.EndsWhole {} (normalized doorOpens) ∧
    (read { now := 7 } (doorOpens ++ doorPrompt)).2 =
      [.text [⟨"A door opens.\n", {}⟩, ⟨"R>", { isPrompt := true }⟩]] ∧
    (read { now := 7 } (doorOpens ++ doorPrompt)).2 =
      (read { now := 8 } doorOpens).2 ++
        (read { (read { now := 8 } doorOpens).1 with now := 9 } doorPrompt).2 := by
  have hends : Markup.EndsWhole {} (normalized doorOpens) := by decide +kernel
  have hbare : ∀ p ∈ passages { now := 8 } (tokensOf doorOpens),
      p.before.isBarePrompt p.token = false := by
    decide +kernel
  have hjoined := read_across_chunks {} (b := doorPrompt) (by decide) hends 7 8 9 hbare
  exact ⟨hends, by decide +kernel, (hjoined.1 (by decide +kernel)).1⟩

end Stream

end Mudline
