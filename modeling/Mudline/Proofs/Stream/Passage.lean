import Mudline.Stream.Reader

/-!
# The stream, token by token

A chunk is read token by token, and each token does one of five things: it brings a fault, it has
nothing to show, it is a prompt that ends its chunk, it shows what is batched together with what it
adds, or it adds to the batch. What is said about reading a chunk is said about a token first, and
then by induction on the tokens.
-/

namespace Mudline.Stream

/-- Each kind but the last has one name. -/
theorem Kind.ofToken_eq_iff {name : Text} {k : Kind} (h : (name, k) ∈ Kind.table) {t : Token} :
    Kind.ofToken t = k ↔ t.kind = name := by
  have hnames : ∀ e ∈ table, table.lookup e.1 = some e.2 := by decide +kernel
  have hkinds : ∀ e ∈ table, e.2 ≠ .other ∧ ∀ e' ∈ table, e'.2 = e.2 → e'.1 = e.1 := by
    decide +kernel
  constructor
  · intro hkind
    cases hlookup : table.lookup t.kind with
    | none =>
      rw [ofToken, hlookup] at hkind
      exact absurd hkind.symm (hkinds _ h).1
    | some found =>
      rw [ofToken, hlookup] at hkind
      obtain ⟨before, later, htable, -⟩ := List.lookup_eq_some_iff.mp hlookup
      have hmem : (t.kind, found) ∈ table := by simp [htable]
      exact (hkinds _ h).2 _ hmem hkind
  · rintro rfl
    rw [ofToken, hnames _ h]
    rfl

/-- What reading one token yields. -/
structure Taken where
  /-- The reader after the token. -/
  reader : Stream
  /-- The commands of the token. -/
  commands : List Command
  /-- Whether the next token is read. -/
  goesOn : Bool

/-- The reader after a token, but for what is to be shown. -/
def passed (s : Stream) (t : Token) : Stream :=
  ((s.process t).1.display t).1

/-- The run that a token is shown as when it is read. -/
def derived? (s : Stream) (t : Token) : Option Display.Run :=
  ((s.process t).1.display t).2

/-- Whether a token is a prompt without anything to show before it. -/
def isBarePrompt (s : Stream) (t : Token) : Bool :=
  t.kind == "prompt" && s.pending.isEmpty

/-- Reads one token. -/
def take (s : Stream) (t : Token) : Taken :=
  if (Command.firstFault? (s.process t).2).isSome then ⟨(s.process t).1, (s.process t).2, false⟩
  else match s.derived? t with
    | none => ⟨s.passed t, (s.process t).2, true⟩
    | some r =>
      if s.isBarePrompt t then ⟨s.passed t, (s.process t).2, false⟩
      else
        let queued := (s.passed t).queue (t.kind == "prompt") r
        ⟨queued.1, (s.process t).2 ++ queued.2, true⟩

/-- No tokens leave the reader as it is. -/
@[simp] theorem readTokens_nil (s : Stream) : s.readTokens [] = (s, []) := rfl

/-- Tokens are read one after the other. -/
theorem readTokens_cons (s : Stream) (t : Token) (rest : List Token) :
    s.readTokens (t :: rest) =
      if (s.take t).goesOn then
        (((s.take t).reader.readTokens rest).1,
          (s.take t).commands ++ ((s.take t).reader.readTokens rest).2)
      else ((s.take t).reader, (s.take t).commands) := by
  have hdisplay : (s.process t).1.display t = (s.passed t, s.derived? t) := rfl
  have hbare : (t.kind == "prompt" && (s.passed t).pending.isEmpty) = s.isBarePrompt t := rfl
  rw [readTokens, take]
  simp only [hdisplay]
  split
  · rfl
  · cases s.derived? t with
    | none => rfl
    | some r =>
      simp only [hbare]
      split <;> rfl

/-- What a token can do. -/
inductive TakeCase (s : Stream) (t : Token) : Taken → Prop
  /-- It brings a fault. -/
  | fault (hfault : (Command.firstFault? (s.process t).2).isSome = true) :
      TakeCase s t ⟨(s.process t).1, (s.process t).2, false⟩
  /-- It has nothing to show. -/
  | quiet (hrun : s.derived? t = none) : TakeCase s t ⟨s.passed t, (s.process t).2, true⟩
  /-- It ends its chunk. -/
  | bare (hbare : s.isBarePrompt t = true) : TakeCase s t ⟨s.passed t, (s.process t).2, false⟩
  /-- It shows all that was to be shown. -/
  | shown (r : Display.Run) (hrun : s.derived? t = some r) (hbare : s.isBarePrompt t = false)
      (hnow : t.kind = "prompt" ∨ (s.passed t).state.setupDone = false) :
      TakeCase s t ⟨{ s.passed t with pending := [] },
        (s.process t).2 ++ [.text (Display.combine (s.pending ++ [r]))], true⟩
  /-- It adds to what is to be shown. -/
  | held (r : Display.Run) (hrun : s.derived? t = some r) (hprompt : t.kind ≠ "prompt")
      (hdone : (s.passed t).state.setupDone = true) :
      TakeCase s t ⟨{ s.passed t with pending := s.pending ++ [r] }, (s.process t).2, true⟩

/-- A token that is taken up meets a fault, shows a run, or shows nothing. -/
theorem takeCase (s : Stream) (t : Token) : TakeCase s t (s.take t) := by
  rw [take]
  split
  · rename_i hfault
    exact .fault hfault
  · split
    · rename_i hrun
      exact .quiet hrun
    · rename_i r hrun
      split
      · rename_i hbare
        exact .bare hbare
      · rename_i hbare
        have hpending : (s.passed t).pending = s.pending := rfl
        simp only [queue, hpending]
        cases hnow : (t.kind == "prompt" || !(s.passed t).state.setupDone) with
        | true => exact .shown r hrun (by simpa using hbare) (by simpa using hnow)
        | false =>
          simp only [Bool.or_eq_false_iff, beq_eq_false_iff_ne, Bool.not_eq_false'] at hnow
          simpa using TakeCase.held r hrun hnow.1 hnow.2

/-- A chunk in which every line ends in a line feed only. -/
def normalized (chunk : Text) : Text :=
  Text.replace "\r\n" "\n" chunk

/-- The tokens of a chunk. -/
def tokensOf (chunk : Text) : List Token :=
  Markup.read (normalized chunk)

/-- A token that is read, and the reader before it. -/
structure Passage where
  /-- The reader before the token. -/
  before : Stream
  /-- The token. -/
  token : Token

/-- What the token of a passage yields. -/
def Passage.taken (p : Passage) : Taken :=
  p.before.take p.token

/-- The tokens that are read of those of a chunk. -/
def passages (s : Stream) : List Token → List Passage
  | [] => []
  | t :: rest => ⟨s, t⟩ :: if (s.take t).goesOn then (s.take t).reader.passages rest else []

/-- The commands of a chunk are those of the tokens that are read. -/
theorem readTokens_commands (s : Stream) (tokens : List Token) :
    (s.readTokens tokens).2 = (s.passages tokens).flatMap (·.taken.commands) := by
  induction tokens generalizing s with
  | nil => rfl
  | cons t rest ih =>
    rw [readTokens_cons, passages, List.flatMap_cons]
    split
    · rw [ih]
      rfl
    · simp [Passage.taken]

/-- Tokens are read one after the other also when they come in two parts, unless the first part
ends its chunk. -/
theorem readTokens_append {s : Stream} {front : List Token}
    (hgoes : ∀ p ∈ s.passages front, p.taken.goesOn = true) (rest : List Token) :
    s.readTokens (front ++ rest) =
      (((s.readTokens front).1.readTokens rest).1,
        (s.readTokens front).2 ++ ((s.readTokens front).1.readTokens rest).2) := by
  induction front generalizing s with
  | nil => rfl
  | cons t front ih =>
    rw [passages, List.forall_mem_cons] at hgoes
    have hfirst : (s.take t).goesOn = true := hgoes.1
    rw [if_pos hfirst] at hgoes
    rw [List.cons_append, readTokens_cons, readTokens_cons, if_pos hfirst, if_pos hfirst,
      ih hgoes.2, List.append_assoc]

end Mudline.Stream
