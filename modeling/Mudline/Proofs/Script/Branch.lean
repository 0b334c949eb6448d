import Mudline.Proofs.Script.Skipping

/-!
# Branches with conditionals below

A conditional without a body on its line may have another `if` on the next line, which has its own
body or yet another `if` below. So each branch of a chain has a column of conditions, one above the
other, and one body at its foot. On the lines such branches stand in a row, and a row can be read in
two ways. As it is meant, each `else` belongs to the nearest chain above that is still open, and the
chain below a condition that fails is left out as a whole. As it is tested, the columns are tried
one after the other, up to the first of which all conditions hold. This file defines both readings
and shows when they agree: exactly as long as no condition above another fails while there are
branches to come.
-/

namespace Mudline.Script

/-- Lines that open and close their blocks in pairs, whatever else is on them. -/
structure Interior where
  /-- The lines. -/
  lines : List Line
  /-- Each block is closed. -/
  balanced : Balanced lines

/-- The body of a branch, by the way in which it is laid out. -/
inductive Limb
  /-- A command on the line of the condition. -/
  | inline (raw : Text)
  /-- A command in braces on the line of the condition. -/
  | braced (raw : Text)
  /-- A block opened on the line of the condition. -/
  | block (inside : Interior)
  /-- A block opened on a line of its own. -/
  | blockBelow (gap : List Filler) (inside : Interior)
  /-- A command on a line of its own. -/
  | commandBelow (gap : List Filler) (raw : Text)

/-- What the line of a conditional says of its body. -/
def Limb.body : Limb → Body
  | inline raw => .inline raw
  | braced raw => .blockInline raw
  | block _ => .block
  | blockBelow _ _ | commandBelow _ _ => .next

/-- The lines of a body after the line of its condition. -/
def Limb.lines : Limb → List Line
  | inline _ | braced _ => []
  | block inside => inside.lines ++ [.blockEnd]
  | blockBelow gap inside => gapLines gap ++ .blockStart :: (inside.lines ++ [.blockEnd])
  | commandBelow gap raw => gapLines gap ++ [.command raw]

/-- How a branch begins. -/
inductive Opening
  /-- With a condition that begins a chain. -/
  | ifs (cond : Condition)
  /-- With a further condition of a chain. -/
  | elseIf (cond : Condition)
  /-- For the case that no condition of the chain has held. -/
  | otherwise
  deriving DecidableEq, Repr

/-- The line that begins a branch with the given body. -/
def Opening.line (o : Opening) (body : Body) : Line :=
  match o with
  | ifs cond => .ifLine cond body
  | elseIf cond => .elseIfLine cond body
  | otherwise => .elseLine body

/-- Whether a branch begins a chain. -/
def Opening.begins : Opening → Bool
  | ifs _ => true
  | _ => false

/-- The conditions that stand below a condition, each with the fillers before it. -/
abbrev Column := List (List Filler × Condition)

/-- What the line above a column says of its body. -/
def Column.body (limb : Limb) : Column → Body
  | [] => limb.body
  | _ :: _ => .next

/-- The lines of a column and of the body at its foot. -/
def Column.lines (limb : Limb) : Column → List Line
  | [] => limb.lines
  | (gap, cond) :: below =>
    gapLines gap ++ .ifLine cond (Column.body limb below) :: Column.lines limb below

/-- A branch of a chain. -/
structure Branch where
  /-- The fillers before it. -/
  gap : List Filler
  /-- How it begins. -/
  opening : Opening
  /-- The conditions below the first. -/
  below : Column
  /-- The body at the foot. -/
  limb : Limb

namespace Branch

/-- The line that begins the branch. -/
def header (b : Branch) : Line :=
  b.opening.line (b.below.body b.limb)

/-- The lines of the branch. -/
def lines (b : Branch) : List Line :=
  gapLines b.gap ++ b.header :: b.below.lines b.limb

end Branch

/-- The lines of branches that stand in a row. -/
def rowLines (bs : List Branch) : List Line :=
  bs.flatMap Branch.lines

/-- How the attempt at a branch ends. -/
inductive Verdict
  /-- A condition fails that has so many others below. -/
  | fails (below : Nat)
  /-- All conditions hold, and the body of the conditional on the given line is entered. -/
  | enters (line : Nat) (limb : Limb)

/-- What the attempt at a branch comes to. -/
structure Attempt where
  /-- The script after its conditions have been judged. -/
  script : Script
  /-- The lines of the conditions that have been judged, in this order. -/
  judged : List Nat
  /-- How it ends. -/
  verdict : Verdict

/-- Judges the condition on the given line, below which there are so many others. If it holds, goes
on below. -/
def attemptAt (s : Script) (j : Nat) (cond : Condition) (below : Nat) (goOn : Script → Attempt) :
    Attempt :=
  let (s, holds) := s.judge j cond
  if holds then { goOn s with judged := j :: (goOn s).judged } else ⟨s, [j], .fails below⟩

/-- Tries the conditions of a column in order, where the line above the column has the given
index. -/
def Column.attempt (limb : Limb) (i : Nat) : Column → Script → Attempt
  | [], s => ⟨s, [], .enters i limb⟩
  | (gap, cond) :: below, s =>
    let j := i + 1 + gap.length
    s.attemptAt j cond below.length fun s => Column.attempt limb j below s

/-- Tries the conditions of a branch in order, where its first line has the given index. -/
def Branch.attempt (i : Nat) (b : Branch) (s : Script) : Attempt :=
  let j := i + b.gap.length
  match b.opening with
  | .ifs cond | .elseIf cond =>
    s.attemptAt j cond b.below.length fun s => b.below.attempt b.limb j s
  | .otherwise => b.below.attempt b.limb j s

/-- What becomes of branches in a row. -/
structure Outcome where
  /-- The script after their conditions have been judged. -/
  script : Script
  /-- The lines of the conditions that have been judged, in this order. -/
  judged : List Nat
  /-- The line of the conditional whose body is entered, if one is, and the body. -/
  entered : Option (Nat × Limb)

/-- The outcome after other conditions have been judged. -/
def Outcome.behind (js : List Nat) (o : Outcome) : Outcome :=
  { o with judged := js ++ o.judged }

/-- The row as it is tested: its branches are tried in order, up to the first of which all
conditions hold. The first line of the row has the given index. -/
def tested (i : Nat) : List Branch → Script → Outcome
  | [], s => ⟨s, [], none⟩
  | b :: bs, s =>
    let a := b.attempt i s
    match a.verdict with
    | .enters j limb => ⟨a.script, a.judged, some (j, limb)⟩
    | .fails _ => (tested (i + b.lines.length) bs a.script).behind a.judged

/-- How many chains are open and left out behind a branch that is left out, where so many are before
it. The branch belongs to the innermost of them, which it ends if it is the last of its chain, and
each condition below its first line begins a chain. -/
def Branch.leftOpen (b : Branch) (skipped : Nat) : Nat :=
  skipped - (if b.opening = .otherwise then 1 else 0) + b.below.length

/-- The row as it is meant: each branch belongs to the innermost chain that has not come to its
`else`, and a chain that begins below a condition that fails is left out. So many chains are being
left out at the beginning. -/
def meant (i skipped : Nat) : List Branch → Script → Outcome
  | [], s => ⟨s, [], none⟩
  | b :: bs, s =>
    let after := i + b.lines.length
    if 0 < skipped then meant after (b.leftOpen skipped) bs s
    else
      let a := b.attempt i s
      match a.verdict with
      | .enters j limb => ⟨a.script, a.judged, some (j, limb)⟩
      | .fails below => (meant after below bs a.script).behind a.judged

/-- Whether a condition above others fails, when the branches are tried in order, while there are
branches to come. -/
def strays (i : Nat) : List Branch → Script → Bool
  | [], _ => false
  | b :: bs, s =>
    let a := b.attempt i s
    match a.verdict with
    | .enters _ _ => false
    | .fails below => 0 < below && !bs.isEmpty || strays (i + b.lines.length) bs a.script

/-- The lines of the conditions that are judged and of the conditional whose body is entered. -/
def Attempt.touched (a : Attempt) : List Nat :=
  a.judged ++ match a.verdict with
    | .enters j _ => [j]
    | .fails _ => []

/-- The lines of the conditions that are judged and of the conditional whose body is entered. -/
def Outcome.touched (o : Outcome) : List Nat :=
  o.judged ++ (o.entered.map (·.1)).toList

/-- The lines of a column are those before its first header, the header and the lines below. -/
@[simp] theorem Column.lines_cons_length (limb : Limb) (gap : List Filler) (cond : Condition)
    (below : Column) :
    (Column.lines limb ((gap, cond) :: below)).length =
      gap.length + 1 + (below.lines limb).length := by
  simp [Column.lines]
  omega

/-- The lines of a branch are those before its header, the header and the lines below. -/
@[simp] theorem Branch.lines_length (b : Branch) :
    b.lines.length = b.gap.length + 1 + (b.below.lines b.limb).length := by
  simp [Branch.lines]
  omega

/-- What is touched from a condition on stands on its line or on a line below. -/
theorem touched_attemptAt {s : Script} {j below last : Nat} {cond : Condition}
    {goOn : Script → Attempt} (hlast : j ≤ last)
    (h : ∀ s, ∀ n ∈ (goOn s).touched, j ≤ n ∧ n ≤ last) :
    (s.attemptAt j cond below goOn).touched ≠ [] ∧
      ∀ n ∈ (s.attemptAt j cond below goOn).touched, j ≤ n ∧ n ≤ last := by
  simp only [attemptAt]
  split
  · have hrest := h (s.judge j cond).1
    simp only [Attempt.touched, List.cons_append] at hrest ⊢
    exact ⟨List.cons_ne_nil _ _, List.forall_mem_cons.mpr ⟨⟨Nat.le_refl j, hlast⟩, hrest⟩⟩
  · simp [Attempt.touched, hlast]

/-- An attempt touches headers of its column and no other line. -/
theorem Column.touched_attempt (limb : Limb) {i : Nat} {below : Column} {s : Script} :
    (below.attempt limb i s).touched ≠ [] ∧
      ∀ n ∈ (below.attempt limb i s).touched, i ≤ n ∧ n ≤ i + (below.lines limb).length := by
  induction below generalizing i s with
  | nil => simp [Column.attempt, Attempt.touched]
  | cons entry below ih =>
    obtain ⟨gap, cond⟩ := entry
    suffices h : (Column.attempt limb i ((gap, cond) :: below) s).touched ≠ [] ∧
        ∀ n ∈ (Column.attempt limb i ((gap, cond) :: below) s).touched,
          i + 1 + gap.length ≤ n ∧ n ≤ i + 1 + gap.length + (Column.lines limb below).length by
      refine ⟨h.1, fun n hn => ?_⟩
      have hbounds := h.2 n hn
      rw [Column.lines_cons_length]
      omega
    exact touched_attemptAt (Nat.le_add_right _ _) fun s => ih.2

/-- What is touched of a branch is one of its lines, and there is one. -/
theorem Branch.touched_attempt (b : Branch) (i : Nat) (s : Script) :
    (b.attempt i s).touched ≠ [] ∧
      ∀ n ∈ (b.attempt i s).touched, i ≤ n ∧ n < i + b.lines.length := by
  have hcolumn (s : Script) : (b.below.attempt b.limb (i + b.gap.length) s).touched ≠ [] ∧
      ∀ n ∈ (b.below.attempt b.limb (i + b.gap.length) s).touched,
        i + b.gap.length ≤ n ∧ n ≤ i + b.gap.length + (b.below.lines b.limb).length :=
    Column.touched_attempt b.limb
  suffices h : (b.attempt i s).touched ≠ [] ∧ ∀ n ∈ (b.attempt i s).touched,
      i + b.gap.length ≤ n ∧ n ≤ i + b.gap.length + (b.below.lines b.limb).length by
    refine ⟨h.1, fun n hn => ?_⟩
    have hbounds := h.2 n hn
    rw [Branch.lines_length]
    omega
  simp only [Branch.attempt]
  split
  · exact touched_attemptAt (Nat.le_add_right _ _) fun s => (hcolumn s).2
  · exact touched_attemptAt (Nat.le_add_right _ _) fun s => (hcolumn s).2
  · exact hcolumn s

/-- Headers that were judged before are touched before. -/
@[simp] theorem Outcome.touched_behind (js : List Nat) (o : Outcome) :
    (o.behind js).touched = js ++ o.touched :=
  List.append_assoc _ _ _

/-- Nothing is touched before the first line of a row. -/
theorem touched_meant {bs : List Branch} {i skipped : Nat} {s : Script} :
    ∀ n ∈ (meant i skipped bs s).touched, i ≤ n := by
  induction bs generalizing i skipped s with
  | nil => simp [meant, Outcome.touched]
  | cons b bs ih =>
    intro n hn
    have hlater {k : Nat} {t : Script} (hn : n ∈ (meant (i + b.lines.length) k bs t).touched) :
        i ≤ n := by
      have hbound := ih n hn
      omega
    have hhere (h : n ∈ (b.attempt i s).touched) : i ≤ n := ((b.touched_attempt i s).2 n h).1
    simp only [meant] at hn
    split at hn
    · exact hlater hn
    · split at hn
      · rename_i j limb hverdict
        refine hhere ?_
        simpa [Attempt.touched, hverdict, Outcome.touched] using hn
      · rename_i below hverdict
        rw [Outcome.touched_behind, List.mem_append] at hn
        rcases hn with hn | hn
        · exact hhere (List.mem_append_left _ hn)
        · exact hlater hn

/-- The first branch of a row is touched when the row is tested. -/
theorem exists_touched_tested (i : Nat) (b : Branch) (bs : List Branch) (s : Script) :
    ∃ n ∈ (tested i (b :: bs) s).touched, n < i + b.lines.length := by
  obtain ⟨hsome, hbounds⟩ := b.touched_attempt i s
  obtain ⟨n, hn⟩ := List.exists_mem_of_ne_nil _ hsome
  refine ⟨n, ?_, (hbounds n hn).2⟩
  simp only [tested]
  split
  · rename_i j limb hverdict
    simpa [Attempt.touched, hverdict, Outcome.touched] using hn
  · rename_i below hverdict
    rw [Outcome.touched_behind]
    refine List.mem_append_left _ ?_
    simpa [Attempt.touched, hverdict] using hn

/-- Outcomes are the same if they are so behind the same headers. -/
theorem Outcome.behind_inj {js : List Nat} {o p : Outcome} (h : o.behind js = p.behind js) :
    o = p := by
  obtain ⟨script, judged, entered⟩ := o
  simp only [Outcome.behind, Outcome.mk.injEq, List.append_cancel_left_eq] at h
  obtain ⟨rfl, rfl, rfl⟩ := h
  rfl

/-- The two readings of a row agree exactly as long as no condition above another fails while there
are branches to come. The chain that begins below such a condition is meant to be left out, but the
next branch, which belongs to it, is tested. -/
theorem tested_eq_meant_iff {bs : List Branch} {i : Nat} {s : Script} :
    tested i bs s = meant i 0 bs s ↔ strays i bs s = false := by
  induction bs generalizing i s with
  | nil => simp [tested, meant, strays]
  | cons b bs ih =>
    simp only [tested, meant, strays, Nat.lt_irrefl, if_false]
    cases hverdict : (b.attempt i s).verdict with
    | enters j limb => simp
    | fails below =>
      cases bs with
      | nil => simp [tested, meant, strays]
      | cons c cs =>
        rcases Nat.eq_zero_or_pos below with rfl | hbelow
        · have hsame := @ih (i + b.lines.length) (b.attempt i s).script
          simp only [Nat.lt_irrefl, decide_false, Bool.false_and, Bool.false_or, ← hsame]
          exact ⟨Outcome.behind_inj, congrArg _⟩
        · refine iff_of_false (fun hagree => ?_) (by simp [hbelow])
          obtain ⟨n, hn, hearly⟩ :=
            exists_touched_tested (i + b.lines.length) c cs (b.attempt i s).script
          rw [Outcome.behind_inj hagree, meant, if_pos hbelow] at hn
          have hlate := touched_meant n hn
          omega

end Mudline.Script
