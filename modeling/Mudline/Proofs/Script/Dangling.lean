import Mudline.Proofs.Script.Branch
import Mudline.Proofs.Script.Refinement
import Mudline.Proofs.Script.Requests

/-!
# Where an `else` belongs

A script that comes to a row of branches tries them in order, up to the first of which all
conditions hold, and passes over the rest. So an `else` below a chain within a chain belongs to the
inner chain when the outer condition holds, as it is meant to; but when the outer condition fails,
only the first branch of the inner chain is passed over with it, and the branches that follow are
taken for further branches of the outer chain.
-/

namespace Mudline.Script

/-- Whether a line judges a condition in a block with the given chain. -/
def Line.judges (x : Chain) : Line → Bool
  | .ifLine _ _ => true
  | .elseIfLine _ _ => x == .untaken
  | _ => false

/-- The line of the condition that the next line judges, if it judges one. -/
def judgedNext (s : Script) : List Nat :=
  if (s.listing.kind? s.next).any (·.judges s.chain) then [s.next] else []

/-- The second script is what the first becomes line by line, where the conditions on the given
lines are judged, in this order, and no command is carried out. -/
inductive Walks : List Nat → Script → Script → Prop
  /-- No line is run. -/
  | refl (s : Script) : Walks [] s s
  /-- One line is run, and then others. -/
  | line {js : List Nat} {s t : Script} (hkept : Kept s s.step) (hquiet : s.approach.2 = none)
      (hrest : Walks js s.step t) : Walks (s.judgedNext ++ js) s t

namespace Walks

/-- A walk may be followed by another. -/
theorem trans {js ks : List Nat} {s t u : Script} (hst : Walks js s t) (htu : Walks ks t u) :
    Walks (js ++ ks) s u := by
  induction hst with
  | refl => exact htu
  | line hkept hquiet _ ih =>
    rw [List.append_assoc]
    exact .line hkept hquiet (ih htu)

/-- A walk keeps the listing and what is not of the chain. -/
theorem kept {js : List Nat} {s t : Script} (h : Walks js s t) : Kept s t := by
  induction h with
  | refl s => exact .refl s
  | line hkept _ _ ih => exact hkept.trans ih

/-- One line that carries out no command. -/
theorem one {s t : Script} (happroach : s.approach = (t, none)) (hkept : Kept s t) :
    Walks s.judgedNext s t := by
  have hstep : s.step = t := by
    rw [step_eq, happroach]
    rfl
  subst hstep
  simpa using Walks.line hkept (by rw [happroach]) (.refl _)

end Walks

/-- The line that a placed script comes to. -/
theorem approach_placed {s : Script} {n c : Nat} {l : List Chain} {line : Line} {rest : List Line}
    (h : s.listing.kindsFrom n = line :: rest) :
    (s.placed n c l).approach = (s.placed n n l).approachLine line := by
  rw [approach, placed_listing, placed_next, Listing.kind?_of_kindsFrom h]
  rfl

/-- A line that judges the chain is the one that is judged next. -/
theorem judgedNext_placed {s : Script} {n c : Nat} {x : Chain} {l : List Chain} {line : Line}
    {rest : List Line} (h : s.listing.kindsFrom n = line :: rest) :
    (s.placed n c (x :: l)).judgedNext = if line.judges x then [n] else [] := by
  rw [judgedNext, placed_listing, placed_next, Listing.kind?_of_kindsFrom h]
  rfl

/-- Lines that only fill a gap are passed without judging. -/
theorem walks_gap {s : Script} {gap : List Filler} {n c : Nat} {x : Chain} {l : List Chain}
    {rest : List Line} (h : s.listing.kindsFrom n = gapLines gap ++ rest) :
    ∃ c', Walks [] (s.placed n c (x :: l)) (s.placed (n + gap.length) c' (x :: l)) := by
  induction gap generalizing n c with
  | nil => exact ⟨c, .refl _⟩
  | cons f gap ih =>
    have happroach : (s.placed n c (x :: l)).approach = (s.placed (n + 1) n (x :: l), none) := by
      rw [approach_placed h]
      cases f <;> rfl
    have hsilent : (s.placed n c (x :: l)).judgedNext = [] := by
      rw [judgedNext_placed h]
      cases f <;> rfl
    have hfirst := Walks.one happroach ⟨rfl, rfl⟩
    obtain ⟨c', hrest⟩ := ih (c := n) (Listing.kindsFrom_succ h)
    rw [hsilent] at hfirst
    refine ⟨c', ?_⟩
    simpa [Nat.add_assoc, Nat.add_comm 1] using hfirst.trans hrest

/-- A header is not silent. -/
theorem Line.isSilent_of_body {header : Line} {body : Body} (h : header.body? = some body) :
    header.isSilent = false := by
  cases header <;> first | rfl | simp [Line.body?] at h

/-- A conditional that is not taken is passed over like any statement. -/
theorem skipBody_eq {s : Script} {header : Line} {body : Body} {rest : List Line}
    (hbody : header.body? = some body) (h : s.listing.kindsFrom s.next = header :: rest) :
    s.skipBody body = s.goTo (s.next + statementLength (header :: rest)) := by
  have hdelta := Line.delta_of_body hbody
  have hloud := Line.isSilent_of_body hbody
  cases body with
  | inline raw | blockInline raw =>
    have hlength : statementLength (header :: rest) = 1 := by
      simp [statementLength, hloud, hdelta, Line.takesNext, hbody]
    rw [hlength]
    rfl
  | block =>
    have hlength : statementLength (header :: rest) = blockLength 0 (header :: rest) + 1 := by
      simp [statementLength, hloud, hdelta]
    rw [hlength, ← h]
    rfl
  | next =>
    have hlength : statementLength (header :: rest) = 1 + statementLength rest := by
      simp [statementLength, hloud, hdelta, Line.takesNext, hbody]
    rw [hlength, skipBody, Listing.kindsFrom_succ h, Nat.add_assoc]

/-- What a conditional with its body on its own lines takes. -/
theorem statementLength_limb {limb : Limb} {header : Line} (hbody : header.body? = some limb.body)
    (rest : List Line) :
    statementLength (header :: (limb.lines ++ rest)) = 1 + limb.lines.length := by
  have hdelta := Line.delta_of_body hbody
  have hloud := Line.isSilent_of_body hbody
  cases limb with
  | inline raw | braced raw =>
    simp [statementLength, hloud, hdelta, Line.takesNext, hbody, Limb.body, Limb.lines]
  | block inside =>
    have hopens : header.delta = 1 := hdelta
    have hlength := blockLength_block header rest hopens inside.balanced
    have hlines : (Limb.block inside).lines ++ rest = inside.lines ++ .blockEnd :: rest := by
      simp [Limb.lines]
    rw [hlines, statementLength, if_neg (by simp [hloud]), if_pos (by omega), hlength]
    simp [Limb.lines]
    omega
  | blockBelow gap inside =>
    have hflat : header.delta = 0 := hdelta
    have htakes : header.takesNext = true := by simp [Line.takesNext, hbody, Limb.body]
    have hlength := blockLength_block .blockStart rest rfl inside.balanced
    have hlines : (Limb.blockBelow gap inside).lines ++ rest =
        gapLines gap ++ .blockStart :: (inside.lines ++ .blockEnd :: rest) := by
      simp [Limb.lines]
    have hblock : statementLength (.blockStart :: (inside.lines ++ .blockEnd :: rest)) =
        inside.lines.length + 2 := by
      rw [statementLength, if_neg (by decide), if_pos (by decide), hlength]
      omega
    rw [hlines, statementLength, if_neg (by simp [hloud]), if_neg (by omega), if_pos htakes,
      statementLength_gap, hblock]
    simp [Limb.lines]
  | commandBelow gap raw =>
    have hflat : header.delta = 0 := hdelta
    have htakes : header.takesNext = true := by simp [Line.takesNext, hbody, Limb.body]
    have hlines : (Limb.commandBelow gap raw).lines ++ rest =
        gapLines gap ++ .command raw :: rest := by
      simp [Limb.lines]
    have hcommand : statementLength (.command raw :: rest) = 1 := rfl
    rw [hlines, statementLength, if_neg (by simp [hloud]), if_neg (by omega), if_pos htakes,
      statementLength_gap, hcommand]
    simp [Limb.lines]

/-- A conditional takes the conditions below and the body at the foot. -/
theorem statementLength_column {limb : Limb} {below : Column} {header : Line}
    (hbody : header.body? = some (below.body limb)) (rest : List Line) :
    statementLength (header :: (below.lines limb ++ rest)) = 1 + (below.lines limb).length := by
  induction below generalizing header with
  | nil => exact statementLength_limb hbody rest
  | cons entry below ih =>
    obtain ⟨gap, cond⟩ := entry
    have hflat : header.delta = 0 := Line.delta_of_body hbody
    have hloud := Line.isSilent_of_body hbody
    have htakes : header.takesNext = true := by simp [Line.takesNext, hbody, Column.body]
    have hlines : Column.lines limb ((gap, cond) :: below) ++ rest =
        gapLines gap ++
          .ifLine cond (Column.body limb below) :: (Column.lines limb below ++ rest) := by
      simp [Column.lines]
    rw [hlines, statementLength, if_neg (by simp [hloud]), if_neg (by omega), if_pos htakes,
      statementLength_gap, ih rfl, Column.lines_cons_length]
    omega

/-- A branch that is not taken is passed over as a whole. -/
theorem skipBody_column {s : Script} {limb : Limb} {below : Column} {header : Line}
    {rest : List Line} (hbody : header.body? = some (below.body limb))
    (h : s.listing.kindsFrom s.next = header :: (below.lines limb ++ rest)) :
    s.skipBody (below.body limb) = s.goTo (s.next + 1 + (below.lines limb).length) := by
  rw [skipBody_eq hbody h, statementLength_column hbody, Nat.add_assoc]

/-- Branches after the first of a chain are passed over once a branch has been taken, and where
there is no chain. -/
theorem walks_row {s : Script} {bs : List Branch} {n c : Nat} {x : Chain} {l : List Chain}
    {rest : List Line} (hx : x ≠ .untaken) (hlater : ∀ b ∈ bs, b.opening.begins = false)
    (h : s.listing.kindsFrom n = rowLines bs ++ rest) :
    ∃ c', Walks [] (s.placed n c (x :: l)) (s.placed (n + (rowLines bs).length) c' (x :: l)) := by
  induction bs generalizing n c with
  | nil => exact ⟨c, .refl _⟩
  | cons b bs ih =>
    rw [List.forall_mem_cons] at hlater
    have hlines : s.listing.kindsFrom n =
        gapLines b.gap ++ b.header :: (b.below.lines b.limb ++ (rowLines bs ++ rest)) := by
      rw [h]
      simp [rowLines, Branch.lines]
    obtain ⟨c₁, hgap⟩ := walks_gap (c := c) (x := x) (l := l) hlines
    have hline := Listing.kindsFrom_add hlines
    rw [gapLines_length] at hline
    have hbody : b.header.body? = some (b.below.body b.limb) := by
      rw [Branch.header]
      cases b.opening <;> rfl
    have hskip : (s.placed (n + b.gap.length) (n + b.gap.length) (x :: l)).skipBody
        (b.below.body b.limb) =
        s.placed (n + b.gap.length + 1 + (b.below.lines b.limb).length) (n + b.gap.length)
          (x :: l) := by
      rw [skipBody_column hbody hline]
      rfl
    have hpassed : (s.placed (n + b.gap.length) c₁ (x :: l)).approach =
          (s.placed (n + b.gap.length + 1 + (b.below.lines b.limb).length) (n + b.gap.length)
            (x :: l), none) ∧
        (s.placed (n + b.gap.length) c₁ (x :: l)).judgedNext = [] := by
      rw [approach_placed hline, judgedNext_placed hline, Branch.header, ← hskip]
      have hopening := hlater.1
      cases hopens : b.opening with
      | ifs cond => simp [hopens, Opening.begins] at hopening
      | elseIf cond => simp [Opening.line, approachLine, Line.judges, hx]
      | otherwise => simp [Opening.line, approachLine, Line.judges, hx]
    have hfirst := Walks.one hpassed.1 ⟨rfl, rfl⟩
    rw [hpassed.2] at hfirst
    have hrest := Listing.kindsFrom_add (Listing.kindsFrom_succ hline)
    obtain ⟨c₂, hlast⟩ := ih (c := n + b.gap.length) hlater.2 hrest
    have hlength : n + (rowLines (b :: bs)).length =
        n + b.gap.length + 1 + (b.below.lines b.limb).length + (rowLines bs).length := by
      simp [rowLines, Branch.lines_length]
      omega
    rw [hlength]
    exact ⟨c₂, hgap.trans (hfirst.trans hlast)⟩

/-- From the first script on, the conditions on the given lines are judged and no command is carried
out, until the script comes to the conditional on line `j` and enters its body. It is then like the
second script, in the given outer blocks, and a branch of the innermost chain has been taken. -/
def Enters (js : List Nat) (s t : Script) (l : List Chain) (j : Nat) (limb : Limb) : Prop :=
  ∃ u ks, Walks ks s u ∧ js = ks ++ u.judgedNext ∧ u.next = j ∧
    u.approach = (t.placed j j (.taken :: l)).approachBody limb.body

/-- A walk in front of a limb that is entered is part of its way. -/
theorem Walks.enters {ks js : List Nat} {s u t : Script} {l : List Chain} {j : Nat} {limb : Limb}
    (hwalks : Walks ks s u) (h : Enters js u t l j limb) : Enters (ks ++ js) s t l j limb := by
  obtain ⟨v, is, hmore, rfl, hnext, happroach⟩ := h
  exact ⟨v, ks ++ is, hwalks.trans hmore, by rw [List.append_assoc], hnext, happroach⟩

/-- What the attempt at a branch says of the run that begins at the script `s`. If the branch is not
taken, the run goes on at the given line, and no branch of the chain has been taken so far. -/
def Attempt.Of (a : Attempt) (s : Script) (l : List Chain) (after : Nat) : Prop :=
  match a.verdict with
  | .enters j limb => Enters a.judged s a.script l j limb
  | .fails _ => ∃ c, Walks a.judged s (a.script.placed after c (.untaken :: l))

/-- The line of a condition that is judged. Where the condition holds, the script enters what stands
below, and the attempt is that at what stands below. -/
theorem attemptAt_of {s : Script} {n c below : Nat} {x : Chain} {l : List Chain} {header : Line}
    {cond : Condition} {limb : Limb} {column : Column} {rest : List Line} {goOn : Script → Attempt}
    (hheader : header = .ifLine cond (column.body limb) ∨
      header = .elseIfLine cond (column.body limb) ∧ x = .untaken)
    (h : s.listing.kindsFrom n = header :: (column.lines limb ++ rest))
    (hbelow : ∀ t u, Kept s t → Kept u t → u.next = n →
      u.approach = (t.placed n n (.taken :: l)).approachBody (column.body limb) →
      Attempt.Of { goOn t with judged := u.judgedNext ++ (goOn t).judged } u l
        (n + 1 + (column.lines limb).length)) :
    (s.attemptAt n cond below goOn).Of (s.placed n c (x :: l)) l
      (n + 1 + (column.lines limb).length) := by
  have hbody : header.body? = some (column.body limb) := by
    rcases hheader with rfl | ⟨rfl, -⟩ <;> rfl
  have hjudged : (s.placed n c (x :: l)).judgedNext = [n] := by
    rw [judgedNext_placed h]
    rcases hheader with rfl | ⟨rfl, rfl⟩ <;> rfl
  have happroach : (s.placed n c (x :: l)).approach =
      ((s.judge n cond).1.placed n n (.ofTest (s.judge n cond).2 :: l)).approachBranch
        (column.body limb) (s.judge n cond).2 := by
    rw [approach_placed h]
    rcases hheader with rfl | ⟨rfl, rfl⟩ <;> simp [approachLine, test_placed]
  have hkept := kept_judge s n cond
  simp only [attemptAt]
  cases hholds : (s.judge n cond).2 with
  | true =>
    rw [hholds] at happroach
    have htaken :=
      hbelow _ (s.placed n c (x :: l)) hkept ⟨hkept.listing, hkept.status⟩ rfl happroach
    rwa [hjudged] at htaken
  | false =>
    have hlines :
        (s.judge n cond).1.listing.kindsFrom n = header :: (column.lines limb ++ rest) := by
      rw [hkept.listing, h]
    have hskip : ((s.judge n cond).1.placed n n (.untaken :: l)).skipBody (column.body limb) =
        (s.judge n cond).1.placed (n + 1 + (column.lines limb).length) n (.untaken :: l) := by
      rw [skipBody_column hbody hlines]
      rfl
    have hline := Walks.one (s := s.placed n c (x :: l))
      (t := (s.judge n cond).1.placed (n + 1 + (column.lines limb).length) n (.untaken :: l))
      (by rw [happroach, hholds, ← hskip]; rfl) ⟨hkept.listing, hkept.status⟩
    rw [hjudged] at hline
    exact ⟨n, hline⟩

/-- A walk in front of an attempt is part of its way. -/
theorem Attempt.Of.behind {a : Attempt} {ks : List Nat} {s u : Script} {l : List Chain}
    {after : Nat} (hwalks : Walks ks s u) (h : a.Of u l after) :
    Attempt.Of { a with judged := ks ++ a.judged } s l after := by
  unfold Attempt.Of at h ⊢
  cases hverdict : a.verdict with
  | enters j limb =>
    simp only [hverdict] at h ⊢
    exact hwalks.enters h
  | fails below =>
    simp only [hverdict] at h ⊢
    obtain ⟨c, hmore⟩ := h
    exact ⟨c, hwalks.trans hmore⟩

/-- The line behind a column, counted from the conditional above it and from the first below. -/
theorem Column.end_cons (limb : Limb) (gap : List Filler) (cond : Condition) (below : Column)
    (i : Nat) :
    i + 1 + (Column.lines limb ((gap, cond) :: below)).length =
      i + 1 + gap.length + 1 + (below.lines limb).length := by
  rw [Column.lines_cons_length]
  omega

/-- The line behind a branch, counted from its first line and from its conditional. -/
theorem Branch.end_eq (b : Branch) (i : Nat) :
    i + b.lines.length = i + b.gap.length + 1 + (b.below.lines b.limb).length := by
  rw [Branch.lines_length]
  omega

/-- The attempt at a column of conditions, from the conditional above it on, which is taken. -/
theorem Column.attempt_of {s u : Script} {i : Nat} {l : List Chain} {limb : Limb} {below : Column}
    {rest : List Line} (hkept : Kept u s) (hnext : u.next = i)
    (happroach : u.approach = (s.placed i i (.taken :: l)).approachBody (below.body limb))
    (h : s.listing.kindsFrom (i + 1) = below.lines limb ++ rest) :
    Attempt.Of { below.attempt limb i s with
        judged := u.judgedNext ++ (below.attempt limb i s).judged } u l
      (i + 1 + (below.lines limb).length) := by
  induction below generalizing s u i with
  | nil => exact ⟨u, [], .refl u, by simp [Column.attempt], hnext, happroach⟩
  | cons entry below ih =>
    obtain ⟨gap, cond⟩ := entry
    have hlines : s.listing.kindsFrom (i + 1) =
        gapLines gap ++ .ifLine cond (Column.body limb below) ::
          (Column.lines limb below ++ rest) := by
      rw [h]
      simp [Column.lines]
    obtain ⟨hsilent, hkind⟩ := kind?_below rfl hlines
    have henter : (s.placed i i (.taken :: l)).approachBody .next =
        (s.placed (i + 1 + gap.length) i (.taken :: l), none) := by
      simp [approachBody, hsilent, hkind]
    have hfirst : Walks u.judgedNext u (s.placed (i + 1 + gap.length) i (.taken :: l)) :=
      .one (happroach.trans henter) ⟨hkept.listing, hkept.status⟩
    have hline := Listing.kindsFrom_add hlines
    rw [gapLines_length] at hline
    rw [Column.end_cons]
    refine Attempt.Of.behind hfirst (attemptAt_of (.inl rfl) hline ?_)
    intro t v hst hvt hat hentered
    refine ih hvt hat hentered ?_
    rw [hst.listing]
    exact Listing.kindsFrom_succ hline

/-- The attempt at a branch, from its first line on. -/
theorem Branch.attempt_of {s : Script} {b : Branch} {n c : Nat} {x : Chain} {l : List Chain}
    {rest : List Line} (hlive : b.opening.begins = true ∨ x = .untaken)
    (h : s.listing.kindsFrom n = b.lines ++ rest) :
    (b.attempt n s).Of (s.placed n c (x :: l)) l (n + b.lines.length) := by
  have hlines : s.listing.kindsFrom n =
      gapLines b.gap ++ b.header :: (b.below.lines b.limb ++ rest) := by
    rw [h]
    simp [Branch.lines]
  obtain ⟨c₁, hgap⟩ := walks_gap (c := c) (x := x) (l := l) hlines
  have hline := Listing.kindsFrom_add hlines
  rw [gapLines_length] at hline
  have hcolumn (t u : Script) (hst : Kept s t) (hut : Kept u t) (hat : u.next = n + b.gap.length)
      (hentered : u.approach = (t.placed (n + b.gap.length) (n + b.gap.length)
        (.taken :: l)).approachBody (b.below.body b.limb)) :=
    have hafter : t.listing.kindsFrom (n + b.gap.length + 1) = b.below.lines b.limb ++ rest := by
      rw [hst.listing]
      exact Listing.kindsFrom_succ hline
    Column.attempt_of hut hat hentered hafter
  suffices hbranch : (b.attempt n s).Of (s.placed (n + b.gap.length) c₁ (x :: l)) l
      (n + b.gap.length + 1 + (b.below.lines b.limb).length) by
    rw [b.end_eq]
    exact hbranch.behind hgap
  simp only [Branch.attempt]
  rw [Branch.header] at hline
  cases hopening : b.opening with
  | ifs cond =>
    rw [hopening] at hline
    exact attemptAt_of (.inl rfl) hline hcolumn
  | elseIf cond =>
    rw [hopening] at hline hlive
    have hx : x = .untaken := by simpa [Opening.begins] using hlive
    exact attemptAt_of (.inr ⟨rfl, hx⟩) hline hcolumn
  | otherwise =>
    rw [hopening] at hline hlive
    have hx : x = .untaken := by simpa [Opening.begins] using hlive
    subst hx
    have hsilent : (s.placed (n + b.gap.length) c₁ (.untaken :: l)).judgedNext = [] := by
      rw [judgedNext_placed hline]
      rfl
    have happroach : (s.placed (n + b.gap.length) c₁ (.untaken :: l)).approach =
        (s.placed (n + b.gap.length) (n + b.gap.length) (.taken :: l)).approachBody
          (b.below.body b.limb) := by
      rw [approach_placed hline]
      rfl
    have htaken := hcolumn s (s.placed (n + b.gap.length) c₁ (.untaken :: l)) (.refl s) ⟨rfl, rfl⟩
      rfl happroach
    rwa [hsilent] at htaken

/-- An attempt that enters a limb enters the one at its end. -/
theorem verdict_attemptAt {s : Script} {n below after : Nat} {cond : Condition} {limb : Limb}
    {goOn : Script → Attempt}
    (h : ∀ t j m, (goOn t).verdict = .enters j m → m = limb ∧ j + 1 + m.lines.length = after)
    {j : Nat} {m : Limb} (hverdict : (s.attemptAt n cond below goOn).verdict = .enters j m) :
    m = limb ∧ j + 1 + m.lines.length = after := by
  simp only [attemptAt] at hverdict
  split at hverdict
  · exact h _ j m hverdict
  · cases hverdict

/-- A column is entered at its limb only. -/
theorem Column.verdict_attempt {limb : Limb} {i : Nat} {below : Column} {s : Script} {j : Nat}
    {m : Limb} (h : (below.attempt limb i s).verdict = .enters j m) :
    m = limb ∧ j + 1 + m.lines.length = i + 1 + (below.lines limb).length := by
  induction below generalizing i s j m with
  | nil =>
    simp only [Column.attempt, Verdict.enters.injEq] at h
    obtain ⟨rfl, rfl⟩ := h
    exact ⟨rfl, rfl⟩
  | cons entry below ih =>
    obtain ⟨gap, cond⟩ := entry
    rw [Column.end_cons]
    exact verdict_attemptAt (fun t j m => ih) h

/-- The body that is entered is that at the foot of the branch, and ends with the branch. -/
theorem Branch.verdict_attempt {b : Branch} {i : Nat} {s : Script} {j : Nat} {m : Limb}
    (h : (b.attempt i s).verdict = .enters j m) : j + 1 + m.lines.length = i + b.lines.length := by
  rw [b.end_eq]
  simp only [Branch.attempt] at h
  split at h
  · exact (verdict_attemptAt (fun t j m => Column.verdict_attempt) h).2
  · exact (verdict_attemptAt (fun t j m => Column.verdict_attempt) h).2
  · exact (Column.verdict_attempt h).2

/-- What an outcome says of the run that begins at the script `s` with a row of branches, behind
which the given line stands. If no body is entered, the run passes by the whole row. If one is
entered, then from behind that body on, where a branch of the chain has been taken, it passes by the
rest of the row and judges nothing. -/
def Outcome.Of (o : Outcome) (s : Script) (l : List Chain) (after : Nat) : Prop :=
  match o.entered with
  | none => ∃ c, Walks o.judged s (o.script.placed after c (.untaken :: l))
  | some (j, limb) =>
    Enters o.judged s o.script l j limb ∧
      ∀ t : Script, t.listing = s.listing → t.next = j + 1 + limb.lines.length →
        t.levels = .taken :: l → ∃ c, Walks [] t (t.placed after c (.taken :: l))

/-- A walk in front of an outcome is part of its way. -/
theorem Outcome.Of.behind {o : Outcome} {ks : List Nat} {s u : Script} {l : List Chain}
    {after : Nat} (hwalks : Walks ks s u) (h : o.Of u l after) : (o.behind ks).Of s l after := by
  unfold Outcome.Of at h ⊢
  simp only [Outcome.behind]
  cases hentered : o.entered with
  | none =>
    simp only [hentered] at h ⊢
    obtain ⟨c, hmore⟩ := h
    exact ⟨c, hwalks.trans hmore⟩
  | some entry =>
    obtain ⟨j, limb⟩ := entry
    simp only [hentered] at h ⊢
    refine ⟨hwalks.enters h.1, fun t ht => h.2 t ?_⟩
    rw [ht, hwalks.kept.listing]

/-- A row that begins with a branch that is tried, if what is behind that branch is tested. -/
theorem tested_cons_of {s : Script} {b : Branch} {bs : List Branch} {n c : Nat} {x : Chain}
    {l : List Chain} {rest : List Line} (hlive : b.opening.begins = true ∨ x = .untaken)
    (hlater : ∀ d ∈ bs, d.opening.begins = false)
    (h : s.listing.kindsFrom n = rowLines (b :: bs) ++ rest)
    (hrest : ∀ t c', t.listing.kindsFrom (n + b.lines.length) = rowLines bs ++ rest →
      (tested (n + b.lines.length) bs t).Of (t.placed (n + b.lines.length) c' (.untaken :: l)) l
        (n + b.lines.length + (rowLines bs).length)) :
    (tested n (b :: bs) s).Of (s.placed n c (x :: l)) l (n + (rowLines (b :: bs)).length) := by
  have hlines : s.listing.kindsFrom n = b.lines ++ (rowLines bs ++ rest) := by
    rw [h]
    simp [rowLines]
  have hbehind {t : Script} (ht : t.listing = s.listing) :
      t.listing.kindsFrom (n + b.lines.length) = rowLines bs ++ rest := by
    rw [ht]
    exact Listing.kindsFrom_add hlines
  have hend : n + (rowLines (b :: bs)).length = n + b.lines.length + (rowLines bs).length := by
    simp [rowLines]
    omega
  have hattempt := Branch.attempt_of (c := c) (l := l) hlive hlines
  unfold Attempt.Of at hattempt
  rw [hend]
  simp only [tested]
  cases hverdict : (b.attempt n s).verdict with
  | enters j limb =>
    simp only [hverdict] at hattempt ⊢
    refine ⟨hattempt, fun t hlisting hnext hlevels => ?_⟩
    obtain ⟨c', hpassed⟩ := walks_row (c := t.current) (x := .taken) (l := l) (by decide) hlater
      (hbehind hlisting)
    rw [Branch.verdict_attempt hverdict] at hnext
    rw [← hnext, ← hlevels, placed_self] at hpassed
    rw [← hnext, ← hlevels]
    exact ⟨c', hpassed⟩
  | fails below =>
    simp only [hverdict] at hattempt ⊢
    obtain ⟨c', hfailed⟩ := hattempt
    exact Outcome.Of.behind hfailed (hrest _ c' (hbehind hfailed.kept.listing))

/-- Further branches of a chain of which none has been taken. -/
theorem tested_of {s : Script} {bs : List Branch} {n c : Nat} {l : List Chain} {rest : List Line}
    (hlater : ∀ b ∈ bs, b.opening.begins = false)
    (h : s.listing.kindsFrom n = rowLines bs ++ rest) :
    (tested n bs s).Of (s.placed n c (.untaken :: l)) l (n + (rowLines bs).length) := by
  induction bs generalizing s n c with
  | nil => exact ⟨c, .refl _⟩
  | cons b bs ih =>
    rw [List.forall_mem_cons] at hlater
    exact tested_cons_of (.inr rfl) hlater.2 h fun t c' ht => ih hlater.2 ht

/-- A script that comes to a chain of branches, with conditions below one another, or to the rest of
such a chain, in any blocks. If the chain begins here, or no branch of it has been taken, its
branches are tried in order, up to the first of which all conditions hold; no other condition is
judged, no other body is entered, and the rest of the row is passed over. If a branch has been taken
before, or there is no chain, the whole row is passed over. So the row is read as it is meant, where
the chain below a condition that fails is left out as a whole, exactly as long as no condition above
another one fails while there are branches to come. -/
theorem chain_is_tested (s : Script) (b : Branch) (bs : List Branch)
    (hlines : rowLines (b :: bs) <+: s.listing.kindsFrom s.next) (hlevels : s.levels ≠ [])
    (hlater : ∀ d ∈ bs, d.opening.begins = false) :
    (b.opening.begins = true ∨ s.chain = .untaken →
      (tested s.next (b :: bs) s).Of s s.levels.tail (s.next + (rowLines (b :: bs)).length)) ∧
    (b.opening.begins = false ∧ s.chain ≠ .untaken →
      ∃ c, Walks [] s (s.placed (s.next + (rowLines (b :: bs)).length) c s.levels)) ∧
    (tested s.next (b :: bs) s = meant s.next 0 (b :: bs) s ↔
      strays s.next (b :: bs) s = false) := by
  obtain ⟨rest, hrest⟩ := hlines
  obtain ⟨x, l, hl⟩ := List.exists_cons_of_ne_nil hlevels
  have hchain : s.chain = x := by rw [chain, hl, List.headD_cons]
  have hplaced : s.placed s.next s.current (x :: l) = s := by rw [← hl, placed_self]
  rw [hchain, hl, List.tail_cons]
  refine ⟨fun hlive => ?_, fun ⟨hbegins, hx⟩ => ?_, tested_eq_meant_iff⟩
  · have htested := tested_cons_of (c := s.current) (l := l) hlive hlater hrest.symm
      fun t c' ht => tested_of hlater ht
    rwa [hplaced] at htested
  · have hall : ∀ d ∈ b :: bs, d.opening.begins = false :=
      List.forall_mem_cons.mpr ⟨hbegins, hlater⟩
    obtain ⟨c', hpassed⟩ := walks_row (c := s.current) (l := l) hx hall hrest.symm
    rw [hplaced] at hpassed
    exact ⟨c', hpassed⟩

/-- A chain with a condition below its first, whose last branch has a condition of its own below. -/
def patrolRow : List Branch :=
  [⟨[], .ifs (.argCount 1), [([.blank], .argCount 2)], .inline "echo two"⟩,
    ⟨[.comment], .elseIf (.argCount 3), [],
      .block ⟨[.command "echo three"], Balanced.nil.flat rfl⟩⟩,
    ⟨[], .otherwise, [([], .argCount 1)], .commandBelow [.blank] "echo one"⟩]

/-- A script with one argument that stands before that chain. -/
def patrolScript : Script where
  listing := {
    name := "patrol"
    lines := (Line.label "gate" :: rowLines patrolRow).map fun kind => ⟨⟨[], "patrol", 1⟩, kind⟩
    labels := [] }
  next := 1
  args := ["one"]
  status := .running

/-- A patrol tests the headers of its chain one below another and enters where it is meant to. -/
theorem chain_is_tested_patrol :
    rowLines patrolRow <+: patrolScript.listing.kindsFrom patrolScript.next ∧
    patrolScript.levels ≠ [] ∧
    strays 1 patrolRow patrolScript = false ∧
    (tested 1 patrolRow patrolScript).judged = [1, 3, 5, 9] ∧
    (tested 1 patrolRow patrolScript).entered = some (9, .commandBelow [.blank] "echo one") ∧
    (tested 1 patrolRow patrolScript).Of patrolScript [] 12 ∧
    tested 1 patrolRow patrolScript = meant 1 0 patrolRow patrolScript := by
  have hlines : rowLines patrolRow <+: patrolScript.listing.kindsFrom patrolScript.next := by decide
  have hlevels : patrolScript.levels ≠ [] := by decide
  have hlater : ∀ d ∈ patrolRow.tail, d.opening.begins = false := by
    simp [patrolRow, Opening.begins]
  have hkeeps : strays 1 patrolRow patrolScript = false := by decide
  obtain ⟨hlive, -, hagree⟩ := chain_is_tested patrolScript _ _ hlines hlevels hlater
  exact ⟨hlines, hlevels, hkeeps, rfl, rfl, hlive (.inl rfl), hagree.mpr hkeeps⟩

/-- A condition with a chain below, which has a second branch. -/
def danglingLines : List Text :=
  ["if_1", "if_0 then echo a", "else echo b"]

/-- A library of that script. -/
def danglingLibrary : Library :=
  fun name => if name = "dangling" then some danglingLines else none

/-- The lines of that script, in a row. -/
def danglingRow : List Branch :=
  [⟨[], .ifs (.argCount 1), [([], .argCount 0)], .inline "echo a"⟩,
    ⟨[], .otherwise, [], .inline "echo b"⟩]

/-- A row is not always read as it is meant. Without an argument the first condition fails, so the
chain below is meant to be left out as a whole; but its second branch is tested, and its body
runs. -/
theorem not_always_meant :
    ∃ s, load danglingLibrary "dangling" {} {} = .ok s ∧
      rowLines danglingRow = s.listing.kindsFrom 0 ∧
      (meant 0 0 danglingRow (s.start [])).judged = [0] ∧
      (meant 0 0 danglingRow (s.start [])).entered = none ∧
      ((s.start []).runFor 3).status = .finished ∧
      ((s.start []).runFor 3).events = [.echo "b\n"] :=
  ⟨_, rfl, by decide +kernel, by decide +kernel, rfl, by decide +kernel, by decide +kernel⟩

end Mudline.Script
