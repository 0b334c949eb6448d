import Mudline.Proofs.Script.Skipping
import Mathlib.Logic.Function.Iterate

/-!
# The run of a structured program

Running the lines of a structured program one after another does what its nested reading says. The
proof goes by the structure of the program: each part that is carried out moves the script from the
first line of the part behind its last, in the same blocks as before, and changes at most the
innermost chain.
-/

namespace Mudline.Script

/-- The second script is what the first becomes line by line, none of which ends it or makes it
wait. -/
inductive Reaches : Script → Script → Prop
  /-- No line is run. -/
  | refl (s : Script) : Reaches s s
  /-- One line is run, and then others. -/
  | line {s t : Script} (hkept : Kept s s.step) (hrest : Reaches s.step t) : Reaches s t

namespace Reaches

/-- What is reached from a script that is reached is reached. -/
theorem trans {s t u : Script} (hst : Reaches s t) (htu : Reaches t u) : Reaches s u := by
  induction hst with
  | refl => exact htu
  | line hkept _ ih => exact .line hkept (ih htu)

/-- One line that is followed by others. -/
theorem head {s t u : Script} {n c : Nat} {l : List Chain} (h : (s.placed n c l).step = t)
    (hkept : Kept s t) (htu : Reaches t u) : Reaches (s.placed n c l) u := by
  subst h
  exact .line ⟨hkept.listing, hkept.status⟩ htu

/-- A script that is reached has kept its listing and its status. -/
theorem kept {s t : Script} (h : Reaches s t) : Kept s t := by
  induction h with
  | refl s => exact .refl s
  | line hkept _ ih => exact hkept.trans ih

/-- The number of lines is a budget that suffices, and after it the script is still running. -/
theorem exists_iterate {s t : Script} (h : Reaches s t) :
    ∃ n, Script.step^[n] s = t ∧ (s.status = .running → s.runFor n = t) := by
  induction h with
  | refl s => exact ⟨0, rfl, fun _ => rfl⟩
  | @line s t hkept _ ih =>
    obtain ⟨n, hiterate, hrun⟩ := ih
    refine ⟨n + 1, hiterate, fun hrunning => ?_⟩
    rw [runFor, if_pos (by simp [hrunning])]
    exact hrun (hkept.status.trans hrunning)

end Reaches

/-- The next step runs the next line. -/
theorem step_of_kindsFrom {s : Script} {line : Line} {rest : List Line}
    (h : s.listing.kindsFrom s.next = line :: rest) :
    s.step = { s with current := s.next }.runLine line := by
  rw [step, Listing.kind?_of_kindsFrom h]

/-- The line of a placed script. -/
theorem step_placed {s : Script} {n c : Nat} {l : List Chain} {line : Line} {rest : List Line}
    (h : s.listing.kindsFrom n = line :: rest) :
    (s.placed n c l).step = (s.placed n n l).runLine line :=
  step_of_kindsFrom h

/-- Lines that only fill a gap are passed. -/
theorem reaches_gap {s : Script} {gap : List Filler} {n c : Nat} {l : List Chain}
    {rest : List Line} (h : s.listing.kindsFrom n = gapLines gap ++ rest) :
    ∃ c', Reaches (s.placed n c l) (s.placed (n + gap.length) c' l) := by
  induction gap generalizing n c with
  | nil => exact ⟨c, .refl _⟩
  | cons f gap ih =>
    have hstep : (s.placed n c l).step = s.placed (n + 1) n l := by
      rw [step_placed h]
      cases f <;> rfl
    obtain ⟨c', hrest⟩ := ih (c := n) (Listing.kindsFrom_succ h)
    refine ⟨c', .head hstep ⟨rfl, rfl⟩ ?_⟩
    simpa [Nat.add_assoc, Nat.add_comm 1] using hrest

/-- A conditional that is not taken, as a line after which all of its body lies behind. -/
theorem skipBody_placed {s : Script} {header : Line} {arm : Arm} {n c : Nat} {l : List Chain}
    {rest : List Line} (hheader : header.body? = some arm.body)
    (h : s.listing.kindsFrom n = header :: (arm.lines ++ rest)) :
    (s.placed n c l).skipBody arm.body = s.placed (n + 1 + arm.lines.length) c l := by
  rw [skipBody_arm (s := s.placed n c l) hheader h]
  rfl

/-- A later conditional of a chain of which a branch has been taken. -/
theorem reaches_passed_header {s : Script} {gap : List Filler} {header : Line} {arm : Arm}
    {n c : Nat}
    {x : Chain} {l : List Chain} {rest : List Line} (hx : x ≠ .untaken)
    (hheader : (∃ cond, header = .elseIfLine cond arm.body) ∨ header = .elseLine arm.body)
    (h : s.listing.kindsFrom n = gapLines gap ++ header :: (arm.lines ++ rest)) :
    ∃ c', Reaches (s.placed n c (x :: l))
      (s.placed (n + gap.length + 1 + arm.lines.length) c' (x :: l)) := by
  obtain ⟨c₁, hgap⟩ := reaches_gap (c := c) (l := x :: l) h
  have hline := Listing.kindsFrom_add h
  rw [gapLines_length] at hline
  have hbody : header.body? = some arm.body := by
    rcases hheader with ⟨cond, rfl⟩ | rfl <;> rfl
  have hskip : (s.placed (n + gap.length) c₁ (x :: l)).step =
      s.placed (n + gap.length + 1 + arm.lines.length) (n + gap.length) (x :: l) := by
    rw [step_placed hline, ← skipBody_placed hbody hline]
    rcases hheader with ⟨cond, rfl⟩ | rfl <;> simp [runLine, runBody, hx]
  exact ⟨_, hgap.trans (.head hskip ⟨rfl, rfl⟩ (.refl _))⟩

/-- The rest of a chain is passed over once a branch has been taken. -/
theorem reaches_passed {s : Script} {x : Chain} {l : List Chain} (hx : x ≠ .untaken) :
    (o : Others) → {n c : Nat} → {rest : List Line} →
      s.listing.kindsFrom n = o.lines ++ rest →
      ∃ c', Reaches (s.placed n c (x :: l)) (s.placed (n + o.lines.length) c' (x :: l))
  | .none, n, c, _, _ => ⟨c, .refl _⟩
  | .elseIf gap cond arm others, n, c, rest, h => by
    simp only [Others.lines, List.append_assoc, List.cons_append] at h
    obtain ⟨c₁, hheader⟩ := reaches_passed_header (c := c) (l := l) hx (.inl ⟨cond, rfl⟩) h
    have hline := Listing.kindsFrom_add h
    rw [gapLines_length] at hline
    obtain ⟨c₂, hothers⟩ := reaches_passed hx others (c := c₁)
      (Listing.kindsFrom_add (Listing.kindsFrom_succ hline))
    refine ⟨c₂, hheader.trans ?_⟩
    simpa [Others.lines, Nat.add_assoc, Nat.add_comm 1] using hothers
  | .otherwise gap arm, n, c, rest, h => by
    simp only [Others.lines, List.append_assoc, List.cons_append] at h
    obtain ⟨c₁, hheader⟩ := reaches_passed_header (c := c) (l := l) hx (.inr rfl) h
    refine ⟨c₁, ?_⟩
    simpa [Others.lines, Nat.add_assoc, Nat.add_comm 1] using hheader

/-- The lines of a block, run from the first, do what the block does and end behind the last. -/
def Block.Simulated (b : Block) : Prop :=
  ∀ {s t : Script} {n c : Nat} {x : Chain} {l : List Chain} {rest : List Line},
    s.listing.kindsFrom n = b.lines ++ rest → b.carryOut? n s = some t →
    ∃ c' y, Reaches (s.placed n c (x :: l)) (t.placed (n + b.lines.length) c' (y :: l))

/-- A body that is entered from the line of its condition does what the body does, ends behind its
last line and leaves the chain to which it belongs as it is. -/
def Arm.Simulated (a : Arm) : Prop :=
  ∀ {s t : Script} {i : Nat} {x : Chain} {l : List Chain} {rest : List Line},
    s.listing.kindsFrom (i + 1) = a.lines ++ rest → a.carryOut? i s = some t →
    Kept s ((s.placed i i (x :: l)).enterBody a.body) ∧
      ∃ c', Reaches ((s.placed i i (x :: l)).enterBody a.body)
        (t.placed (i + 1 + a.lines.length) c' (x :: l))

/-- The rest of a chain of which no branch has been taken. -/
def Others.Simulated (o : Others) : Prop :=
  ∀ {s t : Script} {n c : Nat} {l : List Chain} {rest : List Line},
    s.listing.kindsFrom n = o.lines ++ rest → o.carryOut? n s = some t →
    ∃ c' y, Reaches (s.placed n c (.untaken :: l)) (t.placed (n + o.lines.length) c' (y :: l))

/-- A block with its closing brace, entered behind its opening brace. -/
theorem Block.Simulated.closed {b : Block} (hb : b.Simulated) {s t : Script} {n c : Nat}
    {x : Chain} {l : List Chain} {rest : List Line}
    (h : s.listing.kindsFrom n = b.lines ++ .blockEnd :: rest) (ht : b.carryOut? n s = some t) :
    ∃ c', Reaches (s.placed n c (.absent :: x :: l))
      (t.placed (n + b.lines.length + 1) c' (x :: l)) := by
  obtain ⟨c₁, y, hbody⟩ := hb (c := c) (x := .absent) (l := x :: l) h ht
  have hlisting : t.listing = s.listing := hbody.kept.listing
  have hend : t.listing.kindsFrom (n + b.lines.length) = .blockEnd :: rest := by
    rw [hlisting]
    exact Listing.kindsFrom_add h
  have hclose : (t.placed (n + b.lines.length) c₁ (y :: x :: l)).step =
      t.placed (n + b.lines.length + 1) (n + b.lines.length) (x :: l) := by
    rw [step_placed hend]
    rfl
  exact ⟨_, hbody.trans (.head hclose ⟨rfl, rfl⟩ (.refl _))⟩

/-- A command behind a header is carried out. -/
theorem Arm.simulated_inline (raw : Text) : (Arm.inline raw).Simulated := by
  intro s t i x l rest _ ht
  rw [Arm.carryOut?] at ht
  have henter : (s.placed i i (x :: l)).enterBody (.inline raw) = t.placed (i + 1) i (x :: l) :=
    execute_placed (s := s) (i + 1) (x :: l) ht
  rw [Arm.body, henter]
  exact ⟨(kept_obey? ht).placed _ _ _, i, .refl _⟩

/-- A command in braces is carried out. -/
theorem Arm.simulated_braced (raw : Text) : (Arm.braced raw).Simulated := by
  intro s t i x l rest h ht
  rw [Arm.carryOut?] at ht
  exact simulated_inline raw h (by rwa [Arm.carryOut?])

/-- A block is carried out. -/
theorem Arm.simulated_block {b : Block} (hb : b.Simulated) : (Arm.block b).Simulated := by
  intro s t i x l rest h ht
  simp only [Arm.lines, List.append_assoc, List.singleton_append] at h
  rw [Arm.carryOut?] at ht
  obtain ⟨c', hclosed⟩ := hb.closed (c := i) (x := x) (l := l) h ht
  have hlength : i + 1 + (Arm.block b).lines.length = i + 1 + b.lines.length + 1 := by
    simp [Arm.lines, Nat.add_assoc]
  have henter : (s.placed i i (x :: l)).enterBody .block =
      s.placed (i + 1) i (.absent :: x :: l) := rfl
  rw [hlength, Arm.body, henter]
  exact ⟨⟨rfl, rfl⟩, c', hclosed⟩

/-- The statement on the lines below a condition begins behind the fillers. -/
theorem kind?_below {s : Script} {i : Nat} {gap : List Filler} {line : Line} {rest : List Line}
    (hline : line.isSilent = false)
    (h : s.listing.kindsFrom (i + 1) = gapLines gap ++ line :: rest) :
    silentLength (s.listing.kindsFrom (i + 1)) = gap.length ∧
      s.listing.kind? (i + 1 + gap.length) = some line := by
  have hkinds := Listing.kindsFrom_add h
  rw [gapLines_length] at hkinds
  exact ⟨by rw [h, silentLength_gap gap rest hline], Listing.kind?_of_kindsFrom hkinds⟩

/-- A block below its header is carried out. -/
theorem Arm.simulated_blockBelow (gap : List Filler) {b : Block} (hb : b.Simulated) :
    (Arm.blockBelow gap b).Simulated := by
  intro s t i x l rest h ht
  simp only [Arm.lines, List.append_assoc, List.cons_append, List.nil_append] at h
  rw [Arm.carryOut?] at ht
  obtain ⟨hsilent, hkind⟩ := kind?_below rfl h
  have henter : (s.placed i i (x :: l)).enterBody .next =
      s.placed (i + 1 + gap.length + 1) i (.absent :: x :: l) := by
    simp [enterBody, hsilent, hkind]
  have hbody := Listing.kindsFrom_add h
  rw [gapLines_length] at hbody
  obtain ⟨c', hclosed⟩ := hb.closed (c := i) (x := x) (l := l) (Listing.kindsFrom_succ hbody) ht
  have hlength : i + 1 + (Arm.blockBelow gap b).lines.length =
      i + 1 + gap.length + 1 + b.lines.length + 1 := by
    simp [Arm.lines]
    omega
  rw [hlength, Arm.body, henter]
  exact ⟨⟨rfl, rfl⟩, c', hclosed⟩

/-- A command below its header is carried out. -/
theorem Arm.simulated_commandBelow (gap : List Filler) (raw : Text) :
    (Arm.commandBelow gap raw).Simulated := by
  intro s t i x l rest h ht
  simp only [Arm.lines, List.append_assoc, List.singleton_append] at h
  rw [Arm.carryOut?] at ht
  obtain ⟨hsilent, hkind⟩ := kind?_below rfl h
  have henter : (s.placed i i (x :: l)).enterBody .next =
      t.placed (i + 1 + gap.length + 1) (i + 1 + gap.length) (x :: l) := by
    rw [← execute_placed (i + 1 + gap.length + 1) (x :: l) ht]
    simp [enterBody, hsilent, hkind, placed]
  have hlength : i + 1 + (Arm.commandBelow gap raw).lines.length = i + 1 + gap.length + 1 := by
    simp [Arm.lines, Nat.add_assoc]
  rw [hlength, Arm.body, henter]
  exact ⟨(kept_obey? ht).placed _ _ _, _, .refl _⟩

/-- A condition that is judged, with its body and the rest of its chain. Where the condition holds,
the body is carried out and the rest is passed over; where it does not, the other way round. -/
theorem reaches_judged {s t : Script} {header : Line} {cond : Condition} {arm : Arm}
    {others : Others} {i c : Nat} {x : Chain} {l : List Chain} {rest : List Line}
    (harm : arm.Simulated) (hothers : others.Simulated) (hbody : header.body? = some arm.body)
    (hheader : (s.placed i i (x :: l)).runLine header =
      ((s.judge i cond).1.placed i i (.ofTest (s.judge i cond).2 :: l)).runBody arm.body
        (s.judge i cond).2)
    (h : s.listing.kindsFrom i = header :: (arm.lines ++ (others.lines ++ rest)))
    (ht : (if (s.judge i cond).2 then arm.carryOut? i (s.judge i cond).1
      else others.carryOut? (i + 1 + arm.lines.length) (s.judge i cond).1) = some t) :
    ∃ c' y, Reaches (s.placed i c (x :: l))
      (t.placed (i + 1 + arm.lines.length + others.lines.length) c' (y :: l)) := by
  have hjudge := kept_judge s i cond
  generalize (s.judge i cond).1 = u at *
  have hlines : u.listing.kindsFrom i = header :: (arm.lines ++ (others.lines ++ rest)) := by
    rw [hjudge.listing, h]
  have harmLines := Listing.kindsFrom_succ hlines
  cases hholds : (s.judge i cond).2 with
  | true =>
    rw [hholds] at hheader ht
    obtain ⟨hkept, c₁, hentered⟩ := harm (x := .taken) (l := l) harmLines ht
    have hothersLines : t.listing.kindsFrom (i + 1 + arm.lines.length) = others.lines ++ rest := by
      rw [show t.listing = u.listing from (hkept.trans hentered.kept).listing]
      exact Listing.kindsFrom_add harmLines
    obtain ⟨c₂, hpassed⟩ := reaches_passed (x := .taken) (l := l) (by decide) others (c := c₁)
      hothersLines
    have henter : (s.placed i c (x :: l)).step =
        (u.placed i i (.taken :: l)).enterBody arm.body := by
      rw [step_placed h, hheader]
      rfl
    exact ⟨c₂, .taken, .head henter (hjudge.trans hkept) (hentered.trans hpassed)⟩
  | false =>
    rw [hholds] at hheader ht
    have hskip : (s.placed i c (x :: l)).step =
        u.placed (i + 1 + arm.lines.length) i (.untaken :: l) := by
      rw [step_placed h, hheader, ← skipBody_placed hbody hlines]
      rfl
    obtain ⟨c₁, y, hcarried⟩ := hothers (c := i) (l := l) (Listing.kindsFrom_add harmLines) ht
    exact ⟨c₁, y, .head hskip (hjudge.placed _ _ _) hcarried⟩

/-- Without other cases there is nothing to carry out. -/
theorem Others.simulated_none : Others.none.Simulated := by
  intro s t n c l rest _ ht
  rw [Others.carryOut?, Option.some.injEq] at ht
  subst ht
  exact ⟨c, .untaken, .refl _⟩

/-- Another case is judged, and carried out if it holds. -/
theorem Others.simulated_elseIf (gap : List Filler) (cond : Condition) {arm : Arm}
    {others : Others} (harm : arm.Simulated) (hothers : others.Simulated) :
    (Others.elseIf gap cond arm others).Simulated := by
  intro s t n c l rest h ht
  simp only [Others.lines, List.append_assoc, List.cons_append] at h
  rw [Others.carryOut?] at ht
  obtain ⟨c₁, hgap⟩ := reaches_gap (c := c) (l := .untaken :: l) h
  have hline := Listing.kindsFrom_add h
  rw [gapLines_length] at hline
  have hheader : (s.placed (n + gap.length) (n + gap.length) (.untaken :: l)).runLine
      (.elseIfLine cond arm.body) =
      ((s.judge (n + gap.length) cond).1.placed (n + gap.length) (n + gap.length)
        (.ofTest (s.judge (n + gap.length) cond).2 :: l)).runBody arm.body
        (s.judge (n + gap.length) cond).2 := by
    simp [runLine, test_placed]
  obtain ⟨c₂, y, hjudged⟩ := reaches_judged harm hothers (c := c₁) rfl hheader hline ht
  have hlength : n + (Others.elseIf gap cond arm others).lines.length =
      n + gap.length + 1 + arm.lines.length + others.lines.length := by
    simp [Others.lines]
    omega
  rw [hlength]
  exact ⟨c₂, y, hgap.trans hjudged⟩

/-- The last case is carried out if no other holds. -/
theorem Others.simulated_otherwise (gap : List Filler) {arm : Arm} (harm : arm.Simulated) :
    (Others.otherwise gap arm).Simulated := by
  intro s t n c l rest h ht
  simp only [Others.lines, List.append_assoc, List.cons_append] at h
  rw [Others.carryOut?] at ht
  obtain ⟨c₁, hgap⟩ := reaches_gap (c := c) (l := .untaken :: l) h
  have hline := Listing.kindsFrom_add h
  rw [gapLines_length] at hline
  obtain ⟨hkept, c₂, hentered⟩ :=
    harm (x := .taken) (l := l) (Listing.kindsFrom_succ hline) ht
  have henter : (s.placed (n + gap.length) c₁ (.untaken :: l)).step =
      (s.placed (n + gap.length) (n + gap.length) (.taken :: l)).enterBody arm.body := by
    rw [step_placed hline]
    rfl
  have hlength : n + (Others.otherwise gap arm).lines.length =
      n + gap.length + 1 + arm.lines.length := by
    simp [Others.lines]
    omega
  rw [hlength]
  exact ⟨c₂, .taken, hgap.trans (.head henter hkept hentered)⟩

/-- The end of a block closes it. -/
theorem Block.simulated_done (gap : List Filler) : (Block.done gap).Simulated := by
  intro s t n c x l rest h ht
  rw [Block.carryOut?, Option.some.injEq] at ht
  subst ht
  obtain ⟨c', hgap⟩ := reaches_gap (c := c) (l := x :: l) h
  rw [Block.lines, gapLines_length]
  exact ⟨c', x, hgap⟩

/-- A command is carried out and the rest of the block behind it. -/
theorem Block.simulated_command (gap : List Filler) (raw : Text) {rest : Block}
    (hrest : rest.Simulated) : (Block.command gap raw rest).Simulated := by
  intro s t n c x l after h ht
  simp only [Block.lines, List.append_assoc, List.cons_append] at h
  rw [Block.carryOut?] at ht
  obtain ⟨u, hu, ht⟩ := Option.bind_eq_some_iff.mp ht
  obtain ⟨c₁, hgap⟩ := reaches_gap (c := c) (l := x :: l) h
  have hline := Listing.kindsFrom_add h
  rw [gapLines_length] at hline
  have hexecute : (s.placed (n + gap.length) c₁ (x :: l)).step =
      u.placed (n + gap.length + 1) (n + gap.length) (.absent :: l) := by
    rw [step_placed hline, ← execute_placed _ _ hu]
    rfl
  have hkept := kept_obey? hu
  have hafter : u.listing.kindsFrom (n + gap.length + 1) = rest.lines ++ after := by
    rw [hkept.listing]
    exact Listing.kindsFrom_succ hline
  obtain ⟨c₂, y, hcarried⟩ := hrest (c := n + gap.length) (x := .absent) (l := l) hafter ht
  have hlength : n + (Block.command gap raw rest).lines.length =
      n + gap.length + 1 + rest.lines.length := by
    simp [Block.lines]
    omega
  rw [hlength]
  exact ⟨c₂, y, hgap.trans (.head hexecute (hkept.placed _ _ _) hcarried)⟩

/-- A chain is carried out and the rest of the block behind it. -/
theorem Block.simulated_chain (gap : List Filler) (cond : Condition) {arm : Arm} {others : Others}
    {rest : Block} (harm : arm.Simulated) (hothers : others.Simulated) (hrest : rest.Simulated) :
    (Block.chain gap cond arm others rest).Simulated := by
  intro s t n c x l after h ht
  simp only [Block.lines, List.append_assoc, List.cons_append] at h
  rw [Block.carryOut?] at ht
  obtain ⟨u, hu, ht⟩ := Option.bind_eq_some_iff.mp ht
  obtain ⟨c₁, hgap⟩ := reaches_gap (c := c) (l := x :: l) h
  have hline := Listing.kindsFrom_add h
  rw [gapLines_length] at hline
  have hheader : (s.placed (n + gap.length) (n + gap.length) (x :: l)).runLine
      (.ifLine cond arm.body) =
      ((s.judge (n + gap.length) cond).1.placed (n + gap.length) (n + gap.length)
        (.ofTest (s.judge (n + gap.length) cond).2 :: l)).runBody arm.body
        (s.judge (n + gap.length) cond).2 := by
    simp [runLine, test_placed]
  obtain ⟨c₂, y, hjudged⟩ := reaches_judged harm hothers (c := c₁) rfl hheader hline hu
  have hchain := hgap.trans hjudged
  have hafter : u.listing.kindsFrom
      (n + gap.length + 1 + arm.lines.length + others.lines.length) = rest.lines ++ after := by
    rw [show u.listing = s.listing from hchain.kept.listing]
    exact Listing.kindsFrom_add (Listing.kindsFrom_add (Listing.kindsFrom_succ hline))
  obtain ⟨c₃, z, hcarried⟩ := hrest (c := c₂) (x := y) (l := l) hafter ht
  have hlength : n + (Block.chain gap cond arm others rest).lines.length =
      n + gap.length + 1 + arm.lines.length + others.lines.length + rest.lines.length := by
    simp [Block.lines]
    omega
  rw [hlength]
  exact ⟨c₃, z, hchain.trans hcarried⟩

mutual

/-- Every block is carried out as it reads. -/
theorem Block.simulated : (b : Block) → b.Simulated
  | .done gap => Block.simulated_done gap
  | .command gap raw rest => Block.simulated_command gap raw rest.simulated
  | .chain gap cond arm others rest =>
    Block.simulated_chain gap cond arm.simulated others.simulated rest.simulated

/-- Every arm is carried out as it reads. -/
theorem Arm.simulated : (a : Arm) → a.Simulated
  | .inline raw => Arm.simulated_inline raw
  | .braced raw => Arm.simulated_braced raw
  | .block body => Arm.simulated_block body.simulated
  | .blockBelow gap body => Arm.simulated_blockBelow gap body.simulated
  | .commandBelow gap raw => Arm.simulated_commandBelow gap raw

/-- All other cases are carried out as they read. -/
theorem Others.simulated : (o : Others) → o.Simulated
  | .none => Others.simulated_none
  | .elseIf gap cond arm others => Others.simulated_elseIf gap cond arm.simulated others.simulated
  | .otherwise gap arm => Others.simulated_otherwise gap arm.simulated

end

/-- A script that stands before the lines of a structured program, in any blocks, runs them to the
end and has then done what the program says. Only the place where it stands and the innermost chain
are not the program's. -/
theorem runs_structured (b : Block) (s t : Script)
    (hlines : b.lines <+: s.listing.kindsFrom s.next) (hlevels : s.levels ≠ [])
    (ht : b.carryOut? s.next s = some t) :
    ∃ n current innermost,
      step^[n] s = { t with
        next := s.next + b.lines.length
        current := current
        levels := innermost :: s.levels.tail } ∧
      (s.status = .running → s.runFor n = step^[n] s) := by
  obtain ⟨rest, hrest⟩ := hlines
  obtain ⟨x, l, hl⟩ := List.exists_cons_of_ne_nil hlevels
  obtain ⟨c, y, hreaches⟩ := b.simulated (c := s.current) (x := x) (l := l) hrest.symm ht
  rw [← hl, placed_self] at hreaches
  obtain ⟨n, hiterate, hrun⟩ := hreaches.exists_iterate
  refine ⟨n, c, y, ?_, fun hrunning => (hrun hrunning).trans hiterate.symm⟩
  rw [hiterate, hl]
  rfl

/-- Two chains, one in a block of the other, with bodies of several layouts. -/
def tollBlock : Block :=
  .chain [] (.argCount 1)
    (.block (.chain [.comment] (.argCount 2)
      (.blockBelow [.blank] (.command [] "put pay" (.done [])))
      (.otherwise [] (.inline "echo %1 is short")) (.done [])))
    (.elseIf [.blank] (.argCount 0) (.commandBelow [] "echo nobody") .none) (.done [.comment])

/-- A script with one argument that stands before those chains, in a block of another chain. -/
def tollScript : Script where
  listing := {
    name := "toll"
    lines := (Line.label "gate" :: tollBlock.lines).map fun kind => ⟨⟨[], "toll", 1⟩, kind⟩
    labels := [] }
  next := 1
  levels := [.taken, .absent]
  args := ["one"]
  status := .running

/-- A toll in nested chains is asked of those that have one coin. -/
theorem runs_structured_toll :
    tollBlock.lines <+: tollScript.listing.kindsFrom tollScript.next ∧ tollScript.levels ≠ [] ∧
    tollBlock.carryOut? 1 tollScript =
      some { tollScript with current := 8, events := [.echo "one is short\n"] } ∧
    ∃ n current innermost,
      step^[n] tollScript = { tollScript with
        next := 14
        current := current
        levels := innermost :: tollScript.levels.tail
        events := [.echo "one is short\n"] } ∧
      (tollScript.status = .running → tollScript.runFor n = step^[n] tollScript) := by
  have hlines : tollBlock.lines <+: tollScript.listing.kindsFrom tollScript.next := by decide
  have hlevels : tollScript.levels ≠ [] := by decide
  have hcarried : tollBlock.carryOut? 1 tollScript =
      some { tollScript with current := 8, events := [.echo "one is short\n"] } := rfl
  exact ⟨hlines, hlevels, hcarried, runs_structured tollBlock tollScript _ hlines hlevels hcarried⟩

end Mudline.Script
