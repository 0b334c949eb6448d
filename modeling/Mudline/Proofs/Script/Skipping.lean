import Mudline.Proofs.Script.Placement

/-!
# Skipping bodies

A body that is not taken is passed over by counting braces, and a body on the lines below by finding
the end of the next statement. On the lines of a structured program both counts end exactly behind
the body: every block inside it is balanced and never closes more than it has opened.
-/

namespace Mudline.Script

/-- Behind some lines come those that follow them. -/
theorem Listing.kindsFrom_add {l : Listing} {n : Nat} {ls rest : List Line}
    (h : l.kindsFrom n = ls ++ rest) : l.kindsFrom (n + ls.length) = rest := by
  have hdrop : l.kindsFrom (n + ls.length) = (l.kindsFrom n).drop ls.length := by
    simp [kindsFrom, List.drop_drop]
  rw [hdrop, h, List.drop_left]

/-- Behind a line come those that follow it. -/
theorem Listing.kindsFrom_succ {l : Listing} {n : Nat} {line : Line} {rest : List Line}
    (h : l.kindsFrom n = line :: rest) : l.kindsFrom (n + 1) = rest :=
  kindsFrom_add (show l.kindsFrom n = [line] ++ rest from h)

/-- The first of the lines from a place on is the one at this place. -/
theorem Listing.kind?_of_kindsFrom {l : Listing} {n : Nat} {line : Line} {rest : List Line}
    (h : l.kindsFrom n = line :: rest) : l.kind? n = some line := by
  have hhead : l.kind? n = (l.kindsFrom n).head? := by
    simp [kind?, kindsFrom, List.head?_drop]
  rw [hhead, h, List.head?_cons]

/-- Every filler is a line. -/
@[simp] theorem gapLines_length (gap : List Filler) : (gapLines gap).length = gap.length := by
  simp [gapLines]

/-- A filler opens and closes no block. -/
@[simp] theorem Filler.line_delta (f : Filler) : f.line.delta = 0 := by
  cases f <;> rfl

/-- A filler is silent. -/
@[simp] theorem Filler.line_isSilent (f : Filler) : f.line.isSilent = true := by
  cases f <;> rfl

/-- A statement behind a gap is longer by the gap. -/
theorem statementLength_gap (gap : List Filler) (rest : List Line) :
    statementLength (gapLines gap ++ rest) = gap.length + statementLength rest := by
  induction gap with
  | nil => simp [gapLines]
  | cons f gap ih =>
    have hcons : gapLines (f :: gap) ++ rest = f.line :: (gapLines gap ++ rest) := rfl
    rw [hcons, statementLength, if_pos f.line_isSilent, ih, List.length_cons]
    omega

/-- The silent lines before another line are the gap. -/
theorem silentLength_gap (gap : List Filler) {line : Line} (rest : List Line)
    (hline : line.isSilent = false) : silentLength (gapLines gap ++ line :: rest) = gap.length := by
  have hgap : ∀ a ∈ gapLines gap, a.isSilent = true := by
    intro a ha
    obtain ⟨f, -, rfl⟩ := List.mem_map.mp ha
    exact f.line_isSilent
  rw [silentLength, List.takeWhile_append_of_pos hgap, List.takeWhile_cons_of_neg (by simp [hline])]
  simp

/-- Lines that are passed over whole at every positive depth. -/
def Balanced (ls : List Line) : Prop :=
  ∀ (depth : Int) (rest : List Line), 0 < depth →
    blockLength depth (ls ++ rest) = ls.length + blockLength depth rest

/-- No lines are balanced. -/
theorem Balanced.nil : Balanced [] := by
  intro depth rest _
  simp

/-- Balanced lines are balanced one after the other. -/
theorem Balanced.append {ls ms : List Line} (hl : Balanced ls) (hm : Balanced ms) :
    Balanced (ls ++ ms) := by
  intro depth rest hdepth
  rw [List.append_assoc, hl depth _ hdepth, hm depth _ hdepth, List.length_append]
  omega

/-- A line that opens and closes nothing. -/
theorem Balanced.flat {line : Line} {ls : List Line} (hline : line.delta = 0) (hl : Balanced ls) :
    Balanced (line :: ls) := by
  intro depth rest hdepth
  rw [List.cons_append, blockLength, hline, Int.add_zero, if_neg (by omega), hl depth rest hdepth,
    List.length_cons]
  omega

/-- Counted from depth zero, a block ends at its closing brace. -/
theorem blockLength_block (opening : Line) {ls : List Line} (rest : List Line)
    (hopening : opening.delta = 1) (hl : Balanced ls) :
    blockLength 0 (opening :: (ls ++ .blockEnd :: rest)) = 1 + ls.length := by
  have hend : blockLength 1 (.blockEnd :: rest) = 0 := by
    simp [blockLength, Line.delta]
  rw [blockLength, hopening, if_neg (by omega), Int.zero_add, hl 1 _ (by omega), hend, Nat.add_zero]

/-- A block with its braces. -/
theorem Balanced.braces {opening : Line} {ls : List Line} (hopening : opening.delta = 1)
    (hl : Balanced ls) : Balanced (opening :: (ls ++ [.blockEnd])) := by
  intro depth rest hdepth
  have hend : blockLength (depth + 1) (.blockEnd :: rest) = 1 + blockLength depth rest := by
    rw [blockLength, Line.delta, show depth + 1 + -1 = depth by omega, if_neg (by omega)]
  rw [List.cons_append, List.append_assoc, List.singleton_append, blockLength, hopening,
    if_neg (by omega), hl (depth + 1) _ (by omega), hend]
  simp
  omega

/-- Balanced lines behind a gap are balanced. -/
theorem balanced_gap {ls : List Line} (gap : List Filler) (hl : Balanced ls) :
    Balanced (gapLines gap ++ ls) := by
  induction gap with
  | nil => exact hl
  | cons f gap ih => exact ih.flat f.line_delta

/-- How a conditional changes the depth depends on its body alone. -/
theorem Line.delta_of_body {header : Line} {body : Body} (h : header.body? = some body) :
    header.delta = if body = .block then 1 else 0 := by
  cases header <;> simp_all [Line.body?, Line.delta]

mutual

/-- A structured program opens and closes its blocks in pairs. -/
theorem Block.balanced : (b : Block) → Balanced b.lines
  | .done gap => by
    have h := balanced_gap gap .nil
    simpa [Block.lines] using h
  | .command gap raw rest => balanced_gap gap (rest.balanced.flat rfl)
  | .chain gap cond arm others rest => by
    have h := (arm.balanced (.ifLine cond arm.body) rfl).append
      (others.balanced.append rest.balanced)
    exact balanced_gap gap (by simpa using h)

/-- So does a conditional with its body. -/
theorem Arm.balanced (header : Line) :
    (a : Arm) → header.body? = some a.body → Balanced (header :: a.lines)
  | .inline _, h => Balanced.nil.flat (Line.delta_of_body h)
  | .braced _, h => Balanced.nil.flat (Line.delta_of_body h)
  | .block body, h => body.balanced.braces (Line.delta_of_body h)
  | .blockBelow gap body, h =>
    (balanced_gap gap (body.balanced.braces rfl)).flat (Line.delta_of_body h)
  | .commandBelow gap _, h =>
    (balanced_gap gap (Balanced.nil.flat rfl)).flat (Line.delta_of_body h)

/-- So does the rest of a chain. -/
theorem Others.balanced : (o : Others) → Balanced o.lines
  | .none => .nil
  | .elseIf gap cond arm others => by
    have h := (arm.balanced (.elseIfLine cond arm.body) rfl).append others.balanced
    exact balanced_gap gap (by simpa using h)
  | .otherwise gap arm => balanced_gap gap (arm.balanced (.elseLine arm.body) rfl)

end

/-- A conditional that is not taken is passed over with its whole body. -/
theorem skipBody_arm {s : Script} {header : Line} {arm : Arm} {rest : List Line}
    (hheader : header.body? = some arm.body)
    (h : s.listing.kindsFrom s.next = header :: (arm.lines ++ rest)) :
    s.skipBody arm.body = s.goTo (s.next + 1 + arm.lines.length) := by
  cases arm with
  | inline raw | braced raw => rfl
  | block body =>
    have hdelta := Line.delta_of_body hheader
    have hlength := blockLength_block header rest hdelta body.balanced
    simp only [Arm.lines, List.append_assoc, List.singleton_append] at h
    simp only [Arm.body, skipBody, h, hlength, Arm.lines, List.length_append, List.length_singleton]
    congr 1
    omega
  | blockBelow gap body =>
    have hlength := blockLength_block .blockStart rest rfl body.balanced
    have hnext := Listing.kindsFrom_succ h
    simp only [Arm.lines, List.append_assoc, List.cons_append, List.nil_append] at hnext
    have hstatement : statementLength (.blockStart :: (body.lines ++ .blockEnd :: rest)) =
        body.lines.length + 2 := by
      rw [statementLength, if_neg (by decide), if_pos (by decide), hlength]
      omega
    simp only [Arm.body, skipBody, hnext, statementLength_gap, hstatement, Arm.lines,
      List.length_append, List.length_cons, List.length_nil, gapLines_length]
  | commandBelow gap raw =>
    have hnext := Listing.kindsFrom_succ h
    simp only [Arm.lines, List.append_assoc, List.singleton_append] at hnext
    have hstatement : statementLength (.command raw :: rest) = 1 := rfl
    simp only [Arm.body, skipBody, hnext, statementLength_gap, hstatement, Arm.lines,
      List.length_append, List.length_singleton, gapLines_length]

end Mudline.Script
