import Mudline.Proofs.Script.Skipping
import Mudline.Proofs.Script.Frame

/-!
# The depth of blocks

How many blocks are open behind some lines can be counted from their braces alone. A script counts
in two ways of its own: a line that is run adds a chain to its stack or takes one away, and a body
that is passed over is measured by its braces. This file shows that both agree with the braces, line
by line, with one exception: the brace that closes a block may stand in the place of a missing body.
-/

namespace Mudline.Script

/-- How many blocks are open behind some lines, if so many are open before them. A brace that closes
no open block counts for nothing. -/
def depthAfter (depth : Nat) (lines : List Line) : Nat :=
  lines.foldl (fun d line => ((d : Int) + line.delta).toNat) depth

/-- No lines leave the depth as it is. -/
@[simp] theorem depthAfter_nil (depth : Nat) : depthAfter depth [] = depth := rfl

/-- A line changes the depth before those behind it. -/
@[simp] theorem depthAfter_cons (depth : Nat) (line : Line) (lines : List Line) :
    depthAfter depth (line :: lines) = depthAfter ((depth : Int) + line.delta).toNat lines := rfl

/-- Lines change the depth one after another. -/
theorem depthAfter_append (depth : Nat) (ls ms : List Line) :
    depthAfter depth (ls ++ ms) = depthAfter (depthAfter depth ls) ms :=
  List.foldl_append

/-- A silent line does not change the depth. -/
theorem Line.delta_of_isSilent {line : Line} (h : line.isSilent = true) : line.delta = 0 := by
  cases line <;> first | rfl | simp [Line.isSilent] at h

/-- A line opens a block, closes one, or neither. -/
theorem Line.delta_cases (line : Line) :
    line.delta = 1 ∨ line.delta = 0 ∨ line.delta = -1 ∧ line = .blockEnd := by
  cases line with
  | blockStart => exact .inl rfl
  | blockEnd => exact .inr (.inr ⟨rfl, rfl⟩)
  | blank | comment | label _ | command _ => exact .inr (.inl rfl)
  | ifLine _ body | elseIfLine _ body | elseLine body =>
    by_cases hbody : body = .block
    · exact .inl (by simp [Line.delta, Line.body?, hbody])
    · exact .inr (.inl (by simp [Line.delta, Line.body?, hbody]))

/-- Silent lines open and close nothing. -/
theorem depthAfter_silent (depth : Nat) (lines : List Line) :
    depthAfter depth (lines.take (silentLength lines)) = depth := by
  induction lines with
  | nil => rfl
  | cons line rest ih =>
    cases hsilent : line.isSilent with
    | false => simp [silentLength, hsilent]
    | true =>
      have hlength : silentLength (line :: rest) = silentLength rest + 1 := by
        simp [silentLength, hsilent]
      rw [hlength, List.take_succ_cons, depthAfter_cons, Line.delta_of_isSilent hsilent]
      simpa using ih

/-- A block that is closed leaves the depth outside of it, where `depth` counts the open blocks
from that block on. -/
theorem depthAfter_blockLength {outside depth : Nat} {lines : List Line} (hdepth : 0 < depth)
    (hclosed : blockLength depth lines < lines.length) :
    depthAfter (outside + depth) (lines.take (blockLength depth lines + 1)) = outside := by
  induction lines generalizing depth with
  | nil => simp at hclosed
  | cons line rest ih =>
    have hdelta := line.delta_cases
    rw [blockLength] at hclosed ⊢
    split at hclosed
    · rename_i hends
      rw [if_pos hends]
      simp only [Nat.zero_add, List.take_succ_cons, List.take_zero, depthAfter_cons, depthAfter_nil]
      omega
    · rename_i hgoes
      obtain ⟨inner, hinner⟩ : ∃ inner : Nat, (depth : Int) + line.delta = inner :=
        ⟨_, (Int.toNat_of_nonneg (by omega)).symm⟩
      have hcount : (((outside + depth : Nat) : Int) + line.delta).toNat = outside + inner := by
        omega
      simp only [hinner, List.length_cons] at hclosed hgoes ⊢
      rw [if_neg hgoes, Nat.add_comm 1, List.take_succ_cons, depthAfter_cons, hcount]
      exact ih (by omega) (by omega)

/-- A block is closed by the brace that it is passed over with. -/
theorem depthAfter_block {depth : Nat} {opening : Line} {rest : List Line}
    (hopening : opening.delta = 1)
    (hclosed : blockLength 0 (opening :: rest) < (opening :: rest).length) :
    depthAfter depth ((opening :: rest).take (blockLength 0 (opening :: rest) + 1)) = depth := by
  have hlength : blockLength 0 (opening :: rest) = blockLength (1 : Nat) rest + 1 := by
    rw [blockLength, hopening, if_neg (by omega), Nat.add_comm]
    rfl
  have hcount : ((depth : Int) + opening.delta).toNat = depth + 1 := by omega
  rw [hlength, List.length_cons] at hclosed
  rw [hlength, List.take_succ_cons, depthAfter_cons, hcount]
  exact depthAfter_blockLength (by omega) (by omega)

/-- Whether a body is missing where one is looked for, because a brace closes the block around it
first. Where a conditional stands in its place, that conditional lacks a body as well. -/
def bodyMissing : List Line → Bool
  | [] => false
  | line :: rest =>
    if line.isSilent || line.takesNext then bodyMissing rest else line == .blockEnd

/-- A header that takes the next line does not change the depth. -/
theorem Line.delta_of_takesNext {line : Line} (h : line.takesNext = true) : line.delta = 0 := by
  have hbody : line.body? = some .next := by simpa [Line.takesNext] using h
  simpa using Line.delta_of_body hbody

/-- A statement is passed over with all its braces, but for the brace that takes the place of a
missing body. -/
theorem depthAfter_statementLength {depth : Nat} {lines : List Line}
    (hrest : statementLength lines < lines.length) :
    depthAfter depth (lines.take (statementLength lines)) =
      if bodyMissing lines then depth - 1 else depth := by
  induction lines with
  | nil => simp at hrest
  | cons line rest ih =>
    have hpassed (hdelta : line.delta = 0)
        (hlength : statementLength (line :: rest) = statementLength rest + 1) :
        depthAfter depth ((line :: rest).take (statementLength (line :: rest))) =
          if bodyMissing rest then depth - 1 else depth := by
      rw [hlength, List.length_cons] at hrest
      rw [hlength, List.take_succ_cons, depthAfter_cons, hdelta]
      simpa using ih (by omega)
    cases hsilent : line.isSilent with
    | true =>
      have hlength : statementLength (line :: rest) = statementLength rest + 1 := by
        rw [statementLength, if_pos hsilent, Nat.add_comm]
      rw [hpassed (Line.delta_of_isSilent hsilent) hlength]
      simp [bodyMissing, hsilent]
    | false =>
      cases hnext : line.takesNext with
      | true =>
        have hdelta := Line.delta_of_takesNext hnext
        have hlength : statementLength (line :: rest) = statementLength rest + 1 := by
          simp [statementLength, hsilent, hdelta, hnext, Nat.add_comm]
        rw [hpassed hdelta hlength]
        simp [bodyMissing, hnext]
      | false =>
        have hmissing : bodyMissing (line :: rest) = (line == .blockEnd) := by
          simp [bodyMissing, hsilent, hnext]
        rcases line.delta_cases with hopens | hflat | ⟨hcloses, rfl⟩
        · have hlength : statementLength (line :: rest) = blockLength 0 (line :: rest) + 1 := by
            simp [statementLength, hsilent, hopens]
          have hother : line ≠ .blockEnd := by
            rintro rfl
            simp [Line.delta] at hopens
          rw [hlength] at hrest
          rw [hlength, depthAfter_block hopens (by omega), hmissing]
          simp [hother]
        · have hlength : statementLength (line :: rest) = 1 := by
            simp [statementLength, hsilent, hflat, hnext]
          have hother : line ≠ .blockEnd := by
            rintro rfl
            simp [Line.delta] at hflat
          simp [hlength, hflat, hmissing, hother]
        · have hlength : statementLength (.blockEnd :: rest) = 1 := rfl
          simp [hlength, hmissing, hcloses]
          omega

/-- Whether the script takes the branch of a conditional. -/
def takes (s : Script) : Line → Bool
  | .ifLine cond _ => (s.test cond).2
  | .elseIfLine cond _ => s.chain == .untaken && (s.test cond).2
  | .elseLine _ => s.chain == .untaken
  | _ => false

/-- The chain that a conditional leaves in its block. -/
def chainAfter (s : Script) (line : Line) : Chain :=
  if s.takes line then .taken
  else match line with
    | .ifLine _ _ => .untaken
    | _ => s.chain

/-- Which line ran last makes no difference to the branch. -/
theorem takes_current (s : Script) (i : Nat) (line : Line) :
    { s with current := i }.takes line = s.takes line := by
  have htest (cond : Condition) : ({ s with current := i }.test cond).2 = (s.test cond).2 := by
    cases cond with
    | argCount n => rfl
    | expr t =>
      have hexpand : { s with current := i }.expandLine t = s.expandLine t := rfl
      simp only [test, hexpand]
      split
      · rfl
      · split <;> rfl
  cases line with
  | ifLine cond body | elseIfLine cond body => simp only [takes, chain, htest]
  | blank | comment | label _ | blockStart | blockEnd | elseLine _ | command _ => rfl

/-- The chain may be set to what it is. -/
theorem setChain_chain {s : Script} (h : s.levels ≠ []) : s.setChain s.chain = s := by
  obtain ⟨x, l, hl⟩ := List.exists_cons_of_ne_nil h
  simp only [setChain, chain, hl, List.headD_cons, List.tail_cons]
  rw [← hl]

/-- A conditional decides upon its branch, notes it in the chain of its block and goes on with the
body, while the script stands where it stood. -/
theorem approachLine_conditional {s : Script} {line : Line} {body : Body}
    (hbody : line.body? = some body) (hlevels : s.levels ≠ []) :
    ∃ t, Steady s t ∧ s.approachLine line =
      (t.setChain (s.chainAfter line)).approachBranch body (s.takes line) := by
  have hjudged (cond : Condition) (hchain : s.chainAfter line = .ofTest (s.test cond).2)
      (htakes : s.takes line = (s.test cond).2)
      (hline : s.approachLine line =
        ((s.test cond).1.setChain (.ofTest (s.test cond).2)).approachBranch body (s.test cond).2) :
      ∃ t, Steady s t ∧ s.approachLine line =
        (t.setChain (s.chainAfter line)).approachBranch body (s.takes line) :=
    ⟨_, steady_test s cond, by rw [hline, hchain, htakes]⟩
  have hpassed (hchain : s.chainAfter line = s.chain) (htakes : s.takes line = false)
      (hline : s.approachLine line = (s.skipBody body, none)) :
      ∃ t, Steady s t ∧ s.approachLine line =
        (t.setChain (s.chainAfter line)).approachBranch body (s.takes line) :=
    ⟨s, .refl s, by rw [hline, hchain, htakes, setChain_chain hlevels]; rfl⟩
  cases line with
  | blank | comment | label _ | blockStart | blockEnd | command _ => simp [Line.body?] at hbody
  | ifLine cond ownBody =>
    obtain rfl : ownBody = body := by simpa [Line.body?] using hbody
    refine hjudged cond ?_ rfl rfl
    cases hholds : (s.test cond).2 <;> simp [chainAfter, takes, hholds, Chain.ofTest]
  | elseIfLine cond ownBody =>
    obtain rfl : ownBody = body := by simpa [Line.body?] using hbody
    by_cases hchain : s.chain = .untaken
    · refine hjudged cond ?_ (by simp [takes, hchain]) (by simp [approachLine, hchain])
      cases hholds : (s.test cond).2 <;> simp [chainAfter, takes, hholds, hchain, Chain.ofTest]
    · have htakes : s.takes (.elseIfLine cond ownBody) = false := by simp [takes, hchain]
      exact hpassed (by simp [chainAfter, htakes]) htakes (by simp [approachLine, hchain])
  | elseLine ownBody =>
    obtain rfl : ownBody = body := by simpa [Line.body?] using hbody
    by_cases hchain : s.chain = .untaken
    · exact ⟨s, .refl s, by simp [approachLine, chainAfter, takes, hchain, approachBranch]⟩
    · have htakes : s.takes (.elseLine ownBody) = false := by simp [takes, hchain]
      exact hpassed (by simp [chainAfter, htakes]) htakes (by simp [approachLine, hchain])

/-- The lines from a place on begin with the one at this place. -/
theorem Listing.kindsFrom_of_kind? {l : Listing} {i : Nat} {line : Line}
    (h : l.kind? i = some line) : l.kindsFrom i = line :: l.kindsFrom (i + 1) := by
  have hi := Listing.lt_of_kind? h
  obtain ⟨listed, hlisted, rfl⟩ := Option.map_eq_some_iff.mp h
  obtain ⟨-, rfl⟩ := List.getElem?_eq_some_iff.mp hlisted
  rw [kindsFrom, List.drop_eq_getElem_cons hi, List.map_cons, kindsFrom]

/-- One more line is the one at the place behind. -/
theorem Listing.take_kindsFrom_succ {l : Listing} {i n : Nat} {line : Line}
    (h : l.kind? (i + n) = some line) :
    (l.kindsFrom i).take (n + 1) = (l.kindsFrom i).take n ++ [line] := by
  have hget : (l.kindsFrom i)[n]? = some line := by
    rw [← h, kindsFrom, kind?, List.getElem?_map, List.getElem?_drop]
  rw [List.take_add_one, hget, Option.toList_some]

/-- How many blocks are open at a line, if the script stands there, as the lines from the next line
of the script on say. -/
def depthAt (s : Script) (i : Nat) : Nat :=
  depthAfter (s.levels.length - 1) ((s.listing.kindsFrom s.next).take (i - s.next))

/-- The second script has gone on in the same lines. It has the blocks that the lines in between
leave open, unless it stands behind the last line, and of the blocks that were open before, only
the innermost may have changed. -/
structure Tracks (s u : Script) : Prop where
  /-- It stands further on. -/
  next : s.next ≤ u.next
  /-- The outer blocks are the same. -/
  outer : s.levels.tail <:+ u.levels
  /-- The braces in between have opened and closed blocks. -/
  depth : u.next < s.listing.lines.length → u.levels.length = 1 + s.depthAt u.next

/-- The second script stands where the first does and in the same blocks. Only the chain of the
innermost block may be another. -/
structure Rechained (s t : Script) : Prop where
  /-- The lines are the same. -/
  listing : t.listing = s.listing
  /-- The next line is the same. -/
  next : t.next = s.next
  /-- As many blocks are open. -/
  length : t.levels.length = s.levels.length
  /-- The outer blocks are the same. -/
  outer : t.levels.tail = s.levels.tail

/-- What is steady may set its chain. -/
theorem Steady.rechained {s t : Script} (h : Steady s t) (hlevels : s.levels ≠ []) (c : Chain) :
    Rechained s (t.setChain c) where
  listing := h.listing
  next := h.next
  length := by
    have hpos := List.length_pos_iff.mpr hlevels
    simp only [setChain, h.levels, List.length_cons, List.length_tail]
    omega
  outer := by rw [setChain, List.tail_cons, h.levels]

namespace Rechained

variable {s t u : Script} (h : Rechained s t)

include h

/-- The depth is the same in a script that is steady. -/
theorem depthAt (i : Nat) : t.depthAt i = s.depthAt i := by
  simp only [Script.depthAt, h.listing, h.next, h.length]

/-- The place behind a body is the same in a script that is steady. -/
theorem skipBody_next (body : Body) : (t.skipBody body).next = (s.skipBody body).next := by
  cases body <;> simp only [skipBody, goTo, h.listing, h.next]

/-- What follows a script that is steady follows the script before. -/
theorem tracks (htracks : Tracks t u) : Tracks s u where
  next := h.next ▸ htracks.next
  outer := h.outer ▸ htracks.outer
  depth hnext := by
    rw [← h.depthAt]
    exact htracks.depth (h.listing ▸ hnext)

end Rechained

section Tracks

variable {s : Script} {line : Line} (hline : s.listing.kind? s.next = some line)

include hline

/-- The depth some lines behind the next one. -/
theorem depthAt_add (n : Nat) :
    s.depthAt (s.next + 1 + n) = depthAfter (((s.levels.length - 1 : Nat) : Int) + line.delta).toNat
      ((s.listing.kindsFrom (s.next + 1)).take n) := by
  have hcount : s.next + 1 + n - s.next = n + 1 := by omega
  rw [depthAt, hcount, Listing.kindsFrom_of_kind? hline, List.take_succ_cons, depthAfter_cons]

/-- The depth behind the next line is that of the levels with what the line changes. -/
theorem depthAt_succ :
    s.depthAt (s.next + 1) = (((s.levels.length - 1 : Nat) : Int) + line.delta).toNat := by
  simpa using depthAt_add hline 0

/-- A line that is done with changes the depth by its own braces. -/
theorem tracks_succ {u : Script} (hnext : u.next = s.next + 1) (houter : s.levels.tail <:+ u.levels)
    (hlength : (u.levels.length : Int) =
      1 + (((s.levels.length - 1 : Nat) : Int) + line.delta).toNat) :
    Tracks s u where
  next := by omega
  outer := houter
  depth _ := by
    rw [hnext, depthAt_succ hline]
    omega

/-- Up to the statement below a conditional that has its body there, nothing opens or closes. -/
theorem depthAt_below (htakes : line.takesNext = true) :
    s.depthAt (s.next + 1 + silentLength (s.listing.kindsFrom (s.next + 1))) =
      s.levels.length - 1 := by
  rw [depthAt_add hline, depthAfter_silent, Line.delta_of_takesNext htakes]
  omega

/-- The statement below opens what its own braces open. -/
theorem depthAt_below_succ (htakes : line.takesNext = true) {below : Line}
    (hbelow : s.listing.kind? (s.next + 1 + silentLength (s.listing.kindsFrom (s.next + 1))) =
      some below) :
    s.depthAt (s.next + 1 + silentLength (s.listing.kindsFrom (s.next + 1)) + 1) =
      (((s.levels.length - 1 : Nat) : Int) + below.delta).toNat := by
  rw [Nat.add_assoc, depthAt_add hline, Listing.take_kindsFrom_succ hbelow, depthAfter_append,
    depthAfter_silent, Line.delta_of_takesNext htakes, depthAfter_cons, depthAfter_nil]
  simp

/-- A body that is entered. -/
theorem tracks_approachBody {body : Body} (hbody : line.body? = some body)
    (hlevels : s.levels ≠ []) : Tracks s (s.approachBody body).1 := by
  have hpos := List.length_pos_iff.mpr hlevels
  have hdelta := Line.delta_of_body hbody
  have hopened : s.levels.tail <:+ s.openBlock.levels :=
    (List.tail_suffix _).trans (List.suffix_cons _ _)
  cases body with
  | inline raw | blockInline raw =>
    refine tracks_succ hline rfl (List.tail_suffix _) ?_
    simp only [approachBody, goTo, hdelta]
    simp
    omega
  | block =>
    refine tracks_succ hline rfl hopened ?_
    simp only [approachBody, goTo, openBlock, hdelta, List.length_cons]
    simp
    omega
  | next =>
    have htakes : line.takesNext = true := by simp [Line.takesNext, hbody]
    have hsilent := depthAt_below hline htakes
    have hstatement (below : Line) := @depthAt_below_succ s line hline htakes below
    have hfurther : s.next ≤ s.next + 1 + silentLength (s.listing.kindsFrom (s.next + 1)) := by
      omega
    simp only [approachBody]
    generalize s.next + 1 + silentLength (s.listing.kindsFrom (s.next + 1)) = i at *
    split
    · rename_i hkind
      refine ⟨Nat.le_succ_of_le hfurther, hopened, fun _ => ?_⟩
      simp only [goTo, openBlock, List.length_cons, hstatement _ hkind, Line.delta]
      omega
    · rename_i raw hkind
      have hflat : (Line.command raw).delta = 0 := rfl
      refine ⟨Nat.le_succ_of_le hfurther, List.tail_suffix _, fun _ => ?_⟩
      simp only [hstatement _ hkind, hflat]
      omega
    · refine ⟨hfurther, List.tail_suffix _, fun _ => ?_⟩
      simp only [goTo, hsilent]
      omega

/-- A body on the lines below that is passed over. The depth behind it is that of the block around
it, unless the body was missing: then the brace behind it has been passed over, too. -/
theorem depthAt_skipBody (htakes : line.takesNext = true) (hlevels : s.levels ≠ [])
    (hnext : (s.skipBody .next).next < s.listing.lines.length) :
    s.levels.length = 1 + s.depthAt (s.skipBody .next).next +
      if bodyMissing (s.listing.kindsFrom (s.next + 1)) && 1 < s.levels.length then 1 else 0 := by
  have hpos := List.length_pos_iff.mpr hlevels
  have hrest : statementLength (s.listing.kindsFrom (s.next + 1)) <
      (s.listing.kindsFrom (s.next + 1)).length := by
    rw [Listing.length_kindsFrom]
    simp only [skipBody, goTo] at hnext
    omega
  simp only [skipBody, goTo, depthAt_add hline, Line.delta_of_takesNext htakes,
    depthAfter_statementLength hrest]
  cases bodyMissing (s.listing.kindsFrom (s.next + 1)) with
  | false =>
    simp
    omega
  | true =>
    simp only [Bool.true_and, decide_eq_true_eq, if_true]
    split <;> omega

/-- A body that is passed over, unless it is a missing one whose place a brace has taken. -/
theorem tracks_skipBody {body : Body} (hbody : line.body? = some body) (hlevels : s.levels ≠ [])
    (hkeeps : body = .next → (s.skipBody .next).next < s.listing.lines.length →
      (bodyMissing (s.listing.kindsFrom (s.next + 1)) && 1 < s.levels.length) = false) :
    Tracks s (s.skipBody body) := by
  have hpos := List.length_pos_iff.mpr hlevels
  have hdelta := Line.delta_of_body hbody
  cases body with
  | inline raw | blockInline raw =>
    refine tracks_succ hline rfl (List.tail_suffix _) ?_
    simp only [skipBody, goTo, hdelta]
    simp
    omega
  | block =>
    have hkinds := Listing.kindsFrom_of_kind? hline
    refine ⟨?_, List.tail_suffix _, fun hnext => ?_⟩
    · simp only [skipBody, goTo]
      omega
    · have hlength := Listing.length_kindsFrom s.listing s.next
      simp only [skipBody, goTo] at hnext ⊢
      have hcount : s.next + blockLength 0 (s.listing.kindsFrom s.next) + 1 - s.next =
          blockLength 0 (s.listing.kindsFrom s.next) + 1 := by omega
      rw [depthAt, hcount]
      rw [hkinds] at hnext hlength ⊢
      rw [depthAfter_block (by simpa using hdelta) (by omega)]
      omega
  | next =>
    have htakes : line.takesNext = true := by simp [Line.takesNext, hbody]
    refine ⟨?_, List.tail_suffix _, fun hnext => ?_⟩
    · simp only [skipBody, goTo]
      omega
    · have hdepth := depthAt_skipBody hline htakes hlevels hnext
      rw [hkeeps rfl hnext] at hdepth
      simpa [skipBody, goTo] using hdepth

end Tracks

/-- Whether the next line is a conditional with its body on the line below, which is not taken, and
in the place of the body stands the brace that closes the block around it. The script passes over
that brace and goes on behind it. -/
def swallows (s : Script) : Bool :=
  s.status == .running &&
    match s.listing.kind? s.next with
    | some line =>
      line.takesNext && !s.takes line &&
        bodyMissing (s.listing.kindsFrom (s.next + 1)) && 1 < s.levels.length &&
        (s.skipBody .next).next < s.listing.lines.length
    | none => false

/-- A block that is closed leaves those around it; the outermost stays open. -/
theorem closeBlock_levels {s : Script} (h : s.levels ≠ []) :
    s.levels.tail <:+ s.closeBlock.levels ∧
      s.closeBlock.levels.length = 1 + (s.levels.length - 1 - 1) := by
  rcases hl : s.levels with _ | ⟨x, _ | ⟨y, l⟩⟩
  · exact absurd hl h
  · simp [closeBlock, hl]
  · simp [closeBlock, hl, Nat.add_comm]

section Approach

variable {s : Script} {line : Line} (hline : s.listing.kind? s.next = some line)

include hline

/-- A line that is no conditional opens and closes what its braces open and close. -/
theorem tracks_approachLine_plain (hplain : line.body? = none) (hlevels : s.levels ≠ []) :
    Tracks s (s.approachLine line).1 := by
  have hpos := List.length_pos_iff.mpr hlevels
  have hreset : (s.setChain .absent).levels.length = s.levels.length := by
    simp only [setChain, List.length_cons, List.length_tail]
    omega
  cases line with
  | ifLine _ _ | elseIfLine _ _ | elseLine _ => simp [Line.body?] at hplain
  | blank | comment =>
    refine tracks_succ hline rfl (List.tail_suffix _) ?_
    rw [Line.delta_of_isSilent rfl]
    simp only [approachLine, runLine, goTo]
    omega
  | label name =>
    have hflat : (Line.label name).delta = 0 := rfl
    refine tracks_succ hline rfl (List.suffix_cons _ _) ?_
    simp only [approachLine, runLine, goTo, hreset, hflat]
    omega
  | command raw =>
    have hflat : (Line.command raw).delta = 0 := rfl
    refine tracks_succ hline rfl (List.suffix_cons _ _) ?_
    simp only [approachLine, goTo, hreset, hflat]
    omega
  | blockStart =>
    refine tracks_succ hline rfl ((List.tail_suffix _).trans (List.suffix_cons _ _)) ?_
    simp only [approachLine, runLine, goTo, openBlock, List.length_cons, Line.delta]
    omega
  | blockEnd =>
    have hclosed := closeBlock_levels hlevels
    refine tracks_succ hline rfl hclosed.1 ?_
    simp only [approachLine, runLine, goTo, Line.delta, hclosed.2]
    omega

/-- A conditional opens and closes what its braces open and close, and so does its body if it is
passed over, unless it is a missing one whose place a brace has taken. -/
theorem tracks_approachLine_conditional {body : Body} (hbody : line.body? = some body)
    (hlevels : s.levels ≠ [])
    (hkeeps : s.takes line = false → body = .next →
      (s.skipBody .next).next < s.listing.lines.length →
      (bodyMissing (s.listing.kindsFrom (s.next + 1)) && 1 < s.levels.length) = false) :
    Tracks s (s.approachLine line).1 := by
  obtain ⟨t, hsteady, happroach⟩ := approachLine_conditional hbody hlevels
  have hsame := hsteady.rechained hlevels (s.chainAfter line)
  rw [happroach]
  generalize t.setChain (s.chainAfter line) = v at hsame
  have hopen : v.levels ≠ [] := by
    rw [← List.length_pos_iff, hsame.length]
    exact List.length_pos_iff.mpr hlevels
  have hkind : v.listing.kind? v.next = some line := by rwa [hsame.listing, hsame.next]
  refine hsame.tracks ?_
  cases htakes : s.takes line with
  | true => exact tracks_approachBody hkind hbody hopen
  | false =>
    refine tracks_skipBody hkind hbody hopen fun hbelow hnext => ?_
    rw [hsame.skipBody_next, hsame.listing] at hnext
    rw [hsame.listing, hsame.next, hsame.length]
    exact hkeeps htakes hbelow hnext

end Approach

/-- The next line, unless it swallows a brace. -/
theorem tracks_approach {s : Script} {line : Line} (hrunning : s.status = .running)
    (hline : s.listing.kind? s.next = some line) (hlevels : s.levels ≠ [])
    (hkeeps : s.swallows = false) : Tracks s s.approach.1 := by
  have hmoves : Tracks { s with current := s.next }
      ({ s with current := s.next }.approachLine line).1 := by
    cases hbody : line.body? with
    | none => exact tracks_approachLine_plain hline hbody hlevels
    | some body =>
      refine tracks_approachLine_conditional hline hbody hlevels fun htakes hbelow hnext => ?_
      have htakesNext : line.takesNext = true := by simp [Line.takesNext, hbody, hbelow]
      have hskip : (s.skipBody .next).next < s.listing.lines.length := hnext
      rw [takes_current] at htakes
      simpa [swallows, hrunning, hline, htakesNext, htakes, hskip] using hkeeps
  rw [approach, hline]
  exact ⟨hmoves.next, hmoves.outer, hmoves.depth⟩

/-- A line that swallows a brace leaves one block too many. -/
theorem length_of_swallows {s : Script} (h : s.swallows = true) :
    s.next ≤ s.approach.1.next ∧ s.approach.1.next < s.listing.lines.length ∧
      s.approach.1.levels.length = 2 + s.depthAt s.approach.1.next := by
  cases hline : s.listing.kind? s.next with
  | none => simp [swallows, hline] at h
  | some line =>
    simp only [swallows, hline, Bool.and_eq_true, Bool.not_eq_true', decide_eq_true_eq] at h
    obtain ⟨-, ⟨⟨⟨htakesNext, htakes⟩, hmissing⟩, hdeep⟩, hnext⟩ := h
    have hlevels : s.levels ≠ [] := List.ne_nil_of_length_pos (by omega)
    have hbody : line.body? = some .next := by simpa [Line.takesNext] using htakesNext
    obtain ⟨t, hsteady, happroach⟩ :=
      approachLine_conditional (s := { s with current := s.next }) hbody hlevels
    have hsame := hsteady.rechained hlevels ({ s with current := s.next }.chainAfter line)
    generalize t.setChain ({ s with current := s.next }.chainAfter line) = v at hsame happroach
    have hskipped : s.approach.1 = v.skipBody .next := by
      rw [approach, hline]
      simp only [happroach, takes_current, htakes]
      rfl
    have hplace : (v.skipBody .next).next = (s.skipBody .next).next := hsame.skipBody_next .next
    have hcount : (v.skipBody .next).levels.length = s.levels.length := hsame.length
    have hdepth := depthAt_skipBody hline htakesNext hlevels hnext
    simp only [hmissing, hdeep, decide_true, Bool.and_self, if_true] at hdepth
    have hfurther : s.next ≤ (s.skipBody .next).next := by
      simp only [skipBody, goTo]
      omega
    rw [hskipped, hplace, hcount]
    exact ⟨hfurther, hnext, by omega⟩

end Mudline.Script
