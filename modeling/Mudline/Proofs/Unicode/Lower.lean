import Mudline.Proofs.Text.Pieces
import Mudline.Unicode.Case
import Mathlib.Tactic.ByContra
import Mathlib.Tactic.SplitIfs

/-!
# Lower case is final

A text in lower case is its own lower case, and lower-casing brings in no ASCII character below the
letters. Both are facts about the table of lower-case mappings: no run of it is mapped into a run,
onto the one character with a longer lower case, or down to the ASCII punctuation.
-/

namespace Mudline.Unicode

namespace CaseRun

/-- The last code point of a run. -/
def last (r : CaseRun) : Nat :=
  r.first + (r.count - 1) * r.stride

/-- Whether the images of a run lie apart from another run, because they lie on one side of it or
because they take the places that it leaves out. -/
def misses (r q : CaseRun) : Bool :=
  Nat.blt (r.image r.last) q.first || Nat.blt q.last (r.image r.first) ||
    (Nat.beq q.stride 2 && (Nat.beq r.stride 2 || Nat.beq r.count 1) &&
      Nat.beq ((r.image r.first + q.first) % 2) 1)

/-- Whether the images of a run are code points of characters behind the ASCII punctuation before
the letters. -/
def staysAbove (r : CaseRun) : Bool :=
  Nat.blt 0x40 (r.image r.first) &&
    (Nat.blt (r.image r.last) 0xD800 ||
      (Nat.blt 0xDFFF (r.image r.first) && Nat.blt (r.image r.last) 0x110000))

/-- A code point of a run is some strides behind its first. -/
theorem eq_of_contains {r : CaseRun} {n : Nat} (h : r.contains n = true) :
    ∃ i < r.count, n = r.first + i * r.stride := by
  simp only [contains, Bool.and_eq_true, decide_eq_true_eq, beq_iff_eq] at h
  obtain ⟨⟨hfirst, hmod⟩, hcount⟩ := h
  refine ⟨_, hcount, ?_⟩
  have hdiv := Nat.div_add_mod (n - r.first) r.stride
  rw [hmod, Nat.mul_comm] at hdiv
  omega

/-- The images of a run are a run as well. -/
theorem image_eq {r : CaseRun} {n i : Nat} (hpositive : 0 < r.image r.first)
    (hn : n = r.first + i * r.stride) : r.image n = r.image r.first + i * r.stride := by
  unfold image at *
  generalize i * r.stride = k at hn ⊢
  omega

/-- The image of a code point is not behind that of the last. -/
theorem le_image_last {r : CaseRun} {i : Nat} (hpositive : 0 < r.image r.first) (hi : i < r.count) :
    r.image r.first + i * r.stride ≤ r.image r.last := by
  rw [image_eq hpositive (rfl : r.last = r.first + (r.count - 1) * r.stride)]
  exact Nat.add_le_add_left (Nat.mul_le_mul_right _ (by omega)) _

/-- A code point of a run is not behind the last. -/
theorem le_last {q : CaseRun} {j : Nat} (hj : j < q.count) : q.first + j * q.stride ≤ q.last :=
  Nat.add_le_add_left (Nat.mul_le_mul_right _ (by omega)) _

/-- No image is in a run that the images miss. -/
theorem not_contains_image {r q : CaseRun} {n : Nat} (hpositive : 0 < r.image r.first)
    (hmisses : r.misses q = true) (h : r.contains n = true) : q.contains (r.image n) = false := by
  obtain ⟨i, hi, hn⟩ := eq_of_contains h
  by_contra hq
  obtain ⟨j, hj, himage⟩ := eq_of_contains (by simpa using hq)
  rw [image_eq hpositive hn] at himage
  have hupper := le_image_last hpositive hi
  have hlast := le_last hj
  simp only [misses, Bool.or_eq_true, Bool.and_eq_true, Nat.blt_eq, Nat.beq_eq] at hmisses
  rcases hmisses with (hbelow | habove) | ⟨⟨hq, hr | hr⟩, hodd⟩
  · omega
  · omega
  · rw [hq, hr] at himage
    omega
  · obtain rfl : i = 0 := by omega
    rw [hq] at himage
    omega

end CaseRun

/-- The run of the one character whose lower case is two characters. -/
def dottedRun : CaseRun := ⟨0x130, 1, 1, 0⟩

/-- The images of all runs are apart from all runs. -/
theorem lowerRuns_apart :
    (lowerRuns.all fun r =>
      r.staysAbove && r.misses dottedRun && lowerRuns.all fun q => r.misses q) = true := by
  decide +kernel

/-- What lower-casing leaves as it is, wherever it stands. -/
structure Settled (c : Char) : Prop where
  /-- It is not the letter whose lower case depends on its neighbours. -/
  not_sigma : c ≠ 'Σ'
  /-- It is its own lower case. -/
  lower_eq : lowerChar c = [c]

/-- A character that no run of the table contains and that has no longer lower case. -/
theorem settled_of_free {c : Char} (hruns : ∀ q ∈ lowerRuns, q.contains c.toNat = false)
    (hdotted : c ≠ 'İ') : Settled c := by
  constructor
  · rintro rfl
    have hsigma : (lowerRuns.any fun q => q.contains 'Σ'.toNat) = true := by decide +kernel
    obtain ⟨q, hq, hcontains⟩ := List.any_eq_true.mp hsigma
    rw [hruns q hq] at hcontains
    exact Bool.false_ne_true hcontains
  · have hfind : lowerRuns.find? (·.contains c.toNat) = none :=
      List.find?_eq_none.mpr fun q hq => by simp [hruns q hq]
    -- The capital letters of ASCII are the first run of the table.
    have hcapital := hruns ⟨0x41, 26, 1, 32⟩ (.head _)
    have hlower : c.toLower = c := by
      refine (Text.toLower_cases c).resolve_right fun h => ?_
      simp only [CaseRun.contains, Nat.mod_one, Nat.div_one, beq_self_eq_true, Bool.and_true,
        Bool.and_eq_false_iff, decide_eq_false_iff_not] at hcapital
      omega
    simp [lowerChar, hdotted, shiftBy, hfind, hlower]

/-- A code point belongs to one character. -/
theorem toNat_ofNat_of_valid {n : Nat} (h : n.isValidChar) : (Char.ofNat n).toNat = n := by
  rw [Char.ofNat, dif_pos h]
  rfl

/-- The image of a character in a run. -/
theorem settled_image {r : CaseRun} {c : Char} (hr : r ∈ lowerRuns)
    (hc : r.contains c.toNat = true) :
    Settled (Char.ofNat (r.image c.toNat)) ∧ 0x40 < (Char.ofNat (r.image c.toNat)).toNat := by
  have hchecked := List.all_eq_true.mp lowerRuns_apart r hr
  simp only [Bool.and_eq_true] at hchecked
  obtain ⟨⟨habove, hdotted⟩, hruns⟩ := hchecked
  simp only [CaseRun.staysAbove, Bool.and_eq_true, Bool.or_eq_true, Nat.blt_eq] at habove
  have hpositive : 0 < r.image r.first := by omega
  obtain ⟨i, hi, hn⟩ := CaseRun.eq_of_contains hc
  have himage := CaseRun.image_eq hpositive hn
  have hupper := CaseRun.le_image_last hpositive hi
  have hnone : ∀ q ∈ lowerRuns, q.contains (r.image c.toNat) = false := by
    intro q hq
    exact CaseRun.not_contains_image hpositive (List.all_eq_true.mp hruns q hq) hc
  have hnotDotted := CaseRun.not_contains_image hpositive hdotted hc
  generalize r.image c.toNat = m at *
  have hvalid : m.isValidChar := by
    simp only [Nat.isValidChar]
    omega
  have htoNat : (Char.ofNat m).toNat = m := toNat_ofNat_of_valid hvalid
  refine ⟨settled_of_free (by rwa [htoNat]) ?_, by omega⟩
  intro hm
  rw [← htoNat, hm] at hnotDotted
  exact absurd hnotDotted (by decide)

/-- An ASCII character that is no capital letter. -/
theorem settled_of_ascii {c : Char} (hascii : isAscii c = true) (hlower : c.toLower = c) :
    Settled c := by
  constructor
  · rintro rfl
    exact absurd hascii (by decide)
  · rw [lowerChar, if_pos hascii, hlower]

/-- The lower case of an ASCII character is settled. -/
theorem settled_toLower {c : Char} (hascii : isAscii c = true) :
    Settled c.toLower ∧ (c.toLower = c ∨ 0x40 < c.toLower.toNat) := by
  rcases Text.toLower_cases c with hlower | ⟨hletter, hshift⟩
  · rw [hlower]
    exact ⟨settled_of_ascii hascii hlower, .inl rfl⟩
  · have himage : c.toLower = Char.ofNat ((⟨0x41, 26, 1, 32⟩ : CaseRun).image c.toNat) := by
      rw [← Char.ofNat_toNat c.toLower, hshift]
      rfl
    have hcontains : (⟨0x41, 26, 1, 32⟩ : CaseRun).contains c.toNat = true := by
      simp only [CaseRun.contains, Nat.mod_one, Nat.div_one, beq_self_eq_true, Bool.and_true,
        Bool.and_eq_true, decide_eq_true_eq]
      omega
    obtain ⟨hsettled, habove⟩ := settled_image (.head _) hcontains
    rw [himage]
    exact ⟨hsettled, .inr habove⟩

/-- Every character of the lower case of a character is settled, and is that character itself or
stands behind the ASCII punctuation before the letters. -/
theorem settled_of_mem_lowerChar {c d : Char} (hd : d ∈ lowerChar c) :
    Settled d ∧ (d = c ∨ 0x40 < d.toNat) := by
  unfold lowerChar at hd
  split_ifs at hd with hascii hdotted
  · obtain rfl := List.mem_singleton.mp hd
    exact settled_toLower hascii
  · have hletters : d = 'i' ∨ d = '\u0307' := by simpa using hd
    rcases hletters with rfl | rfl
    · exact ⟨settled_of_ascii (by decide) (by decide), .inr (by decide)⟩
    · have hnone : (lowerRuns.all fun q => !q.contains '\u0307'.toNat) = true := by decide +kernel
      refine ⟨settled_of_free (fun q hq => ?_) (by decide), .inr (by decide)⟩
      simpa using List.all_eq_true.mp hnone q hq
  · obtain rfl := List.mem_singleton.mp hd
    cases hfind : lowerRuns.find? (·.contains c.toNat) with
    | none =>
      have hruns : ∀ q ∈ lowerRuns, q.contains c.toNat = false := by
        intro q hq
        simpa using List.find?_eq_none.mp hfind q hq
      rw [shiftBy, hfind]
      exact ⟨settled_of_free hruns (by simpa using hdotted), .inl rfl⟩
    | some r =>
      have hcontains : r.contains c.toNat = true := by simpa using List.find?_some hfind
      obtain ⟨hsettled, habove⟩ := settled_image (List.mem_of_find?_eq_some hfind) hcontains
      rw [shiftBy, hfind]
      exact ⟨hsettled, .inr habove⟩

/-- The two forms of the small sigma. -/
theorem settled_sigma {c : Char} (hc : c = 'ς' ∨ c = 'σ') : Settled c := by
  have hnone : (lowerRuns.all fun q => !q.contains 'ς'.toNat && !q.contains 'σ'.toNat) = true := by
    decide +kernel
  have hruns (q : CaseRun) (hq : q ∈ lowerRuns) :
      q.contains 'ς'.toNat = false ∧ q.contains 'σ'.toNat = false := by
    simpa using List.all_eq_true.mp hnone q hq
  rcases hc with rfl | rfl
  · exact settled_of_free (fun q hq => (hruns q hq).1) (by decide)
  · exact settled_of_free (fun q hq => (hruns q hq).2) (by decide)

/-- Every character of a text in lower case is settled, and comes from the text or is behind the
ASCII punctuation. -/
theorem settled_of_mem_lowerAfter {before t : Text} {d : Char} (hd : d ∈ lowerAfter before t) :
    Settled d ∧ (d ∈ t ∨ 0x40 < d.toNat) := by
  induction t generalizing before with
  | nil => simp [lowerAfter] at hd
  | cons c rest ih =>
    rw [lowerAfter, List.mem_append] at hd
    rcases hd with hd | hd
    · split_ifs at hd with hsigma hfinal
      · obtain rfl := List.mem_singleton.mp hd
        exact ⟨settled_sigma (.inl rfl), .inr (by decide)⟩
      · obtain rfl := List.mem_singleton.mp hd
        exact ⟨settled_sigma (.inr rfl), .inr (by decide)⟩
      · obtain ⟨hsettled, rfl | habove⟩ := settled_of_mem_lowerChar hd
        · exact ⟨hsettled, .inl (by simp)⟩
        · exact ⟨hsettled, .inr habove⟩
    · obtain ⟨hsettled, hmem | habove⟩ := ih hd
      · exact ⟨hsettled, .inl (by simp [hmem])⟩
      · exact ⟨hsettled, .inr habove⟩

/-- A text of settled characters is its own lower case. -/
theorem lowerAfter_of_settled {t : Text} (ht : ∀ c ∈ t, Settled c) (before : Text) :
    lowerAfter before t = t := by
  induction t generalizing before with
  | nil => rfl
  | cons c rest ih =>
    have hc := ht c (by simp)
    have hrest := ih (fun d hd => ht d (by simp [hd])) (c :: before)
    simp [lowerAfter, hc.not_sigma, hc.lower_eq, hrest]

/-- A text in lower case is its own lower case. -/
theorem lower_lower (t : Text) : lower (lower t) = lower t :=
  lowerAfter_of_settled (fun _ hd => (settled_of_mem_lowerAfter hd).1) []

/-- Lower-casing brings in no character up to the ASCII punctuation before the letters. -/
theorem mem_of_mem_lower {t : Text} {d : Char} (hd : d ∈ lower t) (hbelow : d.toNat ≤ 0x40) :
    d ∈ t := by
  obtain ⟨-, hmem | habove⟩ := settled_of_mem_lowerAfter hd
  · exact hmem
  · omega

/-- The run of the replacement character alone. -/
def replacementRun : CaseRun := ⟨0xFFFD, 1, 1, 0⟩

/-- No image is the replacement character. -/
theorem lowerRuns_miss_replacement :
    (lowerRuns.all fun r => Nat.blt 0 (r.image r.first) && r.misses replacementRun) = true := by
  decide +kernel

/-- The replacement character has one code point. -/
theorem ofNat_ne_replacement {n : Nat} (h : n ≠ 0xFFFD) : Char.ofNat n ≠ '\uFFFD' := by
  intro hchar
  have hcode := congrArg Char.toNat hchar
  by_cases hvalid : n.isValidChar
  · rw [toNat_ofNat_of_valid hvalid] at hcode
    exact h hcode
  · rw [Char.ofNat, dif_neg hvalid] at hcode
    exact absurd hcode (by decide)

/-- Only the replacement character has it in its lower case. -/
theorem eq_of_replacement_mem_lowerChar {c : Char} (h : '\uFFFD' ∈ lowerChar c) : c = '\uFFFD' := by
  unfold lowerChar at h
  split_ifs at h with hascii
  · have hlower := List.mem_singleton.mp h
    rcases Text.toLower_cases c with hsame | ⟨hletter, hshift⟩
    · exact (hlower.trans hsame).symm
    · have hcode : ('\uFFFD').toNat = c.toNat + 32 := by rw [hlower, hshift]
      have hreplacement : ('\uFFFD').toNat = 0xFFFD := rfl
      omega
  · exact absurd h (by decide)
  · have hshift := List.mem_singleton.mp h
    cases hfind : lowerRuns.find? (·.contains c.toNat) with
    | none =>
      rw [shiftBy, hfind] at hshift
      exact hshift.symm
    | some r =>
      have himage : '\uFFFD' = Char.ofNat (r.image c.toNat) := by
        rwa [shiftBy, hfind] at hshift
      have hchecked := List.all_eq_true.mp lowerRuns_miss_replacement r
        (List.mem_of_find?_eq_some hfind)
      rw [Bool.and_eq_true, Nat.blt_eq] at hchecked
      have hmissed := CaseRun.not_contains_image hchecked.1 hchecked.2
        (by simpa using List.find?_some hfind)
      refine absurd himage.symm (ofNat_ne_replacement fun hcode => ?_)
      rw [hcode] at hmissed
      exact absurd hmissed (by decide)

/-- Lower-casing brings in no replacement character. -/
theorem replacement_mem_of_mem_lowerAfter {before t : Text} (h : '\uFFFD' ∈ lowerAfter before t) :
    '\uFFFD' ∈ t := by
  induction t generalizing before with
  | nil => simp [lowerAfter] at h
  | cons c rest ih =>
    rw [lowerAfter, List.mem_append] at h
    rcases h with h | h
    · split_ifs at h
      · exact absurd h (by decide)
      · exact absurd h (by decide)
      · rw [eq_of_replacement_mem_lowerChar h]
        exact List.mem_cons_self
    · exact List.mem_cons_of_mem c (ih h)

end Mudline.Unicode
