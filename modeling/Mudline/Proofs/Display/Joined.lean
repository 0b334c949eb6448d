import Mathlib.Data.List.SplitBy
import Mudline.Display.Run

/-!
# Joined runs

Joining the neighbours of one style brings runs into a normal form: one run for each stretch of
neighbours that are equal in all but their texts. No character and no style changes, and it makes no
difference whether runs are joined all at once or batch by batch.
-/

namespace Mudline.Display

/-- The characters of runs, each with the style that it is shown in. -/
def cells (runs : List Run) : List (Char × Style) :=
  runs.flatMap fun r => r.text.map (·, r.style)

/-- Nothing has no cells. -/
@[simp] theorem cells_nil : cells [] = [] := rfl

/-- Each character of a run is a cell with the style of the run. -/
@[simp] theorem cells_cons (r : Run) (runs : List Run) :
    cells (r :: runs) = r.text.map (·, r.style) ++ cells runs := rfl

/-- The cells of several runs come one after another. -/
@[simp] theorem cells_append (runs more : List Run) :
    cells (runs ++ more) = cells runs ++ cells more :=
  List.flatMap_append

/-- Runs of one style can be joined. -/
theorem Run.joins_iff {a b : Run} : a.joins b = true ↔ a.style = b.style := by
  rw [joins, beq_iff_eq]

/-- Attaching a run adds its cells in front. -/
theorem cells_attach (a : Run) (runs : List Run) : cells (a.attach runs) = cells (a :: runs) := by
  cases runs with
  | nil => rfl
  | cons b rest =>
    rw [Run.attach]
    split
    · rename_i hjoins
      simp [Run.joins_iff.mp hjoins]
    · rfl

/-- Runs are combined from the last one on. -/
theorem combine_cons (a : Run) (runs : List Run) :
    combine (a :: runs) = a.attach (combine runs) := rfl

/-- Joining runs changes no character and no style. -/
@[simp] theorem cells_combine (runs : List Run) : cells (combine runs) = cells runs := by
  induction runs with
  | nil => rfl
  | cons a runs ih =>
    rw [combine_cons, cells_attach, cells_cons, cells_cons, ih]

/-- Joined runs are in the styles of the runs that were joined. -/
theorem forall_style_combine {p : Style → Prop} {runs : List Run} (h : ∀ r ∈ runs, p r.style) :
    ∀ r ∈ combine runs, p r.style := by
  induction runs with
  | nil => exact h
  | cons a runs ih =>
    rw [List.forall_mem_cons] at h
    have hrest := ih h.2
    rw [combine_cons]
    rcases hruns : combine runs with _ | ⟨b, rest⟩
    · simpa [Run.attach] using h.1
    · rw [hruns, List.forall_mem_cons] at hrest
      rw [Run.attach]
      split
      · exact List.forall_mem_cons.mpr ⟨hrest.1, hrest.2⟩
      · exact List.forall_mem_cons.mpr ⟨h.1, List.forall_mem_cons.mpr hrest⟩

/-- Combining does not take the last run away. -/
theorem combine_ne_nil {runs : List Run} (h : runs ≠ []) : combine runs ≠ [] := by
  obtain ⟨a, rest, rfl⟩ := List.exists_cons_of_ne_nil h
  rw [combine_cons]
  rcases combine rest with _ | ⟨b, more⟩
  · simp [Run.attach]
  · rw [Run.attach]
    split <;> exact List.cons_ne_nil _ _

/-- No two neighbours are left that could be joined. -/
theorem isChain_combine (runs : List Run) :
    (combine runs).IsChain fun a b => a.joins b = false := by
  induction runs with
  | nil => exact .nil
  | cons a runs ih =>
    rw [combine_cons]
    rcases hrest : combine runs with _ | ⟨b, rest⟩
    · exact .singleton a
    · rw [hrest] at ih
      rw [Run.attach]
      split
      · cases rest with
        | nil => exact .singleton _
        | cons c rest =>
          rw [List.isChain_cons_cons] at ih ⊢
          exact ih
      · rename_i hapart
        exact .cons_cons (by simpa using hapart) ih

/-- A run that none can be joined to stays by itself at the end. -/
theorem combine_concat {runs : List Run} {last : Run} (h : ∀ r ∈ runs, r.joins last = false) :
    combine (runs ++ [last]) = combine runs ++ [last] := by
  induction runs with
  | nil => rfl
  | cons a runs ih =>
    rw [List.forall_mem_cons] at h
    rw [List.cons_append, combine_cons, combine_cons, ih h.2]
    rcases combine runs with _ | ⟨b, rest⟩
    · simp [Run.attach, h.1]
    · rw [List.cons_append, Run.attach, Run.attach]
      split <;> rfl

/-- Runs of which no two neighbours can be joined stay as they are. -/
theorem combine_of_isChain {runs : List Run} (h : runs.IsChain fun a b => a.joins b = false) :
    combine runs = runs := by
  induction h with
  | nil => rfl
  | singleton a => rfl
  | cons_cons hapart _ ih => rw [combine_cons, ih, Run.attach, if_neg (by simp [hapart])]

/-- What is combined stays as it is when it is combined again. -/
theorem combine_combine (runs : List Run) : combine (combine runs) = combine runs :=
  combine_of_isChain (isChain_combine runs)

/-- A run can be joined to its neighbour before or after the neighbour is joined to the rest. -/
theorem attach_attach {a b : Run} (h : a.joins b = true) (runs : List Run) :
    a.attach (b.attach runs) = Run.attach { b with text := a.text ++ b.text } runs := by
  rw [Run.joins_iff] at h
  cases runs with
  | nil => simp [Run.attach, Run.joins_iff, h]
  | cons c rest =>
    by_cases hjoins : b.style = c.style
    · simp [Run.attach, Run.joins_iff, h, hjoins]
    · simp [Run.attach, Run.joins_iff, h, hjoins]

/-- A run that is attached may be joined with what follows before or after that is combined. -/
theorem combine_attach_append (a : Run) (runs more : List Run) :
    combine (a.attach runs ++ more) = a.attach (combine (runs ++ more)) := by
  cases runs with
  | nil => rfl
  | cons b rest =>
    rw [Run.attach]
    split
    · rename_i hjoins
      rw [List.cons_append, List.cons_append, combine_cons, combine_cons, attach_attach hjoins]
    · rfl

/-- What comes first can be joined by itself. -/
theorem combine_combine_append (runs more : List Run) :
    combine (combine runs ++ more) = combine (runs ++ more) := by
  induction runs with
  | nil => rfl
  | cons a runs ih =>
    rw [combine_cons, combine_attach_append, ih, List.cons_append, combine_cons]

/-- What comes last can be joined by itself. -/
theorem combine_append_combine (runs more : List Run) :
    combine (runs ++ combine more) = combine (runs ++ more) := by
  induction runs with
  | nil => exact combine_combine more
  | cons a runs ih => rw [List.cons_append, combine_cons, ih, List.cons_append, combine_cons]

/-- That two runs are equal in all but their texts. -/
def Run.AgreesButText (a b : Run) : Prop :=
  b = { a with text := b.text }

/-- Runs agree in all but their texts if they have one style. -/
theorem Run.agreesButText_iff {a b : Run} : a.AgreesButText b ↔ a.style = b.style := by
  rw [AgreesButText, Run.mk.injEq]
  exact ⟨fun h => h.2.symm, fun h => ⟨rfl, h.symm⟩⟩

/-- Runs are joined if they agree in all but their texts. -/
theorem Run.joins_iff_agreesButText {a b : Run} : a.joins b = true ↔ a.AgreesButText b := by
  rw [joins_iff, agreesButText_iff]

/-- Agreement in all but the text is an equivalence. -/
theorem Run.agreesButText_equivalence : Equivalence Run.AgreesButText where
  refl _ := rfl
  symm h := agreesButText_iff.mpr (agreesButText_iff.mp h).symm
  trans h h' := agreesButText_iff.mpr ((agreesButText_iff.mp h).trans (agreesButText_iff.mp h'))

instance : Std.Symm Run.AgreesButText :=
  ⟨fun _ _ => Run.agreesButText_equivalence.symm⟩

instance : Trans Run.AgreesButText Run.AgreesButText Run.AgreesButText :=
  ⟨Run.agreesButText_equivalence.trans⟩

/-- Runs are cut into stretches, each as long as can be, of neighbours that are equal in all but
their texts. -/
structure Stretches (runs : List Run) (stretches : List (List Run)) : Prop where
  /-- In order, they are all the runs. -/
  whole : runs = stretches.flatten
  /-- None of them is empty. -/
  filled : [] ∉ stretches
  /-- The runs of a stretch are equal in all but their texts. -/
  alike : ∀ s ∈ stretches, ∀ a ∈ s, ∀ b ∈ s, a.AgreesButText b
  /-- The runs of neighbouring stretches are not. -/
  apart : stretches.IsChain fun s s' => ∀ a ∈ s, ∀ b ∈ s', ¬a.AgreesButText b

/-- A list is one stretch as soon as each two neighbours can be joined. -/
theorem isChain_joins_iff {s : List Run} :
    (s.IsChain fun a b => a.joins b = true) ↔ ∀ a ∈ s, ∀ b ∈ s, a.AgreesButText b := by
  simp only [Run.joins_iff_agreesButText]
  constructor
  · intro h
    exact h.pairwise.forall_of_forall fun _ _ => Run.agreesButText_equivalence.refl _
  · intro h
    exact (List.pairwise_of_forall_mem_list h).isChain

/-- There is one way to cut runs into stretches. -/
theorem stretches_iff {runs : List Run} {stretches : List (List Run)} :
    Stretches runs stretches ↔ runs.splitBy Run.joins = stretches := by
  rw [List.splitBy_eq_iff]
  constructor
  · intro h
    refine ⟨h.whole, h.filled, fun s hs => isChain_joins_iff.mpr (h.alike s hs), ?_⟩
    refine h.apart.imp_of_mem_imp fun s s' hs hs' hapart => ?_
    have hne : s ≠ [] := ne_of_mem_of_not_mem hs h.filled
    have hne' : s' ≠ [] := ne_of_mem_of_not_mem hs' h.filled
    refine ⟨hne, hne', ?_⟩
    rw [← Bool.not_eq_true, Run.joins_iff_agreesButText]
    exact hapart _ (List.getLast_mem hne) _ (List.head_mem hne')
  · rintro ⟨hwhole, hfilled, hchain, hapart⟩
    have halike : ∀ s ∈ stretches, ∀ a ∈ s, ∀ b ∈ s, a.AgreesButText b :=
      fun s hs => isChain_joins_iff.mp (hchain s hs)
    refine ⟨hwhole, hfilled, halike, hapart.imp_of_mem_imp fun s s' hs hs' hends => ?_⟩
    obtain ⟨hne, hne', hends⟩ := hends
    -- If any two runs agreed, the two at the border would.
    intro a ha b hb hagrees
    have hlast := halike s hs _ (List.getLast_mem hne) a ha
    have hhead := halike s' hs' b hb _ (List.head_mem hne')
    have hborder := Run.agreesButText_equivalence.trans
      (Run.agreesButText_equivalence.trans hlast hagrees) hhead
    rw [Run.joins_iff_agreesButText.mpr hborder] at hends
    cases hends

/-- That a run is made of a whole stretch: it has all the text, and is equal to each run of the
stretch in all else. -/
structure Run.IsJoinOf (r : Run) (stretch : List Run) : Prop where
  /-- The texts stand one after the other. -/
  text : r.text = stretch.flatMap Run.text
  /-- All else is that of each run of the stretch. -/
  agrees : ∀ a ∈ stretch, a.AgreesButText r

/-- A stretch becomes one run. -/
theorem combine_stretch {s : List Run} (hne : s ≠ [])
    (halike : ∀ a ∈ s, ∀ b ∈ s, a.AgreesButText b) : ∃ r, combine s = [r] ∧ r.IsJoinOf s := by
  induction s with
  | nil => exact absurd rfl hne
  | cons a rest ih =>
    have hself := Run.agreesButText_equivalence.refl a
    by_cases hrest : rest = []
    · subst hrest
      exact ⟨a, rfl, by simp, by simpa using hself⟩
    · obtain ⟨r, hr, htext, hagrees⟩ := ih hrest fun b hb c hc =>
        halike b (List.mem_cons_of_mem a hb) c (List.mem_cons_of_mem a hc)
      obtain ⟨b, hb⟩ := List.exists_mem_of_ne_nil rest hrest
      have har : a.AgreesButText r := Run.agreesButText_equivalence.trans
        (halike a List.mem_cons_self b (List.mem_cons_of_mem a hb)) (hagrees b hb)
      refine ⟨{ r with text := a.text ++ r.text }, ?_, ?_, ?_⟩
      · rw [combine_cons, hr, Run.attach, if_pos (Run.joins_iff_agreesButText.mpr har)]
      · rw [htext, List.flatMap_cons]
      · intro c hc
        have hcr : c.AgreesButText r := by
          rcases List.mem_cons.mp hc with rfl | hc
          · exact har
          · exact hagrees c hc
        have hstyle : c.style = r.style := Run.agreesButText_iff.mp hcr
        exact Run.agreesButText_iff.mpr hstyle

/-- Each stretch becomes one run. -/
theorem Stretches.forall₂_combine {runs : List Run} {stretches : List (List Run)}
    (h : Stretches runs stretches) :
    List.Forall₂ Run.IsJoinOf (combine runs) stretches := by
  obtain ⟨rfl, hfilled, halike, hapart⟩ := h
  induction stretches with
  | nil => exact .nil
  | cons s rest ih =>
    rw [List.mem_cons, not_or] at hfilled
    rw [List.forall_mem_cons] at halike
    have hne : s ≠ [] := fun hnil => hfilled.1 hnil.symm
    obtain ⟨r, hr, hjoin⟩ := combine_stretch hne halike.1
    have hrest := ih hfilled.2 halike.2 hapart.tail
    have hcombine : combine (s ++ rest.flatten) = r.attach (combine rest.flatten) := by
      rw [← combine_combine_append, hr]
      rfl
    rw [List.flatten_cons, hcombine]
    cases rest with
    | nil => exact .cons hjoin .nil
    | cons s' rest =>
      obtain ⟨r', joined, hjoin', hjoined, hfound⟩ := List.forall₂_cons_right_iff.mp hrest
      have happart : ¬r.joins r' = true := by
        have hne' : s' ≠ [] := fun hnil => hfilled.2 (hnil ▸ List.mem_cons_self)
        obtain ⟨a, ha⟩ := List.exists_mem_of_ne_nil s hne
        obtain ⟨b, hb⟩ := List.exists_mem_of_ne_nil s' hne'
        rw [Run.joins_iff_agreesButText]
        intro hagrees
        have hborder := Run.agreesButText_equivalence.trans
          (Run.agreesButText_equivalence.trans (hjoin.agrees a ha) hagrees)
          (Run.agreesButText_equivalence.symm (hjoin'.agrees b hb))
        exact (List.isChain_cons_cons.mp hapart).1 a ha b hb hborder
      rw [hfound, Run.attach, if_neg happart]
      exact .cons hjoin (.cons hjoin' hjoined)

/-- Joining runs is a normal form. Runs are cut into stretches in one way, and each stretch becomes
one run, in order; so no two neighbours are left that could be joined. The characters and their
styles stay, joined runs stay as they are, and it makes no difference whether the runs are joined
all at once or what comes first and what comes later by themselves. -/
theorem combine_normal_form (runs : List Run) :
    (∃! stretches, Stretches runs stretches) ∧
      (∀ stretches, Stretches runs stretches →
        List.Forall₂ Run.IsJoinOf (combine runs) stretches) ∧
      (combine runs).IsChain (fun a b => a.joins b = false) ∧
      cells (combine runs) = cells runs ∧
      combine (combine runs) = combine runs ∧
      ∀ more, combine (runs ++ more) = combine (combine runs ++ combine more) := by
  refine ⟨⟨_, stretches_iff.mpr rfl, fun _ h => (stretches_iff.mp h).symm⟩,
    fun _ => Stretches.forall₂_combine, isChain_combine runs, cells_combine runs,
    combine_combine runs, fun more => ?_⟩
  rw [combine_combine_append, combine_append_combine]

/-- A run without text keeps the runs around it apart when its style is another. -/
example : combine [⟨"a", {}⟩, ⟨"", { bold := true }⟩, ⟨"b", {}⟩, ⟨"", {}⟩, ⟨"c", {}⟩] =
    [⟨"a", {}⟩, ⟨"", { bold := true }⟩, ⟨"bc", {}⟩] := by decide

end Mudline.Display
