import Mathlib.Data.List.Forall2
import Mathlib.Order.Bounds.Basic
import Mudline.Proofs.Script.Fault
import Mudline.Proofs.Script.Matching
import Mudline.Proofs.Text.Pieces

/-!
# Where the lines of a listing come from

When a script is loaded, other scripts are put in the place of the lines that include them, lines
are left out and lines are cut in two, so no index of the listing is the number of a line any more.
This file says what is kept: the places of the sources that contribute, their order, and for each
line of the listing the line that it was read from.
-/

namespace Mudline

namespace Script

/-- A line includes a script: it has the word `include`, whatever the case of its letters, and then
the name of the script, with blanks around it. -/
inductive Includes : Text → Text → Prop
  | line {lead word gap target trail : Text} (hlead : ∀ c ∈ lead, Text.isBlank c = true)
      (hword : Text.sameWord word "include" = true) (hgap : ∀ c ∈ gap, Text.isBlank c = true)
      (hapart : gap ≠ []) (htarget : target ≠ []) (htrimmed : Text.trim target = target)
      (htrail : ∀ c ∈ trail, Text.isBlank c = true) :
      Includes (lead ++ (word ++ (gap ++ (target ++ trail)))) target

/-- A line that includes a source is read as one that does. -/
theorem includeTarget?_of_includes {line target : Text} (h : Includes line target) :
    includeTarget? line = some target := by
  obtain ⟨hlead, hword, hgap, hapart, htarget, htrimmed, htrail⟩ := h
  rename_i lead word gap trail
  have hletters : ∀ c ∈ word, Text.isBlank c = false :=
    Text.not_isBlank_of_sameWord hword (Text.forall_mem_of_all (by decide))
  have hne : word ≠ [] := by
    rintro rfl
    exact absurd hword (by decide)
  have hblank : Text.StartsBlank (gap ++ (target ++ trail)) := by
    intro c hc
    rw [List.head?_append_of_ne_nil _ hapart] at hc
    exact hgap c (List.mem_of_head? hc)
  have hsplit : Text.splitWord (lead ++ (word ++ (gap ++ (target ++ trail)))) =
      (word, Text.trimStart (target ++ trail)) := by
    rw [Text.splitWord_blanks_append hlead, Text.splitWord_append hne hletters hblank,
      Text.trimStart_blanks_append hgap]
  have hrest : Text.trim (Text.trimStart (target ++ trail)) = target := by
    rw [Text.trim_trimStart, Text.trim_append_blanks htrail, htrimmed]
  simp only [includeTarget?, hsplit, hrest, hword]
  simp [htarget]

/-- A line that is read as including a source includes it. -/
theorem includes_of_includeTarget? {line target : Text} (h : includeTarget? line = some target) :
    Includes line target := by
  obtain ⟨lead, hlead, hline⟩ := Text.exists_blanks_trimStart line
  let start := Text.trimStart line
  let word := start.takeWhile (!Text.isBlank ·)
  let after := start.dropWhile (!Text.isBlank ·)
  obtain ⟨gap, hgap, hafter⟩ := Text.exists_blanks_trimStart after
  obtain ⟨trail, htrail, hrest⟩ := Text.exists_trimEnd_blanks (Text.trimStart after)
  obtain ⟨⟨hword, hne⟩, htarget⟩ : (Text.sameWord word "include" = true ∧
      Text.trim (Text.trimStart after) ≠ []) ∧ Text.trim (Text.trimStart after) = target := by
    simpa [includeTarget?, Text.splitWord, start, word, after] using h
  have hend : Text.trimEnd (Text.trimStart after) = target := by
    rw [← htarget, Text.trim_trimStart, Text.trim]
  have hapart : gap ≠ [] := by
    rintro rfl
    have hstay : Text.trimStart after = after := hafter.symm
    have hfirst := List.head?_dropWhile_not (!Text.isBlank ·) start
    cases hhead : after.head? with
    | none =>
      obtain hnil : after = [] := List.head?_eq_none_iff.mp hhead
      rw [hnil] at hne
      exact hne rfl
    | some c =>
      have hletter := Text.trimStart_eq_self_iff.mp hstay c hhead
      have hblank : Text.isBlank c = true := by simpa [after, hhead] using hfirst
      rw [hletter] at hblank
      cases hblank
  have hwhole : line = lead ++ (word ++ (gap ++ (target ++ trail))) :=
    calc line = lead ++ start := hline
      _ = lead ++ (word ++ after) := by rw [List.takeWhile_append_dropWhile]
      _ = lead ++ (word ++ (gap ++ (target ++ trail))) := by rw [← hend, ← hrest, ← hafter]
  rw [hwhole]
  exact .line hlead hword hgap hapart (htarget ▸ hne) (by rw [← htarget, Text.trim_trim]) htrail

/-- A line is taken for one that includes a script exactly if it is one. -/
theorem includeTarget?_eq_some_iff {line target : Text} :
    includeTarget? line = some target ↔ Includes line target :=
  ⟨includes_of_includeTarget?, includeTarget?_of_includes⟩

/-- Any other line includes nothing. -/
theorem includeTarget?_eq_none_iff {line : Text} :
    includeTarget? line = none ↔ ∀ target, ¬Includes line target := by
  simp only [Option.eq_none_iff_forall_ne_some, ne_eq, includeTarget?_eq_some_iff]

/-- A line goes on behind a closing brace at its start. -/
inductive GoesOn : Text → Text → Prop
  | line {lead rest : Text} (hlead : ∀ c ∈ lead, Text.isBlank c = true)
      (hrest : Text.trim rest ≠ []) : GoesOn (lead ++ '\x7d' :: rest) (Text.trim rest)

/-- A line is split behind its first brace if it goes on there. -/
theorem splitClosing?_eq_some_iff {line closing rest : Text} :
    splitClosing? line = some (closing, rest) ↔ closing = "\x7d" ∧ GoesOn line rest := by
  constructor
  · intro h
    obtain ⟨lead, hlead, hline⟩ := Text.exists_blanks_trimStart line
    rw [splitClosing?] at h
    split at h
    · rename_i tail hstart
      split at h
      · cases h
      · rename_i hrest
        obtain ⟨rfl, rfl⟩ := Prod.mk.inj (Option.some.inj h)
        rw [hline, hstart]
        exact ⟨rfl, .line hlead (by simpa using hrest)⟩
    · cases h
  · rintro ⟨rfl, hlead, hrest⟩
    rename_i lead tail
    have hbrace : Text.trimStart ('\x7d' :: tail) = '\x7d' :: tail := rfl
    have hmore : (Text.trim tail).isEmpty = false := by simpa using hrest
    simp only [splitClosing?, Text.trimStart_blanks_append hlead, hbrace, hmore]
    rfl

/-- Any other line is not split. -/
theorem splitClosing?_eq_none_iff {line : Text} :
    splitClosing? line = none ↔ ∀ rest, ¬GoesOn line rest := by
  rw [Option.eq_none_iff_forall_ne_some]
  simp only [Prod.forall, ne_eq, splitClosing?_eq_some_iff, not_and]
  exact ⟨fun h rest => h _ rest rfl, fun h closing rest _ => h rest⟩

/-- What a line stands as in a listing: it is left as it is, or, if it goes on behind a closing
brace, the brace and what follows it are lines of their own. -/
inductive StandsAs (line : SourceLine) : List SourceLine → Prop
  | whole (h : ∀ rest, ¬GoesOn line.text rest) : StandsAs line [line]
  | cut {rest : Text} (h : GoesOn line.text rest) :
      StandsAs line [{ line with text := "\x7d" }, { line with text := rest }]

/-- What a line stands as is what it is split into. -/
theorem standsAs_iff {line : SourceLine} {part : List SourceLine} :
    StandsAs line part ↔ part = line.split := by
  cases hparts : splitClosing? line.text with
  | none =>
    have hwhole := splitClosing?_eq_none_iff.mp hparts
    rw [SourceLine.split, hparts]
    refine ⟨?_, fun h => h ▸ .whole hwhole⟩
    rintro (_ | hrest)
    · rfl
    · exact absurd hrest (hwhole _)
  | some parts =>
    obtain ⟨closing, rest⟩ := parts
    obtain ⟨rfl, hrest⟩ := splitClosing?_eq_some_iff.mp hparts
    rw [SourceLine.split, hparts]
    refine ⟨?_, fun h => h ▸ .cut hrest⟩
    rintro (hwhole | hother)
    · exact absurd hrest (hwhole _)
    · rw [splitClosing?_eq_some_iff.mpr ⟨rfl, hother⟩] at hparts
      cases hparts
      rfl

/-- Where a line of a listing comes from: it is a line of the script itself, or one of the script
that is included there. -/
structure Place where
  /-- The number of the line of the script itself. -/
  row : Nat
  /-- The number of the line in the included script, or 0 for the line of the script itself. -/
  inner : Nat
  deriving DecidableEq, Repr

/-- One place comes before another. -/
def Place.Before (p q : Place) : Prop :=
  p.row < q.row ∨ p.row = q.row ∧ p.inner < q.inner

/-- What the places of a script with the given lines contribute to its listing. -/
inductive Contributes (library : Library) (name : Text) (source : List Text) :
    Place → SourceLine → Prop
  /-- A line that includes no script contributes itself. -/
  | own {i : Nat} {text : Text} (hline : source[i]? = some text)
      (hplain : ∀ target, ¬Includes text target) :
      Contributes library name source ⟨i + 1, 0⟩ ⟨text, name, i + 1⟩
  /-- A line that includes another script contributes all lines of it that include none. -/
  | included {i j : Nat} {text target inner : Text} {lines : List Text}
      (hline : source[i]? = some text) (hincludes : Includes text target) (hother : target ≠ name)
      (hlines : library target = some lines) (hinner : lines[j]? = some inner)
      (hplain : ∀ next, ¬Includes inner next) :
      Contributes library name source ⟨i + 1, j + 1⟩ ⟨inner, target, j + 1⟩

/-- The places that contribute to a listing, each with its line, from the first to the last. -/
def origins (library : Library) (name : Text) (source : List Text) : List (Place × SourceLine) :=
  (numbered name source).flatMap fun line =>
    (contributed library name line).map fun inner =>
      (⟨line.number, if (includeTarget? line.text).isSome then inner.number else 0⟩, inner)

section Places

variable {library : Library} {name file target : Text} {source lines : List Text}
  {line : SourceLine}

/-- The lines of a file are numbered from one on. -/
theorem mem_numbered_iff :
    line ∈ numbered file lines ↔ ∃ i text, lines[i]? = some text ∧ line = ⟨text, file, i + 1⟩ := by
  simp only [numbered, List.mem_map, Prod.exists, List.mk_mem_zipIdx_iff_getElem?]
  exact ⟨fun ⟨text, i, hline, heq⟩ => ⟨i, text, hline, heq.symm⟩,
    fun ⟨i, text, hline, heq⟩ => ⟨text, i, hline, heq.symm⟩⟩

/-- Numbering leaves the texts as they are. -/
theorem map_text_numbered (file : Text) (lines : List Text) :
    (numbered file lines).map (·.text) = lines := by
  simp [numbered, Function.comp_def]

/-- The numbers of the lines of a file increase. -/
theorem pairwise_numbered (file : Text) (lines : List Text) :
    (numbered file lines).Pairwise fun a b => a.number < b.number := by
  have hindices : lines.zipIdx.Pairwise fun p q => p.2 < q.2 := by
    rw [← List.pairwise_map (f := Prod.snd) (R := (· < ·)), List.zipIdx_map_snd]
    exact List.pairwise_lt_range'
  rw [numbered, List.pairwise_map]
  exact hindices.imp fun h => Nat.succ_lt_succ h

/-- Of a file that is included, those lines count that include nothing. -/
theorem mem_included_iff :
    line ∈ included file lines ↔ line ∈ numbered file lines ∧ ∀ next, ¬Includes line.text next := by
  rw [included, List.mem_filter, Option.isNone_iff_eq_none, includeTarget?_eq_none_iff]

/-- A line that includes nothing contributes itself. -/
theorem contributed_of_plain (h : ∀ target, ¬Includes line.text target) :
    contributed library name line = [line] := by
  rw [contributed, includeTarget?_eq_none_iff.mpr h]

/-- The lines that a line contributes that includes a script. -/
theorem contributed_of_includes (h : Includes line.text target) :
    contributed library name line =
      if target = name then [] else included target ((library target).getD []) := by
  rw [contributed, includeTarget?_eq_some_iff.mpr h]
  simp only [beq_iff_eq]
  cases library target <;> rfl

/-- The origins are the places from which a source contributes lines. -/
theorem mem_origins_iff {place : Place} :
    (place, line) ∈ origins library name source ↔ Contributes library name source place line := by
  simp only [origins, List.mem_flatMap, List.mem_map, Prod.mk.injEq]
  constructor
  · rintro ⟨outer, houter, inner, hinner, rfl, rfl⟩
    obtain ⟨i, text, hline, rfl⟩ := mem_numbered_iff.mp houter
    cases htarget : includeTarget? text with
    | none =>
      have hplain := includeTarget?_eq_none_iff.mp htarget
      rw [contributed_of_plain hplain, List.mem_singleton] at hinner
      subst hinner
      exact .own hline hplain
    | some target =>
      have hincludes := includeTarget?_eq_some_iff.mp htarget
      rw [contributed_of_includes hincludes] at hinner
      split at hinner
      · cases hinner
      · rename_i hother
        obtain ⟨hnumbered, hplain⟩ := mem_included_iff.mp hinner
        obtain ⟨j, text', hline', rfl⟩ := mem_numbered_iff.mp hnumbered
        cases hlines : library target with
        | none => simp [hlines] at hline'
        | some lines =>
          rw [hlines] at hline'
          exact .included hline hincludes hother hlines hline' hplain
  · rintro (⟨hline, hplain⟩ | ⟨hline, hincludes, hother, hlines, hinner, hplain⟩)
    · rename_i i text
      refine ⟨_, mem_numbered_iff.mpr ⟨i, text, hline, rfl⟩, _, ?_, ?_, rfl⟩
      · rw [contributed_of_plain hplain]
        exact List.mem_singleton_self _
      · rw [includeTarget?_eq_none_iff.mpr hplain]
        rfl
    · rename_i i j text target inner lines
      refine ⟨_, mem_numbered_iff.mpr ⟨i, text, hline, rfl⟩, _, ?_, ?_, rfl⟩
      · rw [contributed_of_includes hincludes, if_neg hother, hlines]
        exact mem_included_iff.mpr ⟨mem_numbered_iff.mpr ⟨j, inner, hinner, rfl⟩, hplain⟩
      · rw [includeTarget?_eq_some_iff.mpr hincludes]
        rfl

/-- The places that contribute come in their order, and none comes twice. -/
theorem pairwise_origins (library : Library) (name : Text) (source : List Text) :
    (origins library name source).Pairwise fun p q => p.1.Before q.1 := by
  rw [origins, List.pairwise_flatMap]
  constructor
  · intro line hline
    rw [List.pairwise_map]
    cases htarget : includeTarget? line.text with
    | none =>
      rw [contributed_of_plain (includeTarget?_eq_none_iff.mp htarget)]
      exact List.pairwise_singleton _ _
    | some target =>
      rw [contributed_of_includes (includeTarget?_eq_some_iff.mp htarget)]
      by_cases hself : target = name
      · rw [if_pos hself]
        exact List.Pairwise.nil
      · rw [if_neg hself]
        exact ((pairwise_numbered target _).filter _).imp fun h => Or.inr ⟨rfl, h⟩
  · refine (pairwise_numbered name source).imp fun hless p hp q hq => ?_
    obtain ⟨_, -, rfl⟩ := List.mem_map.mp hp
    obtain ⟨_, -, rfl⟩ := List.mem_map.mp hq
    exact .inl hless

/-- The origins come in the order of the contributed lines. -/
theorem map_origins (library : Library) (name : Text) (source : List Text) :
    (origins library name source).map Prod.snd =
      (numbered name source).flatMap (contributed library name) := by
  simp [origins, List.map_flatMap, Function.comp_def]

end Places

/-- Reading all members of a list is reading the first and then the others. -/
theorem mapM_cons_eq_ok_iff {α β ε : Type} {k : α → Except ε β} {x : α} {l : List α} {ys : List β} :
    (x :: l).mapM k = .ok ys ↔ ∃ y rest, k x = .ok y ∧ l.mapM k = .ok rest ∧ ys = y :: rest := by
  rw [List.mapM_cons]
  cases k x with
  | error e => simp [bind, Except.bind]
  | ok y => cases l.mapM k <;> simp [bind, Except.bind, pure, Except.pure, eq_comm]

/-- A line is listed with its source and its kind. -/
theorem classify_map_eq_ok_iff {line : SourceLine} {listed : ListedLine} :
    (classify line.text).map (ListedLine.mk line) = .ok listed ↔
      listed.source = line ∧ classify listed.source.text = .ok listed.kind := by
  obtain ⟨source, kind⟩ := listed
  cases hkind : classify line.text with
  | error f =>
    simp only [Except.map, reduceCtorEq, false_iff, not_and]
    rintro rfl hother
    rw [hkind] at hother
    cases hother
  | ok found =>
    simp only [Except.map, Except.ok.injEq, ListedLine.mk.injEq]
    constructor
    · rintro ⟨rfl, rfl⟩
      exact ⟨rfl, hkind⟩
    · rintro ⟨rfl, hother⟩
      rw [hkind] at hother
      exact ⟨rfl, Except.ok.inj hother⟩

/-- The kinds of lines are read one by one. -/
theorem mapM_classify_eq_ok_iff {lines : List SourceLine} {listed : List ListedLine} :
    (lines.mapM fun line => (classify line.text).map (ListedLine.mk line)) = .ok listed ↔
      listed.map (·.source) = lines ∧
        ∀ line ∈ listed, classify line.source.text = .ok line.kind := by
  induction lines generalizing listed with
  | nil => cases listed <;> simp [pure, Except.pure]
  | cons line lines ih =>
    rw [mapM_cons_eq_ok_iff]
    simp only [ih, classify_map_eq_ok_iff]
    cases listed with
    | nil => simp
    | cons first rest =>
      simp only [List.cons.injEq, List.map_cons, List.forall_mem_cons]
      constructor
      · rintro ⟨_, _, ⟨hfirst, hkind⟩, ⟨hrest, hkinds⟩, rfl, rfl⟩
        exact ⟨⟨hfirst, hrest⟩, hkind, hkinds⟩
      · rintro ⟨⟨hfirst, hrest⟩, hkind, hkinds⟩
        exact ⟨first, rest, ⟨hfirst, hkind⟩, ⟨hrest, hkinds⟩, rfl, rfl⟩

/-- A listing is loaded if there is a source and all of its lines can be classified. -/
theorem Listing.load_eq_ok_iff {library : Library} {name : Text} {l : Listing} :
    Listing.load library name = .ok l ↔
      ∃ source, library name = some source ∧
        l.lines.map (·.source) = sourceLines library name source ∧
        (∀ line ∈ l.lines, classify line.source.text = .ok line.kind) ∧
        l.name = name ∧ l.labels = labelsFrom 0 l.lines := by
  rw [Listing.load]
  cases library name with
  | none => simp
  | some source =>
    simp only [Option.some.injEq, exists_eq_left']
    rw [← sourceLines]
    cases hlisted : (sourceLines library name source).mapM fun line =>
        (classify line.text).map (ListedLine.mk line) with
    | error f =>
      simp only [reduceCtorEq, false_iff]
      rintro ⟨hlines, hkinds, -⟩
      rw [mapM_classify_eq_ok_iff.mpr ⟨hlines, hkinds⟩] at hlisted
      cases hlisted
    | ok listed =>
      constructor
      · intro h
        obtain rfl := Except.ok.inj h
        obtain ⟨hlines, hkinds⟩ := mapM_classify_eq_ok_iff.mp hlisted
        exact ⟨hlines, hkinds, rfl, rfl⟩
      · rintro ⟨hlines, hkinds, rfl, hlabels⟩
        rw [mapM_classify_eq_ok_iff.mpr ⟨hlines, hkinds⟩] at hlisted
        obtain rfl := Except.ok.inj hlisted
        simp only [← hlabels]

section Loading

variable {library : Library} {name : Text} {l : Listing}

/-- The labels that a listing has lines for are found, each at its last line, and no others. -/
theorem Listing.lookup_labels_iff (hload : Listing.load library name = .ok l) {key : Text}
    {i : Nat} : l.labels.lookup key = some i ↔
      IsGreatest {j | ∃ label, l.kind? j = some (.label label) ∧ Unicode.lower label = key} i := by
  have hlabels := Listing.labels_of_load hload
  have hmem (j : Nat) : (key, j) ∈ l.labels ↔
      ∃ label, l.kind? j = some (.label label) ∧ Unicode.lower label = key := by
    rw [hlabels, mem_labelsFrom_iff]
    simp only [Listing.kind?, Option.map_eq_some_iff]
    constructor
    · rintro ⟨line, label, hline, hkind, hlower⟩
      exact ⟨label, ⟨line, hline, hkind⟩, hlower⟩
    · rintro ⟨label, ⟨line, hline, hkind⟩, hlower⟩
      exact ⟨line, label, hline, hkind, hlower⟩
  have hpairwise : l.labels.Pairwise fun p q => q.2 < p.2 := hlabels ▸ pairwise_labelsFrom 0 l.lines
  simp only [lookup_eq_some_iff hpairwise, hmem]
  rfl

/-- Each line that contributes stands in the listing as it is, or as a closing brace and what
follows it, in the order of the places. -/
theorem sources_of_load (hload : Listing.load library name = .ok l) :
    ∃ source, library name = some source ∧ ∃ parts : List (List SourceLine),
      List.Forall₂ (fun origin part => StandsAs origin.2 part) (origins library name source) parts ∧
        l.lines.map (·.source) = parts.flatten := by
  obtain ⟨source, hsource, hlines, -⟩ := Listing.load_eq_ok_iff.mp hload
  refine ⟨source, hsource, (origins library name source).map fun origin => origin.2.split, ?_, ?_⟩
  · rw [List.forall₂_map_right_iff]
    exact List.forall₂_same.mpr fun origin _ => standsAs_iff.mpr rfl
  · rw [hlines, sourceLines, ← map_origins, List.flatMap_map, List.flatMap_def]

/-- The lines of a listing are what the places of a script with the given lines contribute. -/
structure Listing.KeepsPlaces (l : Listing) (library : Library) (name : Text)
    (source : List Text) : Prop where
  /-- Each place that contributes does so once, and the lines stand in the order of the places, as
  they are or cut behind a closing brace. -/
  lines : ∃ origins : List (Place × SourceLine), origins.Pairwise (fun p q => p.1.Before q.1) ∧
    (∀ place line, (place, line) ∈ origins ↔ Contributes library name source place line) ∧
    ∃ parts, List.Forall₂ (fun origin part => StandsAs origin.2 part) origins parts ∧
      l.lines.map (·.source) = parts.flatten
  /-- Each line has the kind of its text. -/
  kinds : ∀ line ∈ l.lines, classify line.source.text = .ok line.kind
  /-- A label is found at the last line that sets it, whatever the case of its letters, and nothing
  else is found. -/
  labels : ∀ key i, l.labels.lookup key = some i ↔
    IsGreatest {j | ∃ label, l.kind? j = some (.label label) ∧ Unicode.lower label = key} i

/-- The lines of a listing come from the lines of the script that include no script and, in the
place of a line that includes another script, from the lines of that script that include none. Each
carries the name of its script and its number there. -/
theorem lines_carry_their_place (hload : Listing.load library name = .ok l) :
    ∃ source, library name = some source ∧ l.KeepsPlaces library name source := by
  obtain ⟨source, hsource, parts, hparts, hlines⟩ := sources_of_load hload
  obtain ⟨-, -, -, hkinds, -⟩ := Listing.load_eq_ok_iff.mp hload
  exact ⟨source, hsource, {
    lines := ⟨origins library name source, pairwise_origins library name source,
      fun place line => mem_origins_iff, parts, hparts, hlines⟩
    kinds := hkinds
    labels := fun key i => Listing.lookup_labels_iff hload }⟩

end Loading

/-- A script that includes another one, itself and one that is missing, and a script that includes
a third one and sets a label that the first sets again. -/
def forageLibrary : Library :=
  fun name =>
    if name = "forage" then
      some ["include util", "Start:", "include forage", " Include  gone ", "  \x7d else echo b"]
    else if name = "util" then some ["start:", "include other", "echo util"]
    else none

/-- A forage includes a line of another file and goes on behind a brace, and each line tells its
place. -/
theorem lines_carry_their_place_forage :
    ∃ l, Listing.load forageLibrary "forage" = .ok l ∧
      l.lines.map (·.source) =
        [⟨"start:", "util", 1⟩, ⟨"echo util", "util", 3⟩, ⟨"Start:", "forage", 2⟩,
          ⟨"\x7d", "forage", 5⟩, ⟨"else echo b", "forage", 5⟩] ∧
      l.labels.lookup ("start" : Text) = some 2 ∧
      ∃ source, forageLibrary "forage" = some source ∧
        l.KeepsPlaces forageLibrary "forage" source :=
  ⟨_, rfl, by decide +kernel, by decide +kernel, lines_carry_their_place rfl⟩

end Script

end Mudline
