import Mudline.Proofs.Fault
import Mudline.Proofs.Settings.Mistake
import Mudline.Proofs.Text.Entries

/-!
# Lines one by one

Each line of a settings file does what it does whatever the other lines are. So the lines with a
mistake can be blanked out, a file can be followed by another, and it does not matter which of the
two ways to write a setting a line takes. What a line does is its effect, and a file is the effects
of its lines one after the other, with the mistakes of the lines beside them.
-/

namespace Mudline

namespace Text

/-- The pieces between the line feeds are the lines, up to carriage returns and an empty line at
the end. -/
theorem lines_cases (t : Text) : ∃ pieces left, splitOn '\n' t = pieces ++ [left] ∧
    lines t = pieces.map dropReturn ++ if left.isEmpty then [] else [left] := by
  obtain ⟨pieces, left, hcut⟩ := exists_cutAt '\n' t
  exact ⟨pieces, left, hcut.splitOn, by simp [lines, hcut.splitOn]⟩

/-- A carriage return at the end of a line is trimmed away in any case. -/
theorem trim_dropReturn (t : Text) : trim (dropReturn t) = trim t := by
  unfold dropReturn
  split
  · rename_i hlast
    obtain ⟨init, rfl⟩ := List.getLast?_eq_some_iff.mp (beq_iff_eq.mp hlast)
    rw [List.dropLast_concat, trim_append_blanks (forall_mem_of_all (by decide))]
  · rfl

end Text

namespace Configuration

/-- What a line does to a configuration. A line that asks for nothing or has a mistake leaves it as
it is. -/
def effect (c : Configuration) (raw : Text) : Except Fault Configuration :=
  match readLine raw with
  | some (.ok d) => c.apply d
  | _ => .ok c

/-- Lines that are the same but for blanks around them are read alike. -/
theorem readLine_of_trim_eq {a b : Text} (h : Text.trim a = Text.trim b) :
    readLine a = readLine b := by
  unfold readLine
  rw [h]

/-- A blank line says nothing. -/
theorem readLine_of_blank {raw : Text} (h : ∀ x ∈ raw, Text.isBlank x = true) :
    readLine raw = none := by
  rw [readLine_of_trim_eq (b := []) (Text.trim_eq_nil_iff.mpr h)]
  rfl

/-- Following lines is doing what each line does, with the mistakes collected beside it. -/
theorem loadLines_eq (c : Configuration) (number : Nat) (lines : List Text) :
    c.loadLines number lines =
      (lines.foldlM effect c).map (·, (lines.zipIdx number).filterMap mistake?) := by
  induction lines generalizing c number with
  | nil => rfl
  | cons raw rest ih =>
    rw [loadLines, List.zipIdx_cons, List.foldlM_cons]
    rcases hread : readLine raw with _ | m | d
    · have hmistake : mistake? (raw, number) = none := by simp [mistake?, hread]
      have heffect : effect c raw = .ok c := by simp [effect, hread]
      rw [List.filterMap_cons_none hmistake, heffect]
      exact ih c (number + 1)
    · have hmistake : mistake? (raw, number) = some ⟨number, m⟩ := by simp [mistake?, hread]
      have heffect : effect c raw = .ok c := by simp [effect, hread]
      rw [List.filterMap_cons_some hmistake, heffect]
      dsimp only
      rw [ih c (number + 1)]
      cases hrest : rest.foldlM effect c <;> simp [hrest, Except.map, bind, Except.bind]
    · have hmistake : mistake? (raw, number) = none := by simp [mistake?, hread]
      have heffect : effect c raw = c.apply d := by simp [effect, hread]
      rw [List.filterMap_cons_none hmistake, heffect]
      dsimp only
      cases c.apply d with
      | error f => rfl
      | ok c' => exact ih c' (number + 1)

/-- Lines are loaded if the effects of all go well, and yield the mistakes of each. -/
theorem loadLines_eq_ok_iff {c d : Configuration} {number : Nat} {lines : List Text}
    {mistakes : List LineMistake} :
    c.loadLines number lines = .ok (d, mistakes) ↔
      lines.foldlM effect c = .ok d ∧ (lines.zipIdx number).filterMap mistake? = mistakes := by
  rw [loadLines_eq]
  cases lines.foldlM effect c <;> simp [Except.map]

/-- What is followed depends only on how the lines are read. -/
theorem loadLines_congr {lines lines' : List Text} (h : lines.map readLine = lines'.map readLine)
    (c : Configuration) (number : Nat) : c.loadLines number lines = c.loadLines number lines' := by
  induction lines generalizing lines' c number with
  | nil =>
    obtain rfl := List.map_eq_nil_iff.mp h.symm
    rfl
  | cons raw rest ih =>
    obtain ⟨raw', rest', rfl, hraw, hrest⟩ := List.map_eq_cons_iff.mp h.symm
    rw [loadLines, loadLines, hraw]
    simp only [ih hrest.symm]

/-- An empty line at the end makes no difference. -/
theorem loadLines_concat_nil (c : Configuration) (number : Nat) (lines : List Text) :
    c.loadLines number (lines ++ [[]]) = c.loadLines number lines := by
  have heffect : ∀ d, effect d [] = .ok d := fun _ => rfl
  have hmistake : ∀ n, mistake? ([], n) = none := fun _ => rfl
  simp only [loadLines_eq, List.foldlM_append, List.zipIdx_append, List.filterMap_append]
  cases lines.foldlM effect c with
  | error f => rfl
  | ok d => simp [Except.map, bind, Except.bind, heffect, hmistake, pure, Except.pure]

/-- A file is followed piece by piece between its line feeds. -/
theorem loadOver_eq (c : Configuration) (t : Text) :
    c.loadOver t = c.loadLines 1 (Text.splitOn '\n' t) := by
  have hread (raw : Text) : readLine (Text.dropReturn raw) = readLine raw :=
    readLine_of_trim_eq (Text.trim_dropReturn raw)
  obtain ⟨pieces, left, hpieces, hlines⟩ := Text.lines_cases t
  rw [loadOver, hlines, hpieces]
  cases left with
  | nil =>
    rw [loadLines_concat_nil]
    exact loadLines_congr (by simp [hread]) c 1
  | cons x left => exact loadLines_congr (by simp [hread]) c 1

/-- A mistake is reported under the number of its line. -/
theorem mistake?_eq_some_iff {raw : Text} {n : Nat} {report : LineMistake} :
    mistake? (raw, n) = some report ↔ report.line = n ∧ Malformed raw report.mistake := by
  rw [← readLine_eq_error_iff]
  unfold mistake?
  obtain ⟨line, mistake⟩ := report
  rcases readLine raw with _ | m | d <;> simp [eq_comm]

/-- The reports of lines in order have increasing numbers. -/
theorem pairwise_mistakes (lines : List Text) (number : Nat) :
    ((lines.zipIdx number).filterMap mistake?).Pairwise (·.line < ·.line) := by
  have hnumbers : (lines.zipIdx number).Pairwise (·.2 < ·.2) := by
    have hrange := List.pairwise_lt_range' (s := number) (n := lines.length) 1
    rw [← List.zipIdx_map_snd number lines] at hrange
    exact List.pairwise_map.mp hrange
  refine List.pairwise_filterMap.mpr (hnumbers.imp ?_)
  rintro ⟨raw, n⟩ ⟨raw', n'⟩ hlt report hreport report' hreport'
  rw [(mistake?_eq_some_iff.mp hreport).1, (mistake?_eq_some_iff.mp hreport').1]
  exact hlt

/-- The number of a line is reported exactly if the line is. -/
theorem line_mem_iff {lines : List Text} {number : Nat} {p : Text × Nat}
    (hp : p ∈ lines.zipIdx number) :
    p.2 ∈ ((lines.zipIdx number).filterMap mistake?).map (·.line) ↔
      ∃ report, mistake? p = some report := by
  simp only [List.mem_map, List.mem_filterMap]
  constructor
  · rintro ⟨report, ⟨⟨raw, n⟩, hq, hreport⟩, hline⟩
    obtain ⟨hn, -⟩ := mistake?_eq_some_iff.mp hreport
    obtain ⟨raw', n'⟩ := p
    obtain rfl : n' = n := hline.symm.trans hn
    have hfound := (List.mk_mem_zipIdx_iff_le_and_getElem?_sub.mp hq).2
    have hfound' := (List.mk_mem_zipIdx_iff_le_and_getElem?_sub.mp hp).2
    obtain rfl : raw' = raw := Option.some.inj (hfound'.symm.trans hfound)
    exact ⟨report, hreport⟩
  · rintro ⟨report, hreport⟩
    exact ⟨report, ⟨p, hp, hreport⟩, (mistake?_eq_some_iff.mp hreport).1⟩

/-- A text with some of its lines replaced. -/
def replaceLines (t : Text) (numbers : List Nat) (new : Nat → Text) : Text :=
  Text.join ['\n'] (((Text.splitOn '\n' t).zipIdx 1).map fun p =>
    if p.2 ∈ numbers then new p.2 else p.1)

/-- Lines that do the same one by one do the same together. -/
theorem foldlM_effect_congr {lines lines' : List Text}
    (h : lines.map (fun raw c => effect c raw) = lines'.map (fun raw c => effect c raw))
    (c : Configuration) : lines.foldlM effect c = lines'.foldlM effect c := by
  have hdo (lines : List Text) : lines.foldlM effect c =
      (lines.map fun raw c => effect c raw).foldlM (fun c f => f c) c := by
    rw [List.foldlM_map]
  rw [hdo, hdo, h]

/-- The lines of a text of which some are replaced by lines. -/
theorem splitOn_replaceLines (t : Text) (numbers : List Nat) {new : Nat → Text}
    (hnew : ∀ n, '\n' ∉ new n) : Text.splitOn '\n' (replaceLines t numbers new) =
      ((Text.splitOn '\n' t).zipIdx 1).map fun p => if p.2 ∈ numbers then new p.2 else p.1 := by
  refine Text.splitOn_join ?_ ?_
  · have hlength := Text.length_splitOn '\n' t
    exact List.ne_nil_of_length_pos (by simp [hlength])
  · simp only [List.forall_mem_map]
    intro p hp
    split
    · exact hnew p.2
    · exact Text.notMem_of_mem_splitOn (List.fst_mem_of_mem_zipIdx hp)

/-- A line that is blanked out if it has a mistake asks for what it asked for, without the
mistake. -/
theorem readLine_blanked {lines : List Text} {number : Nat} {p : Text × Nat}
    (hp : p ∈ lines.zipIdx number) {blank : Nat → Text}
    (hblank : ∀ n, ∀ x ∈ blank n, Text.isBlank x = true) :
    readLine (if p.2 ∈ ((lines.zipIdx number).filterMap mistake?).map (·.line) then blank p.2
        else p.1) =
      match readLine p.1 with
      | some (.error _) => none
      | read => read := by
  have hmem := line_mem_iff hp
  rcases hread : readLine p.1 with _ | m | d
  · rw [if_neg (by simp [hmem, mistake?, hread]), hread]
  · rw [if_pos (by simp [hmem, mistake?, hread]), readLine_of_blank (hblank p.2)]
  · rw [if_neg (by simp [hmem, mistake?, hread]), hread]

/-- With the lines that have a mistake blanked out, the rest does the same. -/
theorem load_replaceLines {t : Text} {c : Configuration} {mistakes : List LineMistake}
    (h : load t = .ok (c, mistakes)) {blank : Nat → Text}
    (hblank : ∀ n, ∀ x ∈ blank n, Text.isBlank x = true ∧ x ≠ '\n') :
    load (replaceLines t (mistakes.map (·.line)) blank) = .ok (c, []) := by
  have hblanks (n : Nat) : ∀ x ∈ blank n, Text.isBlank x = true := fun x hx => (hblank n x hx).1
  have hfeed (n : Nat) : '\n' ∉ blank n := fun hx => (hblank n _ hx).2 rfl
  rw [load, loadOver_eq, loadLines_eq_ok_iff] at h ⊢
  obtain ⟨heffect, rfl⟩ := h
  rw [splitOn_replaceLines _ _ hfeed]
  generalize Text.splitOn '\n' t = lines at heffect ⊢
  constructor
  · rw [← heffect]
    refine foldlM_effect_congr ?_ {}
    conv_rhs => rw [← List.zipIdx_map_fst 1 lines]
    rw [List.map_map, List.map_map]
    refine List.map_congr_left fun p hp => funext fun d => ?_
    simp only [Function.comp_apply, effect, readLine_blanked hp hblanks]
    rcases readLine p.1 with _ | m | d <;> rfl
  · refine List.filterMap_eq_nil_iff.mpr ?_
    rintro ⟨raw, n⟩ hmem
    obtain ⟨p, hp, rfl⟩ := List.mem_map.mp (List.fst_mem_of_mem_zipIdx hmem)
    simp only [mistake?, readLine_blanked hp hblanks]
    rcases readLine p.1 with _ | m | d <;> rfl

/-- What is reported of a text that leads to a configuration. -/
structure Reports (t : Text) (c : Configuration) (mistakes : List LineMistake) : Prop where
  /-- The reports are in the order of the lines, one of a line at most. -/
  increasing : mistakes.Pairwise (·.line < ·.line)
  /-- The lines that are malformed are reported, with the mistakes that they have. -/
  mem_iff : ∀ n m, ⟨n, m⟩ ∈ mistakes ↔
    ∃ i raw, n = i + 1 ∧ (Text.lines t)[i]? = some raw ∧ Malformed raw m
  /-- With these lines blanked out, the rest leads to the same configuration. -/
  blanked : ∀ blank : Nat → Text, (∀ n, ∀ x ∈ blank n, Text.isBlank x = true ∧ x ≠ '\n') →
    load (replaceLines t (mistakes.map (·.line)) blank) = .ok (c, [])

/-- What is loaded yields the reports of its lines. -/
theorem reports_of_load {t : Text} {c : Configuration} {mistakes : List LineMistake}
    (h : load t = .ok (c, mistakes)) : Reports t c mistakes := by
  obtain ⟨-, hmistakes⟩ := loadLines_eq_ok_iff.mp h
  refine ⟨hmistakes ▸ pairwise_mistakes _ 1, fun n m => ?_, fun _ => load_replaceLines h⟩
  simp only [← hmistakes, List.mem_filterMap, Prod.exists, mistake?_eq_some_iff,
    List.mk_mem_zipIdx_iff_le_and_getElem?_sub]
  constructor
  · rintro ⟨raw, _, ⟨hpos, hraw⟩, rfl, hbad⟩
    exact ⟨n - 1, raw, by omega, hraw, hbad⟩
  · rintro ⟨i, raw, rfl, hraw, hbad⟩
    exact ⟨raw, i + 1, ⟨by omega, hraw⟩, rfl, hbad⟩

/-- The report of a mistake so many lines further down. -/
def LineMistake.shift (k : Nat) (report : LineMistake) : LineMistake :=
  { report with line := report.line + k }

/-- Mistakes of lines that come later are reported under higher numbers. -/
theorem filterMap_mistake?_zipIdx (lines : List Text) (number k : Nat) :
    (lines.zipIdx (k + number)).filterMap mistake? =
      ((lines.zipIdx number).filterMap mistake?).map (·.shift k) := by
  rw [← List.map_snd_add_zipIdx_eq_zipIdx, List.filterMap_map, List.map_filterMap]
  refine List.filterMap_congr fun ⟨raw, n⟩ _ => ?_
  rcases hread : readLine raw with _ | m | d <;> simp [mistake?, hread, LineMistake.shift]

/-- Lines that are survived are survived on top of any configuration, with the same mistakes. -/
theorem loadLines_of_loadLines {c d : Configuration} {number : Nat} {lines : List Text}
    {mistakes : List LineMistake} (h : c.loadLines number lines = .ok (d, mistakes))
    (c' : Configuration) : ∃ d', c'.loadLines number lines = .ok (d', mistakes) := by
  have hmap := map_loadLines c number lines
  rw [← map_loadLines c' number lines, h] at hmap
  rcases hload : c'.loadLines number lines with f | ⟨d', mistakes'⟩
  · rw [hload] at hmap
    cases hmap
  · rw [hload] at hmap
    cases hmap
    exact ⟨d', rfl⟩

/-- A text may be loaded in two parts, the second over the first, with its mistakes under higher
numbers. -/
theorem load_append_cons {s t : Text} {c d : Configuration} {mistakes mistakes' : List LineMistake}
    (hs : load s = .ok (c, mistakes)) (ht : load t = .ok (d, mistakes')) :
    ∃ e, c.loadOver t = .ok (e, mistakes') ∧ load (s ++ '\n' :: t) =
      .ok (e, mistakes ++ mistakes'.map (·.shift (s.count '\n' + 1))) := by
  obtain ⟨e, hover⟩ := loadLines_of_loadLines ht c
  refine ⟨e, hover, ?_⟩
  have hback : c.loadOver t = .ok (e, mistakes') := hover
  rw [load, loadOver_eq, loadLines_eq_ok_iff] at hs ⊢
  rw [loadOver_eq, loadLines_eq_ok_iff] at hback
  obtain ⟨hfront, rfl⟩ := hs
  obtain ⟨hback, rfl⟩ := hback
  rw [Text.splitOn_append_cons]
  constructor
  · rw [List.foldlM_append, hfront]
    exact hback
  · rw [List.zipIdx_append, List.filterMap_append, Text.length_splitOn, Nat.add_comm 1,
      filterMap_mistake?_zipIdx]

section Setting

variable {key : Text} (hne : key ≠ []) (hkey : ∀ x ∈ key, x ≠ '=' ∧ Text.isBlank x = false)

include hne hkey

/-- Trimming leaves what stands before the end of a key. -/
theorem says_setting (rest : Text) :
    Says ("set ".toList ++ (key ++ rest)) "set" (key ++ Text.trimEnd rest) := by
  obtain ⟨first, tail, hfirst⟩ := List.exists_cons_of_ne_nil hne
  obtain ⟨init, last, hlast⟩ := (List.eq_nil_or_concat key).resolve_left hne
  rw [List.concat_eq_append] at hlast
  have hends : Text.isBlank first = false ∧ Text.isBlank last = false :=
    ⟨(hkey first (by simp [hfirst])).2, (hkey last (by simp [hlast])).2⟩
  have hline : Text.trim ("set ".toList ++ (key ++ rest)) =
      "set".toList ++ ' ' :: (key ++ Text.trimEnd rest) := by
    have hend : ("set ".toList ++ key).getLast? = some last := by
      rw [hlast, ← List.append_assoc, List.getLast?_concat]
    have hstart : ("set ".toList ++ key).head? = some 's' := rfl
    have htrim := Text.trim_append hstart hend (by decide) hends.2 rest
    simpa using htrim
  have hargs : Text.trim (key ++ Text.trimEnd rest) = key ++ Text.trimEnd rest := by
    have hstart : key.head? = some first := by rw [hfirst, List.head?_cons]
    have hend : key.getLast? = some last := by rw [hlast, List.getLast?_concat]
    have htrim := Text.trim_append hstart hend hends.1 hends.2 (Text.trimEnd rest)
    rwa [Text.trimEnd_trimEnd] at htrim
  have hsays := Says.followed (b := ' ') (by decide) hline
  rwa [hargs] at hsays

/-- Behind a key stands its value, whatever ends the key. -/
theorem assigns_setting {c : Char} (hc : endsKey c = true) (value : Text) :
    Assigns (key ++ Text.trimEnd (c :: value)) key (Text.trim value) := by
  have hends : ∀ x ∈ key, endsKey x = false := fun x hx => by
    obtain ⟨hequals, hblank⟩ := hkey x hx
    simpa [endsKey, hequals] using Text.isAsciiBlank_eq_false hblank
  by_cases hnil : Text.trimEnd (c :: value) = []
  · have hblank := Text.trimEnd_eq_nil_iff.mp hnil
    have hvalue : Text.trim value = [] :=
      Text.trim_eq_nil_iff.mpr fun x hx => hblank x (List.mem_cons_of_mem _ hx)
    rw [hnil, hvalue, List.append_nil]
    exact .bare hne hends
  · have hcons := (Text.trimEnd_cons_cases c value).resolve_left fun h => hnil h.1
    have hassigns : Assigns (key ++ c :: Text.trimEnd value) key (Text.trim (Text.trimEnd value)) :=
      .followed hne hends hc
    rwa [Text.trim_trimEnd, ← hcons] at hassigns

/-- Whatever ends the key, a setting is read alike. -/
theorem readLine_setting {c c' : Char} (hc : endsKey c = true) (hc' : endsKey c' = true)
    (value : Text) : readLine ("set ".toList ++ (key ++ c :: value)) =
      readLine ("set ".toList ++ (key ++ c' :: value)) := by
  have hread {c : Char} (hc : endsKey c = true) :
      splitKey? (key ++ Text.trimEnd (c :: value)) = some (key, Text.trim value) :=
    splitKey?_eq_some_iff.mpr (assigns_setting hne hkey hc value)
  have hline (rest : Text) : readLine ("set ".toList ++ (key ++ rest)) =
      some (readSet (key ++ Text.trimEnd rest)) :=
    readLine_eq_some_iff.mpr (.inl ⟨_, says_setting hne hkey rest, rfl⟩)
  rw [hline, hline, readSet, readSet, hread hc, hread hc']

/-- A setting is loaded alike with a blank or an equals sign behind its key. -/
theorem loadOver_setting {value : Text} (hvalue : '\n' ∉ value) (c : Configuration) :
    c.loadOver ("set ".toList ++ (key ++ '=' :: value)) =
      c.loadOver ("set ".toList ++ (key ++ ' ' :: value)) := by
  have hone {x : Char} (hx : x ≠ '\n') : Text.splitOn '\n' ("set ".toList ++ (key ++ x :: value)) =
      ["set ".toList ++ (key ++ x :: value)] := by
    have hfeed : '\n' ∉ key := fun hmem => absurd (hkey _ hmem).2 (by decide)
    refine Text.splitOn_of_notMem ?_
    simp [hfeed, hvalue, hx.symm]
  rw [loadOver_eq, loadOver_eq, hone (by decide), hone (by decide)]
  refine loadLines_congr ?_ c 1
  have hequals : endsKey '=' = true := rfl
  have hblank : endsKey ' ' = true := rfl
  have hread := readLine_setting hne hkey hequals hblank value
  rw [List.map_singleton, List.map_singleton, hread]

end Setting

/-- Lines do not depend on one another. What is wrong with a text is reported line by line and
changes nothing; a text behind another one does what it does on top of what the other one leads to;
and a setting is the same with an equals sign and with a blank behind its key. -/
theorem lines_apart {s t : Text} {c d : Configuration} {mistakes mistakes' : List LineMistake}
    (hs : load s = .ok (c, mistakes)) (ht : load t = .ok (d, mistakes')) :
    Reports s c mistakes ∧
      (∃ e, c.loadOver t = .ok (e, mistakes') ∧ load (s ++ '\n' :: t) =
        .ok (e, mistakes ++ mistakes'.map (·.shift (s.count '\n' + 1)))) ∧
      ∀ key value : Text, key ≠ [] → (∀ x ∈ key, x ≠ '=' ∧ Text.isBlank x = false) →
        '\n' ∉ value → ∀ c : Configuration,
          c.loadOver ("set ".toList ++ (key ++ '=' :: value)) =
            c.loadOver ("set ".toList ++ (key ++ ' ' :: value)) :=
  ⟨reports_of_load hs, load_append_cons hs ht, fun _ _ hne hkey hvalue c =>
    loadOver_setting hne hkey hvalue c⟩

/-- A file with a mistake before a comment, an empty line and a variable. -/
def goldFile : Text :=
  "set max_expand_passes 0\r\n# gold\n\nvar gold 5"

/-- A file with a mistake before a setting. -/
def lairFile : Text :=
  "var\nset scripts_dir=lairs\n"

/-- A count that is none is reported, and the gold is set all the same. -/
theorem lines_apart_gold :
    load goldFile = .ok ({ presets := ({} : Store).set "gold" "5" }, [⟨1, .badCount "0"⟩]) ∧
      load lairFile = .ok ({ settings := { scriptsDir := "lairs" } }, [⟨1, .missingName⟩]) ∧
      Reports goldFile { presets := ({} : Store).set "gold" "5" } [⟨1, .badCount "0"⟩] ∧
      load (goldFile ++ '\n' :: lairFile) =
        .ok ({ settings := { scriptsDir := "lairs" }, presets := ({} : Store).set "gold" "5" },
          [⟨1, .badCount "0"⟩, ⟨5, .missingName⟩]) ∧
      loadOver {} "set scripts_dir=my lairs" = loadOver {} "set scripts_dir my lairs" := by
  have hgold : load goldFile =
      .ok ({ presets := ({} : Store).set "gold" "5" }, [⟨1, .badCount "0"⟩]) := by decide +kernel
  have hlair : load lairFile =
      .ok ({ settings := { scriptsDir := "lairs" } }, [⟨1, .missingName⟩]) := by decide +kernel
  have hover : loadOver { presets := ({} : Store).set "gold" "5" } lairFile =
      .ok ({ settings := { scriptsDir := "lairs" }, presets := ({} : Store).set "gold" "5" },
        [⟨1, .missingName⟩]) := by decide +kernel
  obtain ⟨hreports, ⟨e, hlanded, hboth⟩, hsetting⟩ := lines_apart hgold hlair
  cases hover.symm.trans hlanded
  exact ⟨hgold, hlair, hreports, hboth,
    hsetting "scripts_dir" "my lairs" (by decide) (Text.forall_mem_of_all (by decide)) (by decide)
      {}⟩

/-- Without a key it matters what stands before the value: an equals sign there is a mistake, and
behind blanks the value is the key. -/
theorem not_always_alike : ¬∀ key value : Text, (∀ x ∈ key, x ≠ '=' ∧ Text.isBlank x = false) →
    Text.trim value = value → '\n' ∉ value → value.head? ≠ some '=' → ∀ c : Configuration,
      c.loadOver ("set ".toList ++ (key ++ '=' :: value)) =
        c.loadOver ("set ".toList ++ (key ++ ' ' :: value)) := by
  intro h
  have hsame := h [] "scripts_dir" (by simp) (by decide) (by decide) (by decide) {}
  revert hsame
  decide +kernel

end Configuration

end Mudline
