import Mudline.Proofs.Script.Provenance

/-!
# Lines that loading leaves alone

A line is flat if it includes no script and has nothing behind a closing brace at its start. Loading
leaves flat lines alone, takes away includes and cuts lines behind braces, but it looks at each line
only once: what it finds behind a brace is not looked at again. This file says when the lines of a
listing are flat, and that loading them once more changes nothing exactly then.
-/

namespace Mudline

namespace Script

/-- A brace in front is not trimmed away. -/
theorem trim_brace (rest : Text) : Text.trim ('\x7d' :: rest) = '\x7d' :: Text.trimEnd rest := by
  have hbrace : Text.trimStart ('\x7d' :: rest) = ['\x7d'] ++ rest := rfl
  rw [Text.trim, hbrace]
  exact Text.trimEnd_append rfl (by decide) rest

/-- A line goes on behind a closing brace exactly if, trimmed, it begins with one and is more. -/
theorem exists_goesOn_iff {text : Text} :
    (∃ rest, GoesOn text rest) ↔
      (Text.trim text).head? = some '\x7d' ∧ Text.trim text ≠ "\x7d" := by
  constructor
  · rintro ⟨_, hlead, hrest⟩
    rename_i lead tail
    rw [Text.trim_blanks_append hlead, trim_brace]
    refine ⟨rfl, fun hbrace => hrest ?_⟩
    have hnil : Text.trimEnd tail = [] := (List.cons.inj hbrace).2
    rwa [Text.trim_eq_nil_iff, ← Text.trimEnd_eq_nil_iff]
  · rintro ⟨hfirst, hmore⟩
    obtain ⟨lead, hlead, htext⟩ := Text.exists_blanks_trimStart text
    obtain ⟨rest, hrest⟩ := List.head?_eq_some_iff.mp hfirst
    obtain ⟨trail, hstart⟩ := Text.trimEnd_prefix (Text.trimStart text)
    rw [← Text.trim, hrest, List.cons_append] at hstart
    refine ⟨Text.trim (rest ++ trail), ?_⟩
    rw [htext, ← hstart]
    refine .line hlead fun hnil => hmore ?_
    have hend : Text.trimEnd (rest ++ trail) = [] :=
      Text.trimEnd_eq_nil_iff.mpr (Text.trim_eq_nil_iff.mp hnil)
    rw [Text.trim, ← hstart, ← List.singleton_append, Text.trimEnd_append rfl (by decide), hend]
    rfl

/-- A line that loading leaves alone: it includes no script, and if it begins with a closing brace
it is nothing more. -/
structure IsFlat (text : Text) : Prop where
  /-- The line includes no script. -/
  plain : ∀ target, ¬Includes text target
  /-- A closing brace at the start of the line stands alone. -/
  alone : (Text.trim text).head? = some '\x7d' → Text.trim text = "\x7d"

/-- A line is flat if it includes nothing and does not go on behind a closing brace. -/
theorem isFlat_iff {text : Text} :
    IsFlat text ↔ (∀ target, ¬Includes text target) ∧ ∀ rest, ¬GoesOn text rest := by
  have halone : (∀ rest, ¬GoesOn text rest) ↔
      ((Text.trim text).head? = some '\x7d' → Text.trim text = "\x7d") := by
    rw [← not_exists, exists_goesOn_iff, not_and, not_ne_iff]
  rw [halone]
  exact ⟨fun h => ⟨h.plain, h.alone⟩, fun h => ⟨h.1, h.2⟩⟩

instance (text : Text) : Decidable (IsFlat text) :=
  decidable_of_iff (includeTarget? text = none ∧ splitClosing? text = none) <| by
    rw [isFlat_iff, includeTarget?_eq_none_iff, splitClosing?_eq_none_iff]

/-- A closing brace alone is flat. -/
theorem isFlat_brace : IsFlat "\x7d" := by
  decide

/-- The texts that a line of the script `name` becomes when the script is loaded. -/
def becomes (library : Library) (name text : Text) : List Text :=
  ((contributed library name ⟨text, name, 0⟩).flatMap (·.split)).map (·.text)

section Becoming

variable {library : Library} {name text : Text}

/-- A line becomes the brace and the rest if it goes on behind one, and else stays. -/
theorem map_text_split (line : SourceLine) :
    line.split.map (·.text) =
      match splitClosing? line.text with
      | some (closing, rest) => [closing, rest]
      | none => [line.text] := by
  rw [SourceLine.split]
  cases splitClosing? line.text <;> rfl

/-- What a line becomes is read off its text alone. -/
theorem map_text_contributed (line : SourceLine) :
    ((contributed library name line).flatMap (·.split)).map (·.text) =
      becomes library name line.text := by
  rw [becomes]
  cases htarget : includeTarget? line.text with
  | none =>
    have hplain := includeTarget?_eq_none_iff.mp htarget
    have hsame : contributed library name ⟨line.text, name, 0⟩ = [⟨line.text, name, 0⟩] :=
      contributed_of_plain hplain
    rw [contributed_of_plain hplain, hsame, List.flatMap_singleton, List.flatMap_singleton,
      map_text_split, map_text_split]
  | some target =>
    have hincludes := includeTarget?_eq_some_iff.mp htarget
    have hsame : contributed library name ⟨line.text, name, 0⟩ =
        if target = name then [] else included target ((library target).getD []) :=
      contributed_of_includes hincludes
    rw [hsame, contributed_of_includes hincludes]

/-- The lines of a source become the lines of its listing one after another. -/
theorem map_text_sourceLines (library : Library) (name : Text) (source : List Text) :
    (sourceLines library name source).map (·.text) = source.flatMap (becomes library name) := by
  rw [sourceLines, List.flatMap_assoc, List.map_flatMap]
  simp only [map_text_contributed]
  rw [← List.flatMap_map, map_text_numbered]

/-- A flat line stays as it is. -/
theorem becomes_of_isFlat (h : IsFlat text) : becomes library name text = [text] := by
  obtain ⟨hplain, hwhole⟩ := isFlat_iff.mp h
  rw [becomes, contributed_of_plain hplain, List.flatMap_singleton, map_text_split,
    splitClosing?_eq_none_iff.mpr hwhole]

/-- A line that goes on behind a closing brace becomes two. -/
theorem becomes_of_goesOn {rest : Text} (hplain : ∀ target, ¬Includes text target)
    (h : GoesOn text rest) : becomes library name text = [("\x7d" : Text), rest] := by
  rw [becomes, contributed_of_plain hplain, List.flatMap_singleton, map_text_split,
    splitClosing?_eq_some_iff.mpr ⟨rfl, h⟩]

/-- What a line contributes includes nothing more. -/
theorem plain_of_mem_contributed {line inner : SourceLine}
    (h : inner ∈ contributed library name line) : ∀ target, ¬Includes inner.text target := by
  cases htarget : includeTarget? line.text with
  | none =>
    have hplain := includeTarget?_eq_none_iff.mp htarget
    rw [contributed_of_plain hplain, List.mem_singleton] at h
    rwa [h]
  | some target =>
    rw [contributed_of_includes (includeTarget?_eq_some_iff.mp htarget)] at h
    split at h
    · cases h
    · exact (mem_included_iff.mp h).2

/-- The first text that a line becomes includes no script. -/
theorem plain_of_head?_becomes {first : Text}
    (h : (becomes library name text).head? = some first) : ∀ target, ¬Includes first target := by
  rw [becomes, List.map_flatMap, List.head?_flatMap] at h
  obtain ⟨line, hline, hfirst⟩ := List.exists_of_findSome?_eq_some h
  rw [map_text_split] at hfirst
  split at hfirst
  · rename_i closing rest hparts
    obtain rfl := (splitClosing?_eq_some_iff.mp hparts).1
    obtain rfl := Option.some.inj hfirst
    exact isFlat_brace.plain
  · obtain rfl := Option.some.inj hfirst
    exact plain_of_mem_contributed hline

/-- Loading leaves lines alone exactly if they are flat. -/
theorem flatMap_becomes_eq_self_iff (library : Library) (name : Text) {texts : List Text} :
    texts.flatMap (becomes library name) = texts ↔ ∀ text ∈ texts, IsFlat text := by
  constructor
  · intro hsame
    induction texts with
    | nil => exact List.forall_mem_nil _
    | cons text rest ih =>
      by_cases hflat : IsFlat text
      · rw [List.flatMap_cons, becomes_of_isFlat hflat, List.singleton_append] at hsame
        exact List.forall_mem_cons.mpr ⟨hflat, ih (List.cons.inj hsame).2⟩
      · exfalso
        by_cases hplain : ∀ target, ¬Includes text target
        · obtain ⟨more, hmore⟩ : ∃ more, GoesOn text more := by
            simpa [isFlat_iff, hplain] using hflat
          rw [List.flatMap_cons, becomes_of_goesOn hplain hmore] at hsame
          exact hflat ((List.cons.inj hsame).1 ▸ isFlat_brace)
        · have hhead := congrArg List.head? hsame
          rw [List.head?_flatMap, List.head?_cons] at hhead
          obtain ⟨line, -, hline⟩ := List.exists_of_findSome?_eq_some hhead
          exact hplain (plain_of_head?_becomes hline)
  · intro hflat
    induction texts with
    | nil => rfl
    | cons text rest ih =>
      obtain ⟨hfirst, hrest⟩ := List.forall_mem_cons.mp hflat
      rw [List.flatMap_cons, becomes_of_isFlat hfirst, ih hrest, List.singleton_append]

end Becoming

/-- The texts of the lines of a listing. -/
def Listing.texts (l : Listing) : List Text :=
  l.lines.map (·.source.text)

section Reloading

variable {library : Library} {name : Text} {l : Listing}

/-- All goes well if each goes well. -/
theorem exists_mapM_eq_ok {α β ε : Type} {k : α → Except ε β} {xs : List α}
    (h : ∀ x ∈ xs, ∃ y, k x = .ok y) : ∃ ys, xs.mapM k = .ok ys := by
  induction xs with
  | nil => exact ⟨[], rfl⟩
  | cons x xs ih =>
    obtain ⟨⟨y, hy⟩, hrest⟩ := List.forall_mem_cons.mp h
    obtain ⟨ys, hys⟩ := ih hrest
    exact ⟨y :: ys, mapM_cons_eq_ok_iff.mpr ⟨y, ys, hy, hys, rfl⟩⟩

/-- The lines of a listing are those that its source becomes. -/
theorem Listing.texts_of_load {source : List Text} (hsource : library name = some source)
    (hload : Listing.load library name = .ok l) :
    l.texts = source.flatMap (becomes library name) := by
  obtain ⟨_, hother, hlines, -⟩ := Listing.load_eq_ok_iff.mp hload
  obtain rfl := Option.some.inj (hsource.symm.trans hother)
  rw [← map_text_sourceLines, ← hlines, List.map_map]
  rfl

/-- A script whose lines have kinds, and are texts that stay, is loaded with the same lines. -/
theorem Listing.exists_load {texts : List Text} (hsource : library name = some texts)
    (hkinds : ∀ text ∈ texts, ∃ kind, classify text = .ok kind)
    (hsame : texts.flatMap (becomes library name) = texts) :
    ∃ l, Listing.load library name = .ok l ∧ l.texts = texts := by
  have hlines := map_text_sourceLines library name texts
  rw [hsame] at hlines
  have hlisted : ∀ line ∈ sourceLines library name texts,
      ∃ listed, (classify line.text).map (ListedLine.mk line) = .ok listed := by
    intro line hline
    obtain ⟨kind, hkind⟩ := hkinds line.text (hlines ▸ List.mem_map_of_mem hline)
    exact ⟨⟨line, kind⟩, by rw [hkind]; rfl⟩
  obtain ⟨listed, hlisted⟩ := exists_mapM_eq_ok hlisted
  obtain ⟨hsources, hclassified⟩ := mapM_classify_eq_ok_iff.mp hlisted
  have hload : Listing.load library name = .ok ⟨name, listed, labelsFrom 0 listed⟩ :=
    Listing.load_eq_ok_iff.mpr ⟨texts, hsource, hsources, hclassified, rfl, rfl⟩
  exact ⟨_, hload, (Listing.texts_of_load hsource hload).trans hsame⟩

/-- A line that a source contributes includes nothing more. -/
theorem Contributes.plain {source : List Text} {place : Place} {line : SourceLine}
    (h : Contributes library name source place line) : ∀ target, ¬Includes line.text target := by
  cases h with
  | own hline hplain => exact hplain
  | included hline hincludes hother hlines hinner hplain => exact hplain

/-- The lines of a listing are those that the contributed lines are split into. -/
theorem Listing.mem_texts_iff {source : List Text} (hsource : library name = some source)
    (hload : Listing.load library name = .ok l) {text : Text} :
    text ∈ l.texts ↔ ∃ place line, Contributes library name source place line ∧
      text ∈ line.split.map (·.text) := by
  have htexts : l.texts = (origins library name source).flatMap fun origin =>
      origin.2.split.map (·.text) := by
    rw [Listing.texts_of_load hsource hload, ← map_text_sourceLines, sourceLines, ← map_origins,
      List.flatMap_map, List.map_flatMap]
  rw [htexts, List.mem_flatMap, Prod.exists]
  simp only [mem_origins_iff]

/-- All lines of a listing are flat if every contributed line is so behind its first brace. -/
theorem forall_isFlat_iff {source : List Text} (hsource : library name = some source)
    (hload : Listing.load library name = .ok l) :
    (∀ text ∈ l.texts, IsFlat text) ↔
      ∀ place line, Contributes library name source place line →
        ∀ rest, GoesOn line.text rest → IsFlat rest := by
  simp only [Listing.mem_texts_iff hsource hload, map_text_split]
  constructor
  · intro hflat place line hline rest hrest
    refine hflat rest ⟨place, line, hline, ?_⟩
    rw [splitClosing?_eq_some_iff.mpr ⟨rfl, hrest⟩]
    exact List.mem_cons_of_mem _ (List.mem_singleton_self rest)
  · rintro hhidden text ⟨place, line, hline, htext⟩
    cases hparts : splitClosing? line.text with
    | none =>
      rw [hparts, List.mem_singleton] at htext
      rw [htext]
      exact isFlat_iff.mpr ⟨hline.plain, splitClosing?_eq_none_iff.mp hparts⟩
    | some parts =>
      obtain ⟨closing, rest⟩ := parts
      obtain ⟨rfl, hrest⟩ := splitClosing?_eq_some_iff.mp hparts
      rw [hparts, List.mem_pair] at htext
      rcases htext with rfl | rfl
      · exact isFlat_brace
      · exact hhidden place line hline _ hrest

/-- The lines of a listing are flat exactly if no line that contributes to it hides one that is not
flat behind the closing brace at its start. A script that has the lines of the listing is loaded
with the same lines exactly if these are flat. -/
theorem flat_iff_nothing_hidden {source : List Text} (hsource : library name = some source)
    (hload : Listing.load library name = .ok l) :
    ((∀ text ∈ l.texts, IsFlat text) ↔
      ∀ place line, Contributes library name source place line →
        ∀ rest, GoesOn line.text rest → IsFlat rest) ∧
    ∀ library' name', library' name' = some l.texts →
      ((∃ l', Listing.load library' name' = .ok l' ∧ l'.texts = l.texts) ↔
        ∀ text ∈ l.texts, IsFlat text) := by
  refine ⟨forall_isFlat_iff hsource hload, fun library' name' hsource' => ?_⟩
  rw [← flatMap_becomes_eq_self_iff library' name']
  constructor
  · rintro ⟨l', hload', hsame⟩
    rw [← Listing.texts_of_load hsource' hload', hsame]
  · refine Listing.exists_load hsource' fun text htext => ?_
    obtain ⟨line, hline, rfl⟩ := List.mem_map.mp htext
    obtain ⟨-, -, -, hkinds, -⟩ := Listing.load_eq_ok_iff.mp hload
    exact ⟨line.kind, hkinds line hline⟩

end Reloading

/-- A script with two closing braces on a line, and one that it includes with an `else` behind a
brace. -/
def campLibrary : Library :=
  fun name =>
    if name = "camp" then some ["if_0 \x7b", "include fire", "  \x7d \x7d", "echo out"]
    else if name = "fire" then some ["if_0 \x7b", "\x7d else \x7b"]
    else none

/-- The lines of that script once it is loaded. -/
def campTexts : List Text :=
  ["if_0 \x7b", "if_0 \x7b", "\x7d", "else \x7b", "\x7d", "\x7d", "echo out"]

/-- The listing of a camp is flat and is reloaded as it is. -/
theorem flat_iff_nothing_hidden_camp :
    ∃ source l, campLibrary "camp" = some source ∧ Listing.load campLibrary "camp" = .ok l ∧
      l.texts = campTexts ∧
      (∀ place line, Contributes campLibrary "camp" source place line →
        ∀ rest, GoesOn line.text rest → IsFlat rest) ∧
      ∀ library' name', library' name' = some l.texts →
        ∃ l', Listing.load library' name' = .ok l' ∧ l'.texts = l.texts := by
  obtain ⟨l, hload, htexts⟩ :
      ∃ l, Listing.load campLibrary "camp" = .ok l ∧ l.texts = campTexts :=
    ⟨_, rfl, by decide +kernel⟩
  have hflat : ∀ text ∈ l.texts, IsFlat text := by
    rw [htexts]
    decide +kernel
  obtain ⟨hhidden, hagain⟩ := flat_iff_nothing_hidden rfl hload
  exact ⟨_, l, rfl, hload, htexts, hhidden.mp hflat,
    fun library' name' hsource' => (hagain library' name' hsource').mpr hflat⟩

/-- A script with two closing braces before an `else`. -/
def gateLibrary : Library :=
  fun _ => some ["\x7d \x7d else echo a"]

/-- A listing does not always have flat lines only, nor does it always stay when its lines are
loaded once more: what stands behind the first closing brace of a line is not cut at the second. -/
theorem not_always_flat :
    ¬∀ library name l, Listing.load library name = .ok l →
      (∀ text ∈ l.texts, IsFlat text) ∧
        ∀ library' name', library' name' = some l.texts →
          ∃ l', Listing.load library' name' = .ok l' ∧ l'.texts = l.texts := by
  intro h
  obtain ⟨l, hload, htexts⟩ : ∃ l, Listing.load gateLibrary "gate" = .ok l ∧
      l.texts = ["\x7d", "\x7d else echo a"] := ⟨_, rfl, by decide +kernel⟩
  obtain ⟨hflat, -⟩ := h gateLibrary "gate" l hload
  have hbraces : IsFlat "\x7d else echo a" := hflat _ (by simp [htexts])
  exact absurd hbraces (by decide)

end Script

end Mudline
