import Mudline.Proofs.Script.Provenance
import Mudline.Script.Folder

/-!
# Names of one file

Scripts are kept in files, and a file has several names: with and without its extension, and with
separators and points in the path that mean nothing. Loading drops a line by which a script includes
itself, but it knows the script by the name under which it is loaded, not by its file. This file
says what a script has of its own lines when it includes its file under another name.
-/

namespace Mudline

/-- The parts of a path between its separators. An empty part means nothing, nor does a point,
unless the path starts with it. -/
def pathParts (path : Text) : List Text :=
  match Text.splitOn '/' path with
  | [] => []
  | first :: rest =>
    [first].filter (!·.isEmpty) ++ rest.filter fun part => !part.isEmpty && part != ['.']

/-- Whether two paths are the same but for what means nothing in them. -/
def samePath (p q : Text) : Bool :=
  (p.head? == some '/') == (q.head? == some '/') && pathParts p == pathParts q

/-- A path is the same as itself. -/
@[simp] theorem samePath_self (p : Text) : samePath p p = true := by
  simp [samePath]

/-- The bytes of a text are read as that text. -/
theorem decode_toUTF8 (s : String) : decode s.toUTF8 = .ok s.toList := by
  have hvalid : String.fromUTF8? s.toUTF8 = some s := dif_pos s.isValidUTF8
  rw [decode, hvalid]

namespace Script

namespace Folder

variable {f : Folder} {files : Text → Except FileError ByteArray} {a b name target : Text}
  {source : List Text} {l : Listing}

/-- Whether two names are those of one file. -/
def sameFile (f : Folder) (a b : Text) : Bool :=
  samePath (f.pathFor a) (f.pathFor b)

/-- A name that carries the extension is the name of the file. -/
theorem fileName_of_carries (h : f.extension = [] ∨ '.' :: f.extension <:+ a) :
    f.fileName a = a := by
  refine if_pos ?_
  simpa [List.isSuffixOf_iff_suffix] using h

/-- A name that lacks the extension is given it. -/
theorem fileName_of_lacks (hextension : f.extension ≠ []) (h : ¬('.' :: f.extension <:+ a)) :
    f.fileName a = a ++ '.' :: f.extension := by
  refine if_neg ?_
  simpa [List.isSuffixOf_iff_suffix] using ⟨hextension, h⟩

/-- Two names are kept under one name of a file exactly if they are the same, or one is the other
with the extension that the other lacks. -/
theorem fileName_eq_iff : f.fileName a = f.fileName b ↔
    a = b ∨ f.extension ≠ [] ∧
      (¬('.' :: f.extension <:+ a) ∧ b = a ++ '.' :: f.extension ∨
        ¬('.' :: f.extension <:+ b) ∧ a = b ++ '.' :: f.extension) := by
  by_cases hnone : f.extension = []
  · rw [fileName_of_carries (.inl hnone), fileName_of_carries (.inl hnone)]
    simp [hnone]
  have hends (t : Text) : '.' :: f.extension <:+ t ++ '.' :: f.extension := List.suffix_append _ _
  by_cases ha : '.' :: f.extension <:+ a
  · by_cases hb : '.' :: f.extension <:+ b
    · rw [fileName_of_carries (.inr ha), fileName_of_carries (.inr hb)]
      simp [ha, hb]
    · rw [fileName_of_carries (.inr ha), fileName_of_lacks hnone hb]
      have hne : a ≠ b := fun h => hb (h ▸ ha)
      simp [ha, hb, hne, hnone]
  · by_cases hb : '.' :: f.extension <:+ b
    · rw [fileName_of_lacks hnone ha, fileName_of_carries (.inr hb)]
      have hne : a ≠ b := fun h => ha (h ▸ hb)
      simp [ha, hb, hne, hnone, eq_comm]
    · rw [fileName_of_lacks hnone ha, fileName_of_lacks hnone hb, List.append_left_inj]
      have hab : b ≠ a ++ '.' :: f.extension := fun h => hb (h ▸ hends a)
      have hba : a ≠ b ++ '.' :: f.extension := fun h => ha (h ▸ hends b)
      simp [hab, hba]

/-- A folder has the scripts whose files are texts. -/
theorem library_eq : f.library files name =
    (((files (f.pathFor name)).bind decode).map Folder.lines).toOption := rfl

/-- What is read of a script depends on the path of its file only. -/
theorem library_congr (h : f.pathFor a = f.pathFor b) : f.library files a = f.library files b := by
  rw [library_eq, library_eq, h]

/-- The lines of a listing that come from the file of a script. -/
def linesOf (f : Folder) (name : Text) (l : Listing) : List SourceLine :=
  (l.lines.map (·.source)).filter fun line => f.sameFile line.file name

end Folder

/-- Parts that agree with others but may be missing make up the same list only if none that counts
is missing. -/
theorem flatMap_eq_flatMap_iff {α β : Type} {u v : α → List β} {xs : List α}
    (h : ∀ x ∈ xs, u x = v x ∨ u x = []) :
    xs.flatMap u = xs.flatMap v ↔ ∀ x ∈ xs, u x = v x := by
  have hshort {ys : List α} (hys : ∀ x ∈ ys, u x = v x ∨ u x = []) :
      (ys.flatMap u).length ≤ (ys.flatMap v).length := by
    induction ys with
    | nil => exact le_rfl
    | cons x ys ih =>
      obtain ⟨hx, hrest⟩ := List.forall_mem_cons.mp hys
      have hlater := ih hrest
      rcases hx with hsame | hnone
      · simp only [List.flatMap_cons, List.length_append, hsame]
        omega
      · simp only [List.flatMap_cons, List.length_append, hnone, List.length_nil]
        omega
  refine ⟨fun heq => ?_, fun hall => ?_⟩
  · induction xs with
    | nil => exact List.forall_mem_nil _
    | cons x xs ih =>
      obtain ⟨hx, hrest⟩ := List.forall_mem_cons.mp h
      rw [List.flatMap_cons, List.flatMap_cons] at heq
      have hsame : u x = v x := by
        rcases hx with hsame | hnone
        · exact hsame
        · have hlength := congrArg List.length heq
          have hlater := hshort hrest
          simp only [List.length_append, hnone, List.length_nil] at hlength
          rw [hnone, eq_comm, List.eq_nil_iff_length_eq_zero]
          omega
      rw [hsame, List.append_cancel_left_eq] at heq
      exact List.forall_mem_cons.mpr ⟨hsame, ih hrest heq⟩
  · exact List.flatMap_congr hall

section Own

variable {f : Folder} {files : Text → Except FileError ByteArray} {name target : Text}
  {source : List Text} {l : Listing}

/-- What is left of some entries is what each of them gives if it is kept. -/
theorem flatMap_filter {α β : Type} (keep : α → Bool) (g : α → List β) (xs : List α) :
    (xs.filter keep).flatMap g = xs.flatMap fun x => if keep x then g x else [] := by
  induction xs with
  | nil => rfl
  | cons x xs ih =>
    rw [List.filter_cons, List.flatMap_cons, ← ih]
    split <;> rfl

/-- A line is split into something. -/
theorem split_ne_nil (line : SourceLine) : line.split ≠ [] := by
  rw [SourceLine.split]
  split <;> exact List.cons_ne_nil _ _

/-- A line and what it is cut into come from one file. -/
theorem filter_split (keep : Text → Bool) (line : SourceLine) :
    line.split.filter (fun part => keep part.file) = if keep line.file then line.split else [] := by
  rw [SourceLine.split]
  cases splitClosing? line.text <;> cases hkeep : keep line.file <;> simp [hkeep]

/-- The lines of a file tell its name. -/
theorem file_of_mem_numbered {file : Text} {lines : List Text} {line : SourceLine}
    (h : line ∈ numbered file lines) : line.file = file := by
  obtain ⟨i, text, -, rfl⟩ := mem_numbered_iff.mp h
  rfl

/-- The lines of a listing that come from the own file are those that the lines of the script
contribute from there. -/
theorem linesOf_eq {library : Library} (hsource : library name = some source)
    (hload : Listing.load library name = .ok l) :
    f.linesOf name l = (numbered name source).flatMap fun line =>
      ((contributed library name line).filter fun inner => f.sameFile inner.file name).flatMap
        (·.split) := by
  obtain ⟨_, hother, hlines, -⟩ := Listing.load_eq_ok_iff.mp hload
  obtain rfl := Option.some.inj (hsource.symm.trans hother)
  simp only [Folder.linesOf, hlines, sourceLines, List.flatMap_assoc, List.filter_flatMap,
    flatMap_filter, filter_split fun file => f.sameFile file name]

/-- All that an included script contributes comes from the file of that script. -/
theorem filter_contributed_of_includes {library : Library} {line : SourceLine}
    (h : Includes line.text target) :
    ((contributed library name line).filter fun inner => f.sameFile inner.file name) =
      if f.sameFile target name then contributed library name line else [] := by
  have hfile : ∀ inner ∈ contributed library name line, inner.file = target := by
    intro inner hinner
    rw [contributed_of_includes h] at hinner
    split at hinner
    · cases hinner
    · exact file_of_mem_numbered (mem_included_iff.mp hinner).1
  rw [List.filter_congr fun inner hinner => congrArg (f.sameFile · name) (hfile inner hinner)]
  cases f.sameFile target name <;> simp

/-- The lines of the own file come once and in order exactly if no line that includes it, under
whatever name, contributes anything. -/
theorem linesOf_eq_iff {library : Library} (hsource : library name = some source)
    (hload : Listing.load library name = .ok l) :
    f.linesOf name l = (included name source).flatMap (·.split) ↔
      ∀ line ∈ numbered name source, ∀ target, Includes line.text target →
        f.sameFile target name = true → contributed library name line = [] := by
  have hplain {line : SourceLine} (hline : line ∈ numbered name source)
      (h : ∀ target, ¬Includes line.text target) :
      (contributed library name line).filter (fun inner => f.sameFile inner.file name) =
        [line] := by
    have hself : f.sameFile line.file name = true := by
      rw [file_of_mem_numbered hline]
      exact samePath_self _
    rw [contributed_of_plain h, List.filter_singleton, hself]
    rfl
  rw [linesOf_eq hsource hload, included, flatMap_filter, eq_comm, flatMap_eq_flatMap_iff]
  · refine forall₂_congr fun line hline => ?_
    cases htarget : includeTarget? line.text with
    | none =>
      have hnone := includeTarget?_eq_none_iff.mp htarget
      simp [hplain hline hnone, hnone]
    | some target =>
      have hincludes := includeTarget?_eq_some_iff.mp htarget
      have honly (other : Text) : Includes line.text other ↔ other = target := by
        rw [← includeTarget?_eq_some_iff, htarget, Option.some.injEq, eq_comm]
      have hnothing (lines : List SourceLine) : [] = lines.flatMap (·.split) ↔ lines = [] := by
        rw [eq_comm, List.flatMap_eq_nil_iff, List.eq_nil_iff_forall_not_mem]
        exact forall₂_congr fun inner _ => iff_false_intro (split_ne_nil inner)
      rw [filter_contributed_of_includes hincludes]
      simp only [Option.isNone_some, Bool.false_eq_true, if_false, hnothing, honly, forall_eq]
      cases f.sameFile target name <;> simp
  · intro line hline
    cases htarget : includeTarget? line.text with
    | none => simp [hplain hline (includeTarget?_eq_none_iff.mp htarget)]
    | some target => exact .inr rfl

/-- A line that includes the own file under whatever name contributes nothing, and so the lines of
the own file come once, exactly if each such line spells the name as the script was loaded, or finds
nothing to contribute. Under another name with the same path the script contributes all its lines
once more. -/
theorem own_lines_once_iff (hsource : f.library files name = some source)
    (hload : Listing.load (f.library files) name = .ok l) :
    ((∀ line ∈ numbered name source, ∀ target, Includes line.text target →
        f.sameFile target name = true → contributed (f.library files) name line = []) ∧
      f.linesOf name l = (included name source).flatMap (·.split) ↔
      ∀ text ∈ source, ∀ target, Includes text target → f.sameFile target name = true →
        target = name ∨ included target ((f.library files target).getD []) = []) ∧
    ∀ line ∈ numbered name source, ∀ target, Includes line.text target →
      f.pathFor target = f.pathFor name → target ≠ name →
        contributed (f.library files) name line = included target source := by
  constructor
  · rw [linesOf_eq_iff hsource hload, and_self]
    have htexts (p : Text → Prop) : (∀ line ∈ numbered name source, p line.text) ↔
        ∀ text ∈ source, p text := by
      conv_rhs => rw [← map_text_numbered name source, List.forall_mem_map]
    rw [← htexts]
    refine forall₂_congr fun line _ => forall_congr' fun target => forall₂_congr fun h _ => ?_
    rw [contributed_of_includes h]
    by_cases hname : target = name <;> simp [hname]
  · intro line _ target h hpath hname
    rw [contributed_of_includes h, if_neg hname, Folder.library_congr hpath, hsource]
    rfl

end Own

/-- The folder of scripts. -/
def huntFolder : Folder := ⟨"scripts", "cmd"⟩

/-- The one script in it includes its own file by the name with the extension. -/
def huntLines : List Text :=
  ["include hunt.cmd", "echo hunting"]

/-- The files of the folder. -/
def huntFiles : Text → Except FileError ByteArray :=
  fun path =>
    if path = "scripts/hunt.cmd" then .ok "include hunt.cmd\necho hunting".toUTF8
    else .error .notFound

/-- The folder of the hunt holds one file. -/
theorem library_hunt : huntFolder.library huntFiles =
    fun name => if huntFolder.pathFor name = "scripts/hunt.cmd" then some huntLines else none := by
  funext name
  rw [Folder.library_eq, huntFiles]
  split
  · have hlines : Folder.lines "include hunt.cmd\necho hunting" = huntLines := by decide +kernel
    simp only [Except.bind, decode_toUTF8, Except.map, hlines]
    rfl
  · rfl

/-- Loaded by the name that it includes, the script has its line once. -/
theorem own_lines_once_iff_hunt :
    ∃ l, huntFolder.library huntFiles "hunt.cmd" = some huntLines ∧
      Listing.load (huntFolder.library huntFiles) "hunt.cmd" = .ok l ∧
      huntFolder.linesOf "hunt.cmd" l = [⟨"echo hunting", "hunt.cmd", 2⟩] ∧
      contributed (huntFolder.library huntFiles) "hunt.cmd" ⟨"include hunt.cmd", "hunt.cmd", 1⟩ =
        [] := by
  have hsource : huntFolder.library huntFiles "hunt.cmd" = some huntLines := by
    rw [library_hunt]
    exact if_pos (by decide)
  obtain ⟨l, hload⟩ : ∃ l, Listing.load (huntFolder.library huntFiles) "hunt.cmd" = .ok l := by
    rw [library_hunt]
    exact ⟨_, rfl⟩
  have htargets : ∀ text ∈ huntLines, ∀ target, Includes text target → target = "hunt.cmd" := by
    intro text htext target hincludes
    rw [← includeTarget?_eq_some_iff] at hincludes
    rcases List.mem_pair.mp htext with rfl | rfl
    · have hfirst : includeTarget? "include hunt.cmd" = some "hunt.cmd" := by decide
      exact Option.some.inj (hincludes.symm.trans hfirst)
    · have hsecond : includeTarget? "echo hunting" = none := by decide
      rw [hsecond] at hincludes
      cases hincludes
  obtain ⟨hnothing, honce⟩ := (own_lines_once_iff hsource hload).1.mpr
    fun text htext target hincludes _ => .inl (htargets text htext target hincludes)
  have hincludes : Includes "include hunt.cmd" "hunt.cmd" :=
    includeTarget?_eq_some_iff.mp (by decide)
  have hline : (⟨"include hunt.cmd", "hunt.cmd", 1⟩ : SourceLine) ∈ numbered "hunt.cmd" huntLines :=
    List.mem_cons_self
  exact ⟨l, hsource, hload, honce, hnothing _ hline _ hincludes (by decide)⟩

/-- A script does not always have its lines once: loaded by the name without the extension, it
includes its own file by the other name. -/
theorem not_always_once :
    ¬∀ (f : Folder) (files : Text → Except FileError ByteArray) (name : Text) (source : List Text)
      (l : Listing), f.library files name = some source →
        Listing.load (f.library files) name = .ok l →
        (∀ line ∈ numbered name source, ∀ target, Includes line.text target →
          f.sameFile target name = true → contributed (f.library files) name line = []) ∧
        f.linesOf name l = (included name source).flatMap (·.split) := by
  intro h
  obtain ⟨l, hload, hlines⟩ : ∃ l, Listing.load (huntFolder.library huntFiles) "hunt" = .ok l ∧
      huntFolder.linesOf "hunt" l =
        [⟨"echo hunting", "hunt.cmd", 2⟩, ⟨"echo hunting", "hunt", 2⟩] := by
    rw [library_hunt]
    exact ⟨_, rfl, by decide +kernel⟩
  have hsource : huntFolder.library huntFiles "hunt" = some huntLines := by
    rw [library_hunt]
    exact if_pos (by decide)
  obtain ⟨-, honce⟩ := h huntFolder huntFiles "hunt" huntLines l hsource hload
  rw [hlines] at honce
  exact absurd honce (by decide +kernel)

end Script

end Mudline
