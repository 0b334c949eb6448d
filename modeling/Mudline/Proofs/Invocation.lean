import Mathlib.Data.List.Induction
import Mudline.Invocation

/-!
# Invocations that are written out

What the program is asked to do can be written as arguments in many ways: its flags may come in any
order, a flag that takes a value may have it in the same argument or in the next, and the flag that
shows more than texts may stand before another in one group. Behind two dashes stands the input.
However it is written, the same is read.
-/

namespace Mudline.Invocation

/-- What one flag asks for, with its value. -/
inductive Choice
  /-- To show more than texts. -/
  | verbose
  /-- To take the settings from nowhere. -/
  | noSettings
  /-- To take the settings from a file. -/
  | settingsFile (path : Text)
  /-- What a flag says that always takes a value. -/
  | value (flag : ValueFlag) (value : Text)
  deriving DecidableEq, Repr

/-- Where the settings come from by a choice, if it says so. -/
def Choice.source? : Choice → Option Source
  | noSettings => some .skip
  | settingsFile path => some (.file path)
  | _ => none

/-- The value that a choice gives to a flag, if it does. -/
def Choice.valueOf? (flag : ValueFlag) : Choice → Option Text
  | value other t => if other = flag then some t else none
  | _ => none

/-- The choices that make up an invocation, in any order: each once, the arguments of the script in
theirs. To show more than texts may be asked for more than once. -/
structure Chooses (inv : Invocation) (choices : List Choice) : Prop where
  /-- More than texts is shown. -/
  verbose : .verbose ∈ choices ↔ inv.verbose = true
  /-- Where the settings come from is said, unless they are searched for. -/
  source : choices.filterMap Choice.source? = if inv.source = .search then [] else [inv.source]
  /-- The folder of scripts is said, if there is one. -/
  scriptsDir : choices.filterMap (Choice.valueOf? .scriptsDir) = inv.scriptsDir.toList
  /-- The script is said, if there is one. -/
  script : choices.filterMap (Choice.valueOf? .script) = inv.script.toList
  /-- The arguments of the script are said. -/
  scriptArgs : choices.filterMap (Choice.valueOf? .scriptArg) = inv.scriptArgs

/-- A group of flags, with the argument for its last flag if that stands by itself. -/
inductive Group : List Choice → List Text → Prop
  /-- The flag that shows more than texts. -/
  | verbose : Group [.verbose] ["-v"]
  /-- The flag for the settings file, without a file. -/
  | noSettings : Group [.noSettings] ["-f"]
  /-- The settings file stands in the same argument. -/
  | fileAttached {path : Text} (h : path ≠ []) : Group [.settingsFile path] ['-' :: 'f' :: path]
  /-- The settings file stands by itself, and does not look like a flag. -/
  | fileBehind {path : Text} (h : path.head? ≠ some '-') : Group [.settingsFile path] ["-f", path]
  /-- The value stands in the same argument. -/
  | valueAttached (flag : ValueFlag) {value : Text} (h : value ≠ []) :
      Group [.value flag value] ['-' :: flag.letter :: value]
  /-- The value stands by itself. -/
  | valueBehind (flag : ValueFlag) (value : Text) :
      Group [.value flag value] [['-', flag.letter], value]
  /-- The flag that shows more than texts stands before the others of a group. -/
  | behindVerbose {choices : List Choice} {letters : Text} {rest : List Text}
      (h : Group choices (('-' :: letters) :: rest)) :
      Group (.verbose :: choices) (('-' :: 'v' :: letters) :: rest)

/-- Groups of flags, one behind the other. -/
inductive Groups : List Choice → List Text → Prop
  /-- There is no group. -/
  | nil : Groups [] []
  /-- A group stands before others. -/
  | cons {choices others : List Choice} {args rest : List Text} (h : Group choices args)
      (hrest : Groups others rest) : Groups (choices ++ others) (args ++ rest)

/-- How the input is named behind the flags. -/
inductive Input.Named : Input → List Text → Prop
  /-- Nothing needs to stand there for the standard input. -/
  | nothing : Named .standard []
  /-- Nor behind two dashes. -/
  | dashes : Named .standard ["--"]
  /-- The name of a file stands behind two dashes. -/
  | file (path : Text) : Named (.file path) ["--", path]

/-- The arguments that an invocation may be written as. -/
def Renders (inv : Invocation) (args : List Text) : Prop :=
  ∃ choices groups named, inv.Chooses choices ∧ Groups choices groups ∧ inv.input.Named named ∧
    args = groups ++ named

/-- The invocation after a choice. -/
def choose (inv : Invocation) : Choice → Invocation
  | .verbose => { inv with verbose := true }
  | .noSettings => { inv with source := .skip }
  | .settingsFile path => { inv with source := .file path }
  | .value flag value => inv.setValue value flag

/-- That the next argument, if there is one, cannot be taken for the name of a settings file. -/
def StartsDashed (args : List Text) : Prop :=
  ∀ arg ∈ args.head?, arg.head? = some '-'

/-- A flag with a value takes the rest of its group or the next argument. -/
theorem readGroup_value (inv : Invocation) (flag : ValueFlag) (rest : Text) :
    inv.readGroup (flag.letter :: rest) =
      .ok (if rest.isEmpty then (inv, .value flag) else (inv.setValue rest flag, .nothing)) := by
  cases flag <;> rfl

/-- An argument that begins with a hyphen is not taken for the settings. -/
theorem readArgs_dashed {args : List Text} (h : StartsDashed args) (inv : Invocation) :
    inv.readArgs .settingsFile args = inv.readArgs .nothing args := by
  cases args with
  | nil => rfl
  | cons arg rest =>
    obtain ⟨tail, rfl⟩ := List.head?_eq_some_iff.mp (h arg rfl)
    cases tail with
    | nil => rfl
    | cons c tail => rfl

/-- A group of flags is read before the arguments that follow. -/
theorem readArgs_group {c : Char} (h : c ≠ '-') (inv : Invocation) (letters : Text)
    (rest : List Text) : inv.readArgs .nothing (('-' :: c :: letters) :: rest) =
      (inv.readGroup (c :: letters)).bind fun read => read.1.readArgs read.2 rest := by
  have hdashes : ('-' :: c :: letters == "--".toList) = false := by simp [h]
  simp only [readArgs, hdashes]
  rfl

/-- A group begins with a flag. -/
theorem Group.exists_flag {choices : List Choice} {args : List Text} (h : Group choices args) :
    ∃ c letters rest, c ≠ '-' ∧ args = ('-' :: c :: letters) :: rest := by
  cases h with
  | verbose => exact ⟨'v', [], [], by decide, rfl⟩
  | noSettings => exact ⟨'f', [], [], by decide, rfl⟩
  | fileAttached _ => exact ⟨'f', _, [], by decide, rfl⟩
  | fileBehind _ => exact ⟨'f', [], _, by decide, rfl⟩
  | valueAttached flag _ => exact ⟨flag.letter, _, [], by cases flag <;> decide, rfl⟩
  | valueBehind flag _ => exact ⟨flag.letter, [], _, by cases flag <;> decide, rfl⟩
  | behindVerbose _ => exact ⟨'v', _, _, by decide, rfl⟩

/-- A group is read as its choices, if the next argument is not taken for a settings file. -/
theorem Group.readArgs {choices : List Choice} {args : List Text} (h : Group choices args)
    (inv : Invocation) {next : List Text} (hnext : StartsDashed next) :
    inv.readArgs .nothing (args ++ next) = (choices.foldl choose inv).readArgs .nothing next := by
  induction h generalizing inv with
  | verbose => rfl
  | noSettings => exact readArgs_dashed hnext { inv with source := .skip }
  | @fileAttached path hpath =>
    obtain ⟨c, path, rfl⟩ := List.exists_cons_of_ne_nil hpath
    rfl
  | @fileBehind path hpath =>
    have hfile : { inv with source := .skip }.readArgs .settingsFile (path :: next) =
        { inv with source := .file path }.readArgs .nothing next := by
      cases path with
      | nil => rfl
      | cons c path =>
        have hc : c ≠ '-' := by simpa using hpath
        simp [Invocation.readArgs, hc]
    exact hfile
  | @valueAttached flag value hvalue =>
    have hletter : flag.letter ≠ '-' := by cases flag <;> decide
    have hempty : value.isEmpty = false := by simpa using hvalue
    rw [List.singleton_append, readArgs_group hletter, readGroup_value, hempty]
    rfl
  | valueBehind flag value =>
    have hletter : flag.letter ≠ '-' := by cases flag <;> decide
    rw [List.cons_append, readArgs_group hletter, readGroup_value]
    rfl
  | @behindVerbose choices letters rest hgroup ih =>
    obtain ⟨c, letters, rest, hc, heq⟩ := hgroup.exists_flag
    obtain ⟨hletters, rfl⟩ := List.cons.inj heq
    obtain rfl := (List.cons.inj hletters).2
    have hshown := ih { inv with verbose := true }
    rw [List.cons_append, readArgs_group hc] at hshown
    rw [List.cons_append, readArgs_group (by decide)]
    exact hshown

/-- Groups are read as their choices. -/
theorem Groups.readArgs {choices : List Choice} {args : List Text} (h : Groups choices args)
    (inv : Invocation) {next : List Text} (hnext : StartsDashed next) :
    inv.readArgs .nothing (args ++ next) = (choices.foldl choose inv).readArgs .nothing next := by
  induction h generalizing inv with
  | nil => rfl
  | @cons choices others args rest hgroup hrest ih =>
    have hdashed : StartsDashed (rest ++ next) := by
      cases hrest with
      | nil => exact hnext
      | cons hfirst _ =>
        obtain ⟨c, letters, more, -, rfl⟩ := hfirst.exists_flag
        rintro arg ⟨⟩
        rfl
    rw [List.append_assoc, hgroup.readArgs inv hdashed, ih, List.foldl_append]

/-- A value that is given later takes the place of one given before, and the arguments of the script
are collected. -/
theorem foldl_choose (inv : Invocation) (choices : List Choice) :
    choices.foldl choose inv =
      { scriptsDir := (choices.filterMap (Choice.valueOf? .scriptsDir)).getLast?.or inv.scriptsDir
        source := (choices.filterMap Choice.source?).getLast?.getD inv.source
        script := (choices.filterMap (Choice.valueOf? .script)).getLast?.or inv.script
        scriptArgs := inv.scriptArgs ++ choices.filterMap (Choice.valueOf? .scriptArg)
        verbose := inv.verbose || decide (.verbose ∈ choices)
        input := inv.input } := by
  induction choices using List.reverseRecOn with
  | nil => simp
  | append_singleton choices choice ih =>
    rw [List.foldl_append, ih]
    cases choice with
    | verbose | noSettings | settingsFile _ =>
      simp [choose, Choice.source?, Choice.valueOf?]
    | value flag value => cases flag <;> simp [choose, setValue, Choice.source?, Choice.valueOf?]

/-- The choices of an invocation add up to it, but for its input. -/
theorem Chooses.foldl_choose {inv : Invocation} {choices : List Choice} (h : Chooses inv choices) :
    choices.foldl choose {} = { inv with input := .standard } := by
  have hverbose : decide (.verbose ∈ choices) = inv.verbose := by
    rw [Bool.eq_iff_iff, decide_eq_true_iff]
    exact h.verbose
  have hsource : (choices.filterMap Choice.source?).getLast?.getD .search = inv.source := by
    rw [h.source]
    split
    · rename_i hsearch
      exact hsearch.symm
    · rfl
  have hlast (o : Option Text) : o.toList.getLast?.or none = o := by cases o <;> rfl
  rw [Invocation.foldl_choose, hsource, h.scriptsDir, h.script, h.scriptArgs, hverbose, hlast,
    hlast]
  rfl

/-- The choice of where the settings come from. -/
def Source.choices : Source → List Choice
  | .search => []
  | .skip => [.noSettings]
  | .file path => [.settingsFile path]

/-- The choices of an invocation in the order in which they are kept. -/
def choices (inv : Invocation) : List Choice :=
  (if inv.verbose then [.verbose] else []) ++ inv.source.choices ++
    inv.scriptsDir.toList.map (.value .scriptsDir) ++ inv.script.toList.map (.value .script) ++
    inv.scriptArgs.map (.value .scriptArg)

/-- An invocation is chosen by its choices. -/
theorem chooses_choices (inv : Invocation) : Chooses inv inv.choices := by
  have hvalues (flag other : ValueFlag) (values : List Text) :
      (values.map (Choice.value other)).filterMap (Choice.valueOf? flag) =
        if other = flag then values else [] := by
    induction values with
    | nil => simp
    | cons t values ih =>
      rw [List.map_cons, List.filterMap_cons, ih]
      by_cases h : other = flag <;> simp [Choice.valueOf?, h]
  have hsources (flag : ValueFlag) (values : List Text) :
      (values.map (Choice.value flag)).filterMap Choice.source? = [] := by
    simp [List.filterMap_eq_nil_iff, Choice.source?]
  obtain ⟨scriptsDir, source, script, scriptArgs, verbose, input⟩ := inv
  constructor <;> cases verbose <;> cases source <;>
    simp [choices, Source.choices, List.filterMap_cons, hvalues, hsources, Choice.valueOf?,
      Choice.source?]

/-- The groups of all choices, each in a group of its own. -/
theorem exists_groups (choices : List Choice) : ∃ args, Groups choices args := by
  induction choices with
  | nil => exact ⟨[], .nil⟩
  | cons choice choices ih =>
    obtain ⟨rest, hrest⟩ := ih
    have hgroup : ∃ args, Group [choice] args := by
      cases choice with
      | verbose => exact ⟨_, .verbose⟩
      | noSettings => exact ⟨_, .noSettings⟩
      | settingsFile path =>
        by_cases hpath : path = []
        · exact ⟨_, .fileBehind (by simp [hpath])⟩
        · exact ⟨_, .fileAttached hpath⟩
      | value flag value => exact ⟨_, .valueBehind flag value⟩
    obtain ⟨args, hargs⟩ := hgroup
    exact ⟨_, .cons hargs hrest⟩

/-- What names an input begins with a hyphen. -/
theorem Input.Named.startsDashed {input : Input} {named : List Text} (h : input.Named named) :
    StartsDashed named := by
  cases h <;> simp [StartsDashed]

/-- The input is read as it is named. -/
theorem Input.Named.readArgs {input : Input} {named : List Text} (h : input.Named named)
    (hinput : input ≠ .file "-") {inv : Invocation} (hstandard : inv.input = .standard) :
    ∃ inputs, inv.readArgs .nothing named = .ok (inv, inputs) ∧
      inv.chooseInput inputs = .ok { inv with input := input } := by
  cases h with
  | nothing | dashes => exact ⟨[], rfl, by rw [← hstandard]; rfl⟩
  | file path =>
    have hpath : (path == "-".toList) = false := by simpa using hinput
    refine ⟨[path], rfl, ?_⟩
    simp only [chooseInput, hpath]
    rfl

/-- An invocation that gives arguments to a script only if there is one, and does not take a dash
for a file, can be written as arguments. However it is written, it is read back. -/
theorem read_rendered {inv : Invocation} (hscript : inv.scriptArgs ≠ [] → inv.script ≠ none)
    (hinput : inv.input ≠ .file "-") :
    (∃ args, inv.Renders args) ∧ ∀ args, inv.Renders args → read args = .ok inv := by
  constructor
  · obtain ⟨groups, hgroups⟩ := exists_groups inv.choices
    have hnamed : ∃ named, inv.input.Named named := by
      cases inv.input with
      | standard => exact ⟨_, .nothing⟩
      | file path => exact ⟨_, .file path⟩
    obtain ⟨named, hnamed⟩ := hnamed
    exact ⟨_, _, groups, named, inv.chooses_choices, hgroups, hnamed, rfl⟩
  · rintro _ ⟨choices, groups, named, hchooses, hgroups, hnamed, rfl⟩
    have hflags := hgroups.readArgs {} hnamed.startsDashed
    rw [hchooses.foldl_choose] at hflags
    have hstandard : { inv with input := .standard }.input = .standard := rfl
    obtain ⟨inputs, hread, hchoose⟩ := hnamed.readArgs hinput hstandard
    have hvalid : (!inv.scriptArgs.isEmpty && inv.script.isNone) = false := by
      cases hempty : inv.scriptArgs.isEmpty with
      | true => rfl
      | false =>
        have hgiven := hscript (by simpa using hempty)
        simpa using Option.isSome_iff_ne_none.mpr hgiven
    simp only [read, hflags, hread, hchoose, bind, Except.bind, hvalid]
    rfl

/-- An invocation with awkward values: a folder, an argument and a file that look like flags, and an
argument that is empty. -/
def huntInvocation : Invocation where
  scriptsDir := some "-"
  source := .file "hunt.cfg"
  script := some "hunt"
  scriptArgs := ["rat", "", "--"]
  verbose := true
  input := .file "-v"

/-- A hunt may be written with its flags grouped, repeated and revoked. -/
theorem renders_hunt : huntInvocation.Renders
    ["-vfhunt.cfg", "-arat", "-a", "", "-s-", "-vr", "hunt", "-a", "--", "--", "-v"] := by
  have hgroups : Groups
      [.verbose, .settingsFile "hunt.cfg", .value .scriptArg "rat", .value .scriptArg [],
        .value .scriptsDir "-", .verbose, .value .script "hunt", .value .scriptArg "--"]
      ["-vfhunt.cfg", "-arat", "-a", "", "-s-", "-vr", "hunt", "-a", "--"] :=
    .cons (.behindVerbose (.fileAttached (by decide))) <|
      .cons (.valueAttached .scriptArg (by decide)) <| .cons (.valueBehind .scriptArg []) <|
        .cons (.valueAttached .scriptsDir (by decide)) <|
          .cons (.behindVerbose (.valueBehind .script "hunt")) <|
            .cons (.valueBehind .scriptArg "--") .nil
  exact ⟨_, _, _, ⟨by decide, by decide, by decide, by decide, by decide⟩, hgroups, .file "-v", rfl⟩

/-- The hunt is read as it was meant, and the arguments of its script are not taken for flags. -/
theorem read_rendered_hunt :
    ((huntInvocation.scriptArgs ≠ [] → huntInvocation.script ≠ none) ∧
        huntInvocation.input ≠ .file "-") ∧
      read ["-vfhunt.cfg", "-arat", "-a", "", "-s-", "-vr", "hunt", "-a", "--", "--", "-v"] =
        .ok huntInvocation :=
  have hscript : huntInvocation.scriptArgs ≠ [] → huntInvocation.script ≠ none := by decide
  have hinput : huntInvocation.input ≠ .file "-" := by decide
  ⟨⟨hscript, hinput⟩, (read_rendered hscript hinput).2 _ renders_hunt⟩

end Mudline.Invocation
