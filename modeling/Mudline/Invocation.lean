import Mudline.Text.Basic

/-!
# Invocations

What the program is asked to do is read off its arguments. Flags are single letters and may be
grouped after one dash. A flag that takes a value takes the rest of its group or, at the end of the
group, the next argument; the flag for the settings file takes the next argument only if that is no
flag. After `--` no argument is a flag.
-/

namespace Mudline

/-- Where the settings come from. -/
inductive Invocation.Source
  /-- From the first of the usual files that there is. -/
  | search
  /-- From nowhere. -/
  | skip
  /-- From a file. -/
  | file (path : Text)
  deriving DecidableEq, Repr

/-- What the game's stream is read from. -/
inductive Invocation.Input
  /-- From the standard input. -/
  | standard
  /-- From a file. -/
  | file (path : Text)
  deriving DecidableEq, Repr

/-- What the program is asked to do. -/
structure Invocation where
  /-- The folder of scripts, if it is not the one that is set. -/
  scriptsDir : Option Text := none
  /-- Where the settings come from. -/
  source : Invocation.Source := .search
  /-- The script to start. -/
  script : Option Text := none
  /-- The arguments of the script. -/
  scriptArgs : List Text := []
  /-- Whether to show more than texts. -/
  verbose : Bool := false
  /-- What is read. -/
  input : Invocation.Input := .standard
  deriving DecidableEq, Repr

namespace Invocation

/-- Why arguments cannot be followed. -/
inductive UsageError
  /-- A flag lacks its value. -/
  | missingValue (flag : Char)
  /-- There is no such flag. -/
  | unknownFlag (flag : Char)
  /-- There is more than one input. -/
  | tooManyInputs (n : Nat)
  /-- There are arguments for a script, but no script. -/
  | argsWithoutScript
  deriving DecidableEq, Repr

/-- The report of an error. -/
def UsageError.message : UsageError → Text
  | missingValue flag => ['-', flag] ++ " requires an argument".toList
  | unknownFlag flag => "unknown option: -".toList ++ [flag]
  | tooManyInputs n => "too many arguments (".toList ++ Text.ofNat n ++ [')']
  | argsWithoutScript => "-a given without -r"

/-- The flags that always take a value. -/
inductive ValueFlag
  | scriptsDir
  | script
  | scriptArg
  deriving DecidableEq, Repr

/-- The letter of a flag. -/
def ValueFlag.letter : ValueFlag → Char
  | scriptsDir => 's'
  | script => 'r'
  | scriptArg => 'a'

/-- The flag that a letter stands for. -/
def ValueFlag.ofLetter? (c : Char) : Option ValueFlag :=
  [scriptsDir, script, scriptArg].find? (·.letter == c)

/-- Takes over the value of a flag. -/
def setValue (inv : Invocation) (value : Text) : ValueFlag → Invocation
  | .scriptsDir => { inv with scriptsDir := some value }
  | .script => { inv with script := some value }
  | .scriptArg => { inv with scriptArgs := inv.scriptArgs ++ [value] }

/-- What the flags so far want from the next argument. -/
inductive Wanted
  /-- Nothing. -/
  | nothing
  /-- The value of a flag. -/
  | value (flag : ValueFlag)
  /-- The name of the settings file, unless the next argument is a flag. -/
  | settingsFile
  deriving DecidableEq, Repr

/-- Reads a group of flags. -/
def readGroup (inv : Invocation) : Text → Except UsageError (Invocation × Wanted)
  | [] => .ok (inv, .nothing)
  | 'v' :: rest => { inv with verbose := true }.readGroup rest
  | ['f'] => .ok ({ inv with source := .skip }, .settingsFile)
  | 'f' :: rest => .ok ({ inv with source := .file rest }, .nothing)
  | c :: rest =>
    match ValueFlag.ofLetter? c with
    | none => .error (.unknownFlag c)
    | some flag =>
      .ok (if rest.isEmpty then (inv, .value flag) else (inv.setValue rest flag, .nothing))

/-- Reads arguments, and collects those that are no flags. -/
def readArgs (inv : Invocation) (wanted : Wanted) :
    List Text → Except UsageError (Invocation × List Text)
  | [] =>
    match wanted with
    | .value flag => .error (.missingValue flag.letter)
    | _ => .ok (inv, [])
  | arg :: rest =>
    match wanted with
    | .value flag => (inv.setValue arg flag).readArgs .nothing rest
    | _ =>
      if arg == "--" then .ok (inv, rest)
      else match arg with
        | '-' :: c :: group => do
          let (inv, wanted) ← inv.readGroup (c :: group)
          inv.readArgs wanted rest
        | _ =>
          if wanted == .settingsFile && arg != "-" then
            { inv with source := .file arg }.readArgs .nothing rest
          else (inv.readArgs .nothing rest).map fun (inv, inputs) => (inv, arg :: inputs)

/-- The input that is named, where a dash names the standard input. -/
def chooseInput (inv : Invocation) : List Text → Except UsageError Invocation
  | [] => .ok inv
  | [path] => .ok (if path == "-" then inv else { inv with input := .file path })
  | inputs => .error (.tooManyInputs inputs.length)

/-- Reads the arguments of the program. -/
def read (args : List Text) : Except UsageError Invocation := do
  let (inv, inputs) ← ({} : Invocation).readArgs .nothing args
  let inv ← inv.chooseInput inputs
  if !inv.scriptArgs.isEmpty && inv.script.isNone then .error .argsWithoutScript else .ok inv

end Invocation

end Mudline
