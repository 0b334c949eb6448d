import Mudline.Settings.Basic

/-!
# Settings files

A settings file has one directive a line: `set` with a key and a value changes a setting, `var` with
a name and a value sets a variable. Comments and lines that begin with any other word are passed
over. A line with a mistake is reported and changes nothing; the lines after it count all the same.
-/

namespace Mudline.Configuration

/-- What a line asks for. -/
inductive Directive
  | scriptsDir (dir : Text)
  | scriptExtension (extension : Text)
  | ignored (expression : Option Text)
  | maxPasses (n : Nat)
  /-- The pause in seconds, none below zero. -/
  | pauseDefault (seconds : Float)
  | variable (name value : Text)

/-- What is wrong with a line. -/
inductive Mistake
  /-- There is no key. -/
  | missingKey
  /-- There is no name. -/
  | missingName
  /-- There is no such key. -/
  | unknownKey (key : Text)
  /-- The value is no expression. -/
  | badExpression (e : Regex.Error)
  /-- The value is no positive whole number. -/
  | badCount (value : Text)
  /-- The value is no number of seconds. -/
  | badSeconds (value : Text)
  deriving DecidableEq, Repr

/-- The report of a mistake. -/
def Mistake.message : Mistake → Text
  | missingKey => "set: missing key"
  | missingName => "var: missing name"
  | unknownKey key => "set: unknown setting ".toList ++ Text.quoted key
  | badExpression e => "monster_ignore: ".toList ++ e.message
  | badCount value => "max_expand_passes: not a positive integer: ".toList ++ value
  | badSeconds value => "pause_default: not a number of seconds: ".toList ++ value

/-- A mistake and the number of its line, from 1 on. -/
structure LineMistake where
  /-- The number of the line. -/
  line : Nat
  /-- What is wrong with it. -/
  mistake : Mistake
  deriving DecidableEq, Repr

/-- The report of a mistake with its line. -/
def LineMistake.message (m : LineMistake) : Text :=
  "line ".toList ++ Text.ofNat m.line ++ ": ".toList ++ m.mistake.message

/-- Cuts a text at its first ASCII blank, which is dropped. -/
def splitBlank (t : Text) : Text × Text :=
  (t.takeWhile (!Text.isAsciiBlank ·), (t.dropWhile (!Text.isAsciiBlank ·)).drop 1)

/-- The characters that a key ends at. -/
def endsKey (c : Char) : Bool :=
  c == '=' || Text.isAsciiBlank c

/-- Cuts a text into a key and a value, with an equals sign or blanks between them. -/
def splitKey? (t : Text) : Option (Text × Text) :=
  let key := t.takeWhile (!endsKey ·)
  let rest := t.dropWhile (!endsKey ·)
  if key.isEmpty then none
  else some (key, Text.trim (if rest.head? == some '=' then rest.drop 1 else rest))

/-- Reads an expression; without one, nothing is left out. -/
def readIgnored (value : Text) : Except Mistake Directive :=
  if value.isEmpty then .ok (.ignored none)
  else match Regex.compile value with
    | .ok _ => .ok (.ignored (some value))
    | .error e => .error (.badExpression e)

/-- Reads a number of rounds. -/
def readMaxPasses (value : Text) : Except Mistake Directive :=
  match (Text.readWord? value).filter (0 < ·) with
  | some n => .ok (.maxPasses n)
  | none => .error (.badCount value)

/-- Reads a number of seconds. -/
def readPauseDefault (value : Text) : Except Mistake Directive :=
  match (Number.readDouble? value).filter fun x => x.isFinite && 0.0 ≤ x with
  | some seconds => .ok (.pauseDefault seconds)
  | none => .error (.badSeconds value)

/-- The keys, each with the reader of its value. -/
def readers : List (Text × (Text → Except Mistake Directive)) :=
  [("scripts_dir", fun value => .ok (.scriptsDir value)),
   ("script_extension", fun value => .ok (.scriptExtension (value.dropWhile (· == '.')))),
   ("monster_ignore", readIgnored),
   ("max_expand_passes", readMaxPasses),
   ("pause_default", readPauseDefault)]

/-- Reads what follows `set`. -/
def readSet (args : Text) : Except Mistake Directive :=
  match splitKey? args with
  | none => .error .missingKey
  | some (key, value) =>
    match readers.lookup key with
    | some reader => reader value
    | none => .error (.unknownKey key)

/-- Reads what follows `var`. -/
def readVariable (args : Text) : Except Mistake Directive :=
  let (name, value) := splitBlank args
  if name.isEmpty then .error .missingName else .ok (.variable name (Text.trim value))

/-- Whether a trimmed line is a comment. -/
def isComment (line : Text) : Bool :=
  line.head? == some ';' || line.head? == some '#'

/-- Reads a line. Most lines ask for nothing. -/
def readLine (raw : Text) : Option (Except Mistake Directive) :=
  let line := Text.trim raw
  let (word, args) := splitBlank line
  if isComment line then none
  else if word == "set" then some (readSet (Text.trim args))
  else if word == "var" then some (readVariable (Text.trim args))
  else none

/-- Does what a directive asks for. A pause must be a duration. -/
def apply (c : Configuration) : Directive → Except Fault Configuration
  | .scriptsDir dir => .ok { c with settings := { c.settings with scriptsDir := dir } }
  | .scriptExtension e => .ok { c with settings := { c.settings with scriptExtension := e } }
  | .ignored e => .ok { c with settings := { c.settings with ignored := e } }
  | .maxPasses n => .ok { c with settings := { c.settings with maxPasses := n } }
  | .pauseDefault seconds =>
    match Duration.ofSeconds? seconds with
    | some d => .ok { c with settings := { c.settings with pauseDefault := d } }
    | none => .error .durationRange
  | .variable name value => .ok { c with presets := c.presets.set name value }

/-- Follows lines from the top, the first of which has the given number, and collects the
mistakes. -/
def loadLines (c : Configuration) (number : Nat) :
    List Text → Except Fault (Configuration × List LineMistake)
  | [] => .ok (c, [])
  | line :: rest =>
    match readLine line with
    | none => c.loadLines (number + 1) rest
    | some (.error m) =>
      (c.loadLines (number + 1) rest).map fun (c, mistakes) => (c, ⟨number, m⟩ :: mistakes)
    | some (.ok d) =>
      match c.apply d with
      | .ok c => c.loadLines (number + 1) rest
      | .error f => .error f

/-- Follows a settings file on top of what is set already. -/
def loadOver (c : Configuration) (t : Text) : Except Fault (Configuration × List LineMistake) :=
  c.loadLines 1 (Text.lines t)

/-- Follows a settings file. -/
def load (t : Text) : Except Fault (Configuration × List LineMistake) :=
  loadOver {} t

end Mudline.Configuration
