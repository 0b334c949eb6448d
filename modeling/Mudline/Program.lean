import Mudline.File
import Mudline.Invocation
import Mudline.Script.Folder
import Mudline.Session.Basic
import Mudline.Settings.Directive

/-!
# The program

The program replays a stream: it shows the texts of every line of its input, and what the script
says that it was asked to start. Everything here is a function of the arguments, the files and the
input; only the reading and printing itself is left to the outer layer.
-/

namespace Mudline.Program

/-- The name by which the program calls itself. -/
def name : Text := "skein"

/-- How the program is called. -/
def usage : Text :=
  "Usage: ".toList ++ name
    ++ " [-s<dir>] [-f[<file>]] [-r<script>] [-a<arg>]... [-v] [<input>|-]\n".toList

/-- A line on the standard error stream, which begins with the name of the program. -/
def notice (message : Text) : Text :=
  name ++ ": ".toList ++ message ++ ['\n']

/-- Where the user keeps files. -/
structure Folders where
  /-- The home folder. -/
  home : Option Text := none
  /-- The folder for settings, if it is not the usual one in the home folder. -/
  settings : Option Text := none

/-- The settings files that are looked for, in order. -/
def Folders.settingsFiles (f : Folders) : List Text :=
  let file := name ++ ".cfg".toList
  let usual (home : Text) : List Text :=
    let settings := (f.settings.filter (·.head? == some '/')).getD (joinPath home ".config")
    [joinPath home ('.' :: file), joinPath (joinPath settings name) file]
  (f.home.map usual).getD [] ++ [file]

/-- The first of several files that is there, and what reading it yields. -/
def findFile : List Text → Reading (Option (Text × Except FileError Text))
  | [] => return none
  | path :: rest => do
    match ← Reading.text path with
    | .error e => if e.isAbsence then findFile rest else return some (path, .error e)
    | .ok t => return some (path, .ok t)

/-- The settings file and what reading it yields. -/
def readSettings (f : Folders) :
    Invocation.Source → Reading (Option (Text × Except FileError Text))
  | .search => findFile f.settingsFiles
  | .skip => return none
  | .file path => return some (path, ← Reading.text path)

/-- The configuration that a settings file makes, and the notices about it. A file that cannot be
read is as good as none. -/
def configure : Option (Text × Except FileError Text) → Except Fault (Configuration × Text)
  | none => .ok ({}, [])
  | some (path, .error e) => .ok ({}, notice ("warning: ".toList ++ e.report path))
  | some (path, .ok t) =>
    (Configuration.load t).map fun (c, mistakes) =>
      (c, mistakes.flatMap fun m => notice (path ++ ": ".toList ++ m.message))

/-- The configuration with the folder of scripts that the arguments name. -/
def withScriptsDir (c : Configuration) : Option Text → Configuration
  | some dir => { c with settings := { c.settings with scriptsDir := dir } }
  | none => c

/-- What is replayed. -/
inductive Input
  /-- The lines of the standard input. -/
  | standard
  /-- These lines. -/
  | lines (lines : List Text)

/-- A replay between two lines. -/
structure Replay where
  /-- The session. -/
  session : Session
  /-- Whether commands other than texts are shown too. -/
  verbose : Bool
  /-- What is replayed. -/
  input : Input

/-- How the program begins. -/
structure Beginning where
  /-- What goes to the standard error stream. -/
  notices : Text
  /-- The replay, or the exit status of a program that stops here. -/
  replay : Except Nat Replay

/-- The exit status after an error. -/
def errorStatus : Nat := 1

/-- The exit status after a fault. -/
def faultStatus : Nat := 101

/-- A program that stops for an error. -/
def refuse (notices : Text) (message : Text) : Beginning :=
  ⟨notices ++ notice message, .error errorStatus⟩

/-- A program that stops for a fault. -/
def collapse (notices : Text) (f : Fault) : Beginning :=
  ⟨notices ++ notice f.message, .error faultStatus⟩

/-- Opens the input. A folder holds no lines. -/
def openInput : Invocation.Input → Reading (Except Text Input)
  | .standard => return .ok .standard
  | .file path =>
    .file path fun
      | .ok bytes => return .ok (.lines (decodeLines bytes))
      | .error .isFolder => return .ok (.lines [])
      | .error e => return .error (e.report path)

/-- Starts the script that is asked for. -/
def startScript (s : Session) (inv : Invocation) : Except Session.Error Session :=
  match inv.script with
  | none => .ok s
  | some script => (s.start script inv.scriptArgs).map (·.1)

/-- Reads the scripts that are needed. -/
def readScripts (c : Configuration) (script : Option Text) : Reading Script.Library :=
  match script with
  | none => return fun _ => none
  | some script =>
    Script.Folder.readFor ⟨c.settings.scriptsDir, c.settings.scriptExtension⟩ script

/-- Begins the replay, once the settings are known. -/
def beginReplay (inv : Invocation) (c : Configuration) (notices : Text) : Reading Beginning := do
  let library ← readScripts c inv.script
  match startScript (Session.new c library) inv with
  | .error (.load (.fault f)) => return collapse notices f
  | .error e => return refuse notices e.message
  | .ok session =>
    match ← openInput inv.input with
    | .error message => return refuse notices message
    | .ok input => return ⟨notices, .ok ⟨session, inv.verbose, input⟩⟩

/-- Begins the program: reads the arguments, the settings, and the scripts that are needed. -/
def start (f : Folders) (args : List Text) : Reading Beginning := do
  match Invocation.read args with
  | .error e => return ⟨notice e.message ++ usage, .error errorStatus⟩
  | .ok inv =>
    match configure (← readSettings f inv.source) with
    | .error f => return collapse [] f
    | .ok (c, notices) => beginReplay inv (withScriptsDir c inv.scriptsDir) notices

/-- What is shown of an event. -/
def showEvent (id : Nat) : Script.Event → Text
  | .echo t => t
  | .send t => '[' :: Text.ofNat id ++ "] > ".toList ++ t ++ ['\n']
  | .command t => '[' :: Text.ofNat id ++ "] # ".toList ++ t ++ ['\n']

/-- What is shown of a command. -/
def showCommand (verbose : Bool) : Stream.Command → Text
  | .text runs => (Stream.Command.text runs).shown
  | command => if verbose then command.describe ++ ['\n'] else []

namespace Replay

/-- Shows what the scripts have said. -/
def flush (r : Replay) : Replay × Text :=
  let (session, events) := r.session.collect
  ({ r with session := session }, events.flatMap fun (id, e) => showEvent id e)

/-- Lets so many milliseconds pass. -/
def wait (r : Replay) (millis : Nat) : Replay × Text :=
  { r with session := r.session.sleep millis }.flush

/-- Replays a line. -/
def line (r : Replay) (t : Text) : Except Fault (Replay × Text) :=
  match r.session.ingest (t ++ ['\n']) with
  | (_, .error f) => .error f
  | (session, .ok commands) =>
    let (r, said) := { r with session := session }.flush
    .ok (r, commands.flatMap (showCommand r.verbose) ++ said)

/-- Ends the replay. -/
def finish (r : Replay) : Text :=
  { r with session := r.session.stopAll }.flush.2

end Replay

/-- What the program leaves behind. -/
structure Result where
  /-- The exit status. -/
  status : Nat
  /-- What went to the standard output. -/
  output : Text := []
  /-- What went to the standard error stream. -/
  notices : Text := []
  deriving DecidableEq, Repr

/-- Puts output and notices before those of a result. -/
def Result.after (output notices : Text) (r : Result) : Result :=
  { r with output := output ++ r.output, notices := notices ++ r.notices }

/-- Replays lines to the end, without letting time pass. -/
def replayLines (r : Replay) : List Text → Result
  | [] => { status := 0, output := r.finish }
  | line :: rest =>
    match r.line line with
    | .error f => { status := faultStatus, notices := notice f.message }
    | .ok (r, shown) => (replayLines r rest).after shown []

/-- Runs the program on files and a standard input that are known beforehand. -/
def run (f : Folders) (files : Text → Except FileError ByteArray) (args : List Text)
    (input : Text) : Result :=
  let beginning := (start f args).result files
  match beginning.replay with
  | .error status => { status := status, notices := beginning.notices }
  | .ok r =>
    let (r, said) := r.flush
    let lines := match r.input with
      | .standard => Text.lines input
      | .lines lines => lines
    (replayLines r lines).after said beginning.notices

end Mudline.Program
