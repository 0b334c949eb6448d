import Mudline.Program
import Std.Time.DateTime.Timestamp

/-!
# The command line

Reads the files, the standard input and the clocks for the program, and prints what it shows.
-/

namespace Mudline.CommandLine

/-- The cause of a file that cannot be read, by the number that the system gives it, which may come
negated. -/
def causeOf (code : UInt32) (report : String) : FileError :=
  match if code < 0x80000000 then code else 0 - code with
  | 2 => .notFound
  | 13 => .noPermission
  | 20 => .notFolder
  | 21 => .isFolder
  | _ => .other report.toList

/-- The cause of a file that cannot be read. -/
def fileError (e : IO.Error) : FileError :=
  match e with
  | .noFileOrDirectory _ code _ => causeOf code e.toString
  | .permissionDenied _ code _ => causeOf code e.toString
  | .inappropriateType _ code _ => causeOf code e.toString
  | .noSuchThing _ code _ => causeOf code e.toString
  | .otherError code _ => causeOf code e.toString
  | _ => .other e.toString.toList

/-- Reads a file. -/
def readFile (path : Text) : IO (Except FileError ByteArray) :=
  try
    return .ok (← IO.FS.readBinFile (String.ofList path))
  catch e =>
    return .error (fileError e)

/-- Reads the files that a computation names. -/
def follow : Reading α → IO α
  | .done a => return a
  | .file path next => do follow (next (← readFile path))

/-- Prints a text at once. -/
def print (stream : IO.FS.Stream) (t : Text) : IO Unit := do
  unless t.isEmpty do
    stream.putStr (String.ofList t)
    stream.flush

/-- The folders of the user. -/
def folders : IO Program.Folders := do
  let home ← IO.getEnv "HOME"
  let settings ← IO.getEnv "XDG_CONFIG_HOME"
  return { home := home.map (·.toList), settings := settings.map (·.toList) }

/-- The replay with the time of the wall clock. -/
def withClock (r : Program.Replay) : IO Program.Replay := do
  let seconds := (← Std.Time.Timestamp.now).toSecondsSinceUnixEpoch.val.toNat
  let stream := { r.session.stream with now := seconds }
  return { r with session := { r.session with stream := stream } }

/-- How many milliseconds pass between two looks at the clock. -/
def tick : UInt32 := 10

/-- Replays a line. -/
def replayLine (r : Program.Replay) (line : Text) : IO (Except Fault Program.Replay) := do
  match (← withClock r).line line with
  | .error f => return .error f
  | .ok (r, shown) =>
    print (← IO.getStdout) shown
    return .ok r

/-- Ends the replay. -/
def finish (r : Program.Replay) : IO UInt32 := do
  print (← IO.getStdout) r.finish
  return 0

/-- Stops for a fault. -/
def stopFor (f : Fault) : IO UInt32 := do
  print (← IO.getStderr) (Program.notice f.message)
  return Program.faultStatus.toUInt32

/-- Replays lines that are known. -/
def replayAll (r : Program.Replay) : List Text → IO UInt32
  | [] => finish r
  | line :: rest => do
    match ← replayLine r line with
    | .error f => stopFor f
    | .ok r => replayAll r rest

/-- Lets the time pass, as the clock shows it, until a line has been read. -/
partial def await (r : Program.Replay) (since : Nat) (line : Task (Except IO.Error String)) :
    IO (Program.Replay × Nat) := do
  if ← IO.hasFinished line then return (r, since)
  IO.sleep tick
  let now ← IO.monoMsNow
  let (r, said) := r.wait (now - since)
  print (← IO.getStdout) said
  await r now line

/-- Replays the standard input. -/
partial def replayInput (r : Program.Replay) (since : Nat) : IO UInt32 := do
  let line ← IO.asTask (← IO.getStdin).getLine
  let (r, since) ← await r since line
  match line.get with
  | .error _ => finish r
  | .ok s =>
    match Text.lines s.toList with
    | [] => finish r
    | t :: _ =>
      match ← replayLine r t with
      | .error f => stopFor f
      | .ok r => replayInput r since

end Mudline.CommandLine

open Mudline in
/-- Runs the program. -/
def main (args : List String) : IO UInt32 := do
  let beginning ← CommandLine.follow (Program.start (← CommandLine.folders) (args.map (·.toList)))
  CommandLine.print (← IO.getStderr) beginning.notices
  match beginning.replay with
  | .error status => return status.toUInt32
  | .ok r =>
    let (r, said) := r.flush
    CommandLine.print (← IO.getStdout) said
    match r.input with
    | .lines lines => CommandLine.replayAll r lines
    | .standard => CommandLine.replayInput r (← IO.monoMsNow)
