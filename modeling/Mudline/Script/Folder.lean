import Mudline.File
import Mudline.Script.Listing

/-!
# Folders of scripts

Scripts are kept as files in a folder. A script is named without the extension of its file, or with
it.
-/

namespace Mudline.Script

/-- A folder of scripts. -/
structure Folder where
  /-- The path of the folder. -/
  path : Text
  /-- The extension of the files, without the point; empty for none. -/
  extension : Text
  deriving DecidableEq, Repr

namespace Folder

/-- The name of the file of a script, in the folder. -/
def fileName (f : Folder) (name : Text) : Text :=
  let suffix := '.' :: f.extension
  if f.extension.isEmpty || suffix.isSuffixOf name then name else name ++ suffix

/-- The path of the file of a script. -/
def pathFor (f : Folder) (name : Text) : Text :=
  joinPath f.path (f.fileName name)

/-- The lines of a script. No line ends in a carriage return. -/
def lines (t : Text) : List Text :=
  (Text.lines t).map (Text.dropEndWhile (· == '\r'))

/-- Reads a script. -/
def read (f : Folder) (name : Text) : Reading (Except FileError (List Text)) := do
  return (← Reading.text (f.pathFor name)).map lines

/-- The library of the folder, when every file holds what `files` says. What cannot be read is not
there. -/
def library (f : Folder) (files : Text → Except FileError ByteArray) : Library :=
  fun name => ((f.read name).result files).toOption

/-- Reads several scripts into a library that holds no other. -/
def readAll (f : Folder) : List Text → Reading Library
  | [] => return fun _ => none
  | name :: rest => do
    let script := (← f.read name).toOption
    let library ← f.readAll rest
    return fun n => if n == name then script else library n

/-- Reads a script and those that it includes, which is all that loading it needs. -/
def readFor (f : Folder) (name : Text) : Reading Library := do
  let script := (← f.read name).toOption
  let library ← f.readAll ((script.getD []).filterMap includeTarget?)
  return fun n => if n == name then script else library n

end Folder

end Mudline.Script
