import Mudline.Text.Basic

/-!
# Files

Files are read by whoever runs the program. What is to be read next may depend on what the files
before held, so a computation that needs files is a tree: each node names a file, and goes on with
what reading it yields.
-/

namespace Mudline

/-- Why a file cannot be read. -/
inductive FileError
  /-- There is no such file. -/
  | notFound
  /-- A part of the path that should be a folder is a file. -/
  | notFolder
  /-- The path names a folder. -/
  | isFolder
  /-- The file must not be read. -/
  | noPermission
  /-- The file is no text. -/
  | notText
  /-- Any other cause, with its report. -/
  | other (report : Text)
  deriving DecidableEq, Repr

namespace FileError

/-- The report of an error. -/
def message : FileError → Text
  | notFound => "No such file or directory (os error 2)"
  | notFolder => "Not a directory (os error 20)"
  | isFolder => "Is a directory (os error 21)"
  | noPermission => "Permission denied (os error 13)"
  | notText => "stream did not contain valid UTF-8"
  | other report => report

/-- The report of an error with the path of the file. -/
def report (path : Text) (e : FileError) : Text :=
  path ++ ": ".toList ++ e.message

/-- Whether the error says that there is nothing at the path. -/
def isAbsence : FileError → Bool
  | notFound | notFolder => true
  | _ => false

end FileError

/-- The bytes of a file as a text. -/
def decode (bytes : ByteArray) : Except FileError Text :=
  match String.fromUTF8? bytes with
  | some s => .ok s.toList
  | none => .error .notText

/-- Cuts bytes after every line feed, and drops the line feeds. -/
def byteLines (bytes : List UInt8) : List (List UInt8) :=
  bytes.foldr (fun b lines => match lines with
    | line :: rest => if b == 10 then [] :: line :: rest else (b :: line) :: rest
    | [] => [[b]]) [[]]

/-- The lines of a file up to the first that is no text. -/
def decodeLines (bytes : ByteArray) : List Text :=
  match decode bytes with
  | .ok t => Text.lines t
  | .error _ =>
    let lines := (byteLines bytes.toList).map fun line => (decode ⟨line.toArray⟩).toOption
    (lines.takeWhile Option.isSome).map fun line => Text.dropReturn (line.getD [])

/-- Joins a path to the folder that it is relative to. -/
def joinPath (folder path : Text) : Text :=
  if path.head? == some '/' || folder.isEmpty then path
  else if folder.getLast? == some '/' then folder ++ path
  else folder ++ '/' :: path

/-- A computation that reads files. -/
inductive Reading (α : Type)
  /-- The computation is over. -/
  | done (a : α)
  /-- A file is read, and the computation goes on with its bytes. -/
  | file (path : Text) (next : Except FileError ByteArray → Reading α)

namespace Reading

/-- Reads a file as a text. -/
def text (path : Text) : Reading (Except FileError Text) :=
  file path fun bytes => done (bytes.bind decode)

/-- Goes on with the result of a computation. -/
def bind (r : Reading α) (f : α → Reading β) : Reading β :=
  match r with
  | done a => f a
  | file path next => file path fun bytes => (next bytes).bind f

instance : Monad Reading where
  pure := done
  bind := bind

/-- The result of a computation when every file holds what `files` says. -/
def result (files : Text → Except FileError ByteArray) : Reading α → α
  | done a => a
  | file path next => (next (files path)).result files

end Reading

end Mudline
