import Mudline.Regex.Property
import Mudline.Regex.Simplify

/-!
# Flags and escapes

The pieces of an expression that stand for one character, one set or one condition, read under the
flags in force. Every reader returns what follows, or nothing when the expression is malformed.
-/

namespace Mudline.Regex

/-- The flags that change how an expression is read. -/
structure Flags where
  /-- Letters match in either case. -/
  ignoreCase : Bool := false
  /-- The line anchors match at lines and not only at the ends of the text. -/
  multiLine : Bool := false
  /-- The dot matches line feeds. -/
  dotAll : Bool := false
  /-- Repetitions prefer fewer rounds unless marked. -/
  swapGreed : Bool := false
  /-- Classes range over all characters and not only over ASCII. -/
  unicode : Bool := true
  /-- A carriage return and a line feed end a line together. -/
  returnLines : Bool := false
  /-- Blanks and comments in the expression mean nothing. -/
  extended : Bool := false

/-- Drops blanks, and comments from a hash up to the end of the line. -/
def dropComments (inComment : Bool) : Text → Text
  | [] => []
  | c :: rest =>
    if inComment then dropComments (c != '\n') rest
    else if Text.isBlank c then dropComments false rest
    else if c == '#' then dropComments true rest
    else c :: rest

/-- Drops what means nothing under the flags. -/
def Flags.skip (f : Flags) (t : Text) : Text :=
  if f.extended then dropComments false t else t

/-- Checks that a set can be read without Unicode: then it must stay within ASCII. -/
def Flags.admit? (f : Flags) (s : Charset) : Option Charset :=
  if f.unicode || s.withinAscii then some s else none

/-- The set with the letters of both cases, when case is ignored. -/
def Flags.fold (f : Flags) (s : Charset) : Charset :=
  if !f.ignoreCase then s else if f.unicode then Unicode.foldCase s else Unicode.foldAscii s

/-- A piece of an expression. -/
inductive Piece
  /-- One character. -/
  | literal (c : Char)
  /-- One character of a set. -/
  | set (s : Charset)
  /-- A condition. -/
  | look (l : Look)

/-- The character that hexadecimal digits name. -/
def hexChar? (digits : Text) : Option Char :=
  let n := Text.hexValue digits
  if !digits.isEmpty && digits.all Text.isHexDigit && n.isValidChar then some (Char.ofNat n)
  else none

/-- Reads exactly `count` hexadecimal digits. -/
def readHexDigits? (f : Flags) : Nat → Text → Option (Text × Text)
  | 0, t => some ([], t)
  | _ + 1, [] => none
  | count + 1, c :: rest =>
    if Text.isHexDigit c then
      (readHexDigits? f count (f.skip rest)).map fun (ds, rest) => (c :: ds, rest)
    else none

/-- Reads up to a closing brace, which is dropped. What means nothing is passed over, where
`inComment` says whether a comment is open. -/
def readBraced? (f : Flags) (inComment : Bool) : Text → Option (Text × Text)
  | [] => none
  | c :: rest =>
    if inComment then readBraced? f (c != '\n') rest
    else if f.extended && Text.isBlank c then readBraced? f false rest
    else if f.extended && c == '#' then readBraced? f true rest
    else if c == '\x7d' then some ([], rest)
    else (readBraced? f false rest).map fun (inner, rest) => (c :: inner, rest)

/-- Reads the digits of a hexadecimal escape, of a fixed number or between braces. -/
def readHex? (f : Flags) (count : Nat) (t : Text) : Option (Piece × Text) := do
  let (digits, rest, fixed) ← match f.skip t with
    | '\x7b' :: rest => (readBraced? f false rest).map fun (ds, rest) => (ds, f.skip rest, false)
    | t => (readHexDigits? f count t).map fun (ds, rest) => (ds, rest, true)
  let c ← hexChar? digits
  if !f.unicode && fixed && count == 2 && !Unicode.isAscii c then none else some (.literal c, rest)

/-- Reads a property escape after its letter. The property of a name may be negated in itself. -/
def readProperty? (f : Flags) (negated : Bool) (t : Text) : Option (Piece × Text) := do
  let ((set, without), rest) ← match f.skip t with
    | '\x7b' :: rest => do
      let (spec, rest) ← readBraced? f false rest
      some (← propertySet? spec, rest)
    | '\\' :: _ => none
    | c :: rest => do some ((← namedSet? [c], false), f.skip rest)
    | [] => none
  if f.unicode then some (.set ((f.fold set).complIf (negated != without)), rest) else none

/-- The classes that a single letter names: digits, blanks and word characters. -/
def letterSet? (f : Flags) (c : Char) : Option Charset :=
  let pick (s : Charset) : Charset := if f.unicode then s else s.inter .ascii
  match c.toLower with
  | 'd' => some (pick Unicode.digits)
  | 's' => some (pick Unicode.whiteSpace)
  | 'w' => some (pick Unicode.wordCharacters)
  | _ => none

/-- The names of boundaries between braces. -/
def boundaryNames : List (Text × (Bool → Look)) :=
  [("start", .wordStart), ("end", .wordEnd), ("start-half", .wordStartHalf),
   ("end-half", .wordEndHalf)]

/-- Reads what may follow the escape of a word boundary: the name of a special one between braces.
Braces that hold no name are left to be read as a repetition. -/
def readBoundary? (f : Flags) (t : Text) : Option (Piece × Text) :=
  let plain : Option (Piece × Text) := some (.look (.boundary !f.unicode), t)
  match t with
  | '\x7b' :: rest =>
    match f.skip rest with
    | [] => none
    | c :: rest' =>
      if Text.isAsciiLetter c || c == '-' then do
        let (name, rest) ← readBraced? f false (c :: rest')
        let look ← boundaryNames.lookup name
        some (.look (look !f.unicode), rest)
      else plain
  | _ => plain

/-- The characters that mean something in expressions. -/
def isMeta (c : Char) : Bool :=
  ("\\.+*?()|[]\x7b\x7d^$#&-~" : Text).contains c

/-- Whether a character that means nothing may still be escaped: ASCII, but no letter or digit, and
no angle bracket, for those name boundaries. -/
def isEscapable (c : Char) : Bool :=
  Unicode.isAscii c && !Text.isAsciiLetter c && !Text.isDigit c && c != '<' && c != '>'

/-- Reads an escape after its backslash. -/
def readEscape? (f : Flags) : Text → Option (Piece × Text)
  | [] => none
  | c :: rest =>
    let literal (d : Char) : Option (Piece × Text) := some (.literal d, rest)
    let look (l : Look) : Option (Piece × Text) := some (.look l, rest)
    if isMeta c || isEscapable c then literal c
    else match letterSet? f c with
      | some s => do some (.set (← f.admit? (s.complIf ('A' ≤ c && c ≤ 'Z'))), rest)
      | none =>
        match c with
        | 'x' => readHex? f 2 rest
        | 'u' => readHex? f 4 rest
        | 'U' => readHex? f 8 rest
        | 'p' => readProperty? f false rest
        | 'P' => readProperty? f true rest
        | 'a' => literal '\x07'
        | 'f' => literal '\x0c'
        | 't' => literal '\t'
        | 'n' => literal '\n'
        | 'r' => literal '\r'
        | 'v' => literal '\x0b'
        | 'A' => look .textStart
        | 'z' => look .textEnd
        | 'b' => readBoundary? f rest
        | 'B' => look (.noBoundary !f.unicode)
        | '<' => look (.wordStart !f.unicode)
        | '>' => look (.wordEnd !f.unicode)
        | _ => none

end Mudline.Regex
