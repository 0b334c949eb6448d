import Mudline.Text.Search

/-!
# Formulas

The text of a condition may mix plain expression text with function calls. A formula is that text
cut into its calls and what stands between them. The arguments of a call stay texts.
-/

namespace Mudline

/-- A text with its function calls told apart. -/
inductive Formula
  /-- Text without calls. -/
  | plain (t : Text)
  /-- A call, with its arguments as they are written. -/
  | call (name : Text) (args : List Text)
  /-- Calls and the text between them, in order. -/
  | sequence (parts : List Formula)
  deriving Repr, Inhabited

namespace Formula

/-- The characters that begin the name of a function. -/
def startsName (c : Char) : Bool :=
  Text.isAsciiLetter c || c == '_'

/-- The characters of the name of a function. -/
def isNameChar (c : Char) : Bool :=
  startsName c || Text.isDigit c

/-- The characters after which no call begins: there a name is part of a longer word, or of a
reference to a variable. -/
def blocksCall (c : Char) : Bool :=
  isNameChar c || c == '%' || c == '$' || c == '&' || c == '.'

/-- Takes the text up to the parenthesis that closes `depth` open ones. Parentheses between quotes
do not count. What is returned is the text inside. -/
def takeClosed? (depth : Nat) (quoted : Bool) : Text → Option Text
  | [] => none
  | c :: rest =>
    if c == ')' && !quoted && depth ≤ 1 then some []
    else
      let depth :=
        if quoted then depth
        else if c == '(' then depth + 1
        else if c == ')' then depth - 1
        else depth
      (takeClosed? depth (quoted != (c == '"')) rest).map (c :: ·)

/-- Cuts at the commas outside quotes and parentheses. -/
def splitCommas (depth : Nat) (quoted : Bool) : Text → List Text
  | [] => [[]]
  | c :: rest =>
    if c == ',' && !quoted && depth == 0 then [] :: splitCommas 0 false rest
    else
      let depth :=
        if quoted then depth
        else if c == '(' then depth + 1
        else if c == ')' then depth - 1
        else depth
      Text.consFirst c (splitCommas depth (quoted != (c == '"')) rest)

/-- The arguments that stand between the parentheses of a call. -/
def splitArgs (inner : Text) : List Text :=
  if (Text.trim inner).isEmpty then [] else (splitCommas 0 false inner).map Text.trim

/-- The call that a text starts with, if it starts with a name and a closed pair of parentheses: the
name, and what is inside. -/
def callAt? (t : Text) : Option (Text × Text) :=
  match t.dropWhile isNameChar with
  | '(' :: rest => (takeClosed? 1 false rest).map (t.takeWhile isNameChar, ·)
  | _ => none

/-- Puts a character in front of parts, as plain text. -/
def consPlain (c : Char) : List Formula → List Formula
  | plain t :: parts => plain (c :: t) :: parts
  | parts => plain [c] :: parts

/-- Cuts a text into calls and what is between them. The first `skip` characters belong to a call
already found, and `before` is the character before the text. -/
def scan (skip : Nat) (before : Option Char) (quoted : Bool) : Text → List Formula
  | [] => []
  | c :: rest =>
    match skip with
    | skip + 1 => scan skip (some c) false rest
    | 0 =>
      if quoted || !startsName c || before.any blocksCall then
        consPlain c (scan 0 (some c) (quoted != (c == '"')) rest)
      else match callAt? (c :: rest) with
        | some (name, inner) =>
          call name (splitArgs inner) :: scan (name.length + inner.length + 1) (some c) false rest
        | none => consPlain c (scan 0 (some c) false rest)

/-- Whether a part is text with nothing but blanks. -/
def isBlankText : Formula → Bool
  | plain t => (Text.trim t).isEmpty
  | _ => false

/-- The formula of a text. A call with nothing but blanks around it stands alone. -/
def parse (t : Text) : Formula :=
  let parts := scan 0 none false t
  let isCall : Formula → Bool
    | call _ _ => true
    | _ => false
  if !parts.any isCall then plain t
  else match parts.filter (!isBlankText ·) with
    | [call name args] => call name args
    | _ => sequence parts

end Formula

end Mudline
