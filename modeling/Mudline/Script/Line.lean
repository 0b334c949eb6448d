import Mudline.Fault
import Mudline.Text.Integer

/-!
# Lines of scripts

A script runs line by line, so each line is classified once, when the script is loaded. A
conditional keeps its condition and its body as text, for the references in them are replaced only
when the line runs.
-/

namespace Mudline.Script

/-- What a conditional asks. -/
inductive Condition
  /-- Whether there are at least so many arguments. -/
  | argCount (n : Nat)
  /-- Whether an expression holds. -/
  | expr (t : Text)
  deriving DecidableEq, Repr

/-- Where the body of a conditional stands. -/
inductive Body
  /-- On the line itself. -/
  | inline (statement : Text)
  /-- In the block that the line opens. -/
  | block
  /-- In a block that the line opens and closes. -/
  | blockInline (statement : Text)
  /-- On the next line that is neither blank nor a comment. -/
  | next
  deriving DecidableEq, Repr

/-- The kinds of lines. -/
inductive Line
  | blank
  | comment
  | label (name : Text)
  | blockStart
  | blockEnd
  | ifLine (cond : Condition) (body : Body)
  | elseIfLine (cond : Condition) (body : Body)
  | elseLine (body : Body)
  | command (raw : Text)
  deriving DecidableEq, Repr

namespace Line

/-- The body of a conditional. -/
def body? : Line → Option Body
  | ifLine _ body | elseIfLine _ body | elseLine body => some body
  | _ => none

/-- How a line changes the depth of blocks. -/
def delta : Line → Int
  | blockStart => 1
  | blockEnd => -1
  | line => if line.body? == some .block then 1 else 0

/-- Whether a line belongs to a chain of conditionals. -/
def isConditional (line : Line) : Bool :=
  line.body?.isSome

/-- Whether a line does nothing at all. -/
def isSilent : Line → Bool
  | blank | comment => true
  | _ => false

/-- Whether the body of a line is the statement after it. -/
def takesNext (line : Line) : Bool :=
  line.body? == some .next

end Line

/-- Whether the byte at a distance from the start of a text lies within a character. -/
def cutsWithin (distance : Nat) : Text → Bool
  | [] => false
  | c :: rest =>
    if distance == 0 then false
    else if distance < c.utf8Size then true
    else cutsWithin (distance - c.utf8Size) rest

/-- The keyword that asks for arguments, before their number. -/
def argCountWord : Text := "if_"

/-- The number in a keyword that asks for arguments. A number past 64 bits counts as zero. -/
def argCountOf? (word : Text) : Option Nat :=
  if Text.sameWord (word.take 3) argCountWord then
    (Text.readDigits? (word.drop 3)).map fun n => if n ≤ Text.maxWord then n else 0
  else none

/-- The number in a keyword that asks for arguments, where the word is first cut after three
bytes. -/
def argCount (word : Text) : Except Fault (Option Nat) :=
  if cutsWithin 3 word then .error .cutCharacter else .ok (argCountOf? word)

/-- The characters that may stand before the word that ends a condition. -/
def endsBefore (c : Option Char) : Bool :=
  c.all fun c => c == ' ' || c == '\t' || c == ')'

/-- The characters that may stand after the word that ends a condition. -/
def endsAfter (c : Option Char) : Bool :=
  c.all fun c => c == ' ' || c == '\t' || c == '\x7b'

/-- Whether a text starts with the word that ends a condition. -/
def startsThen (t : Text) : Bool :=
  Text.sameWord (t.take 4) "then" && endsAfter (t.drop 4).head?

/-- Cuts a conditional after its keyword into the condition and the text of the body. The condition
ends outside quotes at a brace, which belongs to the body, or at the word `then`, which does not. -/
def splitCondition (before : Option Char) (quoted : Bool) : Text → Text × Text
  | [] => ([], [])
  | c :: rest =>
    if !quoted && c == '\x7b' then ([], c :: rest)
    else if !quoted && endsBefore before && startsThen (c :: rest) then ([], rest.drop 3)
    else
      let (cond, body) := splitCondition (some c) (quoted != (c == '"')) rest
      (c :: cond, body)

/-- The body that a text stands for. -/
def readBody (t : Text) : Body :=
  let t := Text.trim t
  if t.isEmpty then .next
  else if t == "\x7b" then .block
  else if t.head? == some '\x7b' && t.getLast? == some '\x7d' then
    .blockInline (Text.trim (t.drop 1).dropLast)
  else .inline t

/-- The condition and the body that follow a keyword. With a number in the keyword, the text of the
condition means nothing. -/
def readConditional (count : Option Nat) (rest : Text) : Condition × Body :=
  let (cond, body) := splitCondition none false rest
  (match count with
    | some n => .argCount n
    | none => .expr (Text.trim cond), readBody body)

/-- The name of the label that a trimmed line sets. -/
def labelName? (line : Text) : Option Text :=
  let name := line.dropLast
  if line.getLast? == some ':' && !name.isEmpty && !name.any Text.isBlank then some name else none

/-- Classifies what follows the word `else`. -/
def classifyElse (rest : Text) : Except Fault Line := do
  let (next, after) := Text.splitWord rest
  if Text.sameWord next "if" then
    let (cond, body) := readConditional none after
    return .elseIfLine cond body
  match ← argCount next with
  | some n =>
    let (cond, body) := readConditional (some n) after
    return .elseIfLine cond body
  | none => return .elseLine (readBody rest)

/-- Classifies a trimmed line by its first word. Any line that is nothing else is a command, which
keeps the line as it was. -/
def classifyWord (raw line : Text) : Except Fault Line := do
  let (word, rest) := Text.splitWord line
  if Text.sameWord word "else" then classifyElse rest
  else if Text.sameWord (word.take 5) "else\x7b" then return .elseLine (readBody (line.drop 4))
  else if Text.sameWord word "if" then
    let (cond, body) := readConditional none rest
    return .ifLine cond body
  else match ← argCount word with
    | some n =>
      let (cond, body) := readConditional (some n) rest
      return .ifLine cond body
    | none =>
      if Text.sameWord (word.take 3) "if(" then
        let (cond, body) := readConditional none (line.drop 2)
        return .ifLine cond body
      else return .command raw

/-- The kind of a line. -/
def classify (raw : Text) : Except Fault Line :=
  let line := Text.trim raw
  if line.isEmpty then .ok .blank
  else if line.head? == some '#' || ("//" : Text).isPrefixOf line then .ok .comment
  else if line == "\x7b" then .ok .blockStart
  else if line == "\x7d" then .ok .blockEnd
  else match labelName? line with
    | some name => .ok (.label name)
    | none => classifyWord raw line

/-- The argument that has been read when a blank or the end of the text comes: none when nothing was
read, not even quotes. -/
def openArg (quoted : Bool) (arg : Text) : List Text :=
  if arg.isEmpty && !quoted then [] else [arg]

/-- Reads arguments, where `arg` is the one being read, `inQuotes` says whether a quote is open, and
`quoted` whether the argument had one. -/
def splitArgsFrom (inQuotes quoted : Bool) (arg : Text) : Text → List Text
  | [] => openArg quoted arg
  | c :: rest =>
    if c == '"' then splitArgsFrom (!inQuotes) true arg rest
    else if Text.isBlank c && !inQuotes then openArg quoted arg ++ splitArgsFrom false false [] rest
    else splitArgsFrom inQuotes quoted (arg ++ [c]) rest

/-- Cuts a text into arguments between blanks. Double quotes hold blanks together and are
dropped. -/
def splitArgs (t : Text) : List Text :=
  splitArgsFrom false false [] t

/-- Cuts a line at a brace that closes a block, if something follows the brace. -/
def splitClosing? (raw : Text) : Option (Text × Text) :=
  match Text.trimStart raw with
  | '\x7d' :: rest => if (Text.trim rest).isEmpty then none else some ("\x7d", Text.trim rest)
  | _ => none

end Mudline.Script
