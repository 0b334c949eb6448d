import Mudline.Number.Numeral
import Mudline.Pattern
import Mudline.Script.Line

/-!
# Statements

A command line, once its references have been replaced, says what to do by its first word, which is
read without regard to the case of ASCII letters. A line whose first word is not one of these is
passed on as it stands.
-/

namespace Mudline.Script

/-- The operations on a number variable. -/
inductive Operation
  | set
  | add
  | subtract
  | multiply
  | divide
  | remainder
  deriving DecidableEq, Repr

namespace Operation

/-- The words for the operations. -/
def table : List (Text × Operation) :=
  [("set", set), ("+", add), ("add", add), ("-", subtract), ("sub", subtract),
   ("subtract", subtract), ("*", multiply), ("multiply", multiply), ("/", divide),
   ("divide", divide), ("%", remainder), ("modulus", remainder)]

/-- The operation that a word stands for. -/
def read? (word : Text) : Option Operation :=
  table.lookup (Text.asciiLower word)

/-- Whether the operation needs an amount other than zero. -/
def divides : Operation → Bool
  | divide | remainder => true
  | _ => false

/-- The result of an operation on the current value and an amount. -/
def apply (current amount : Float) : Operation → Float
  | set => amount
  | add => current + amount
  | subtract => current - amount
  | multiply => current * amount
  | divide => current / amount
  | remainder => Number.remainder current amount

end Operation

/-- What a command line asks for. -/
inductive Statement
  /-- Nothing: the line is blank. -/
  | nothing
  /-- To show a text to the user. -/
  | echo (t : Text)
  /-- To send a command to the game. -/
  | send (t : Text)
  /-- To pass a line on to whoever runs the script. -/
  | pass (t : Text)
  /-- To set a shared variable. -/
  | setShared (name value : Text)
  /-- To set a variable of the script. -/
  | set (name value : Text)
  /-- To remove a variable of the script. -/
  | unset (name : Text)
  /-- To change a number variable of the script. -/
  | math (name operation amount : Text)
  /-- To set a variable to the text of a formula. -/
  | evalText (name formula : Text)
  /-- To set a variable to the number of a formula. -/
  | evalNumber (name formula : Text)
  /-- To go on at a label. -/
  | goto (label : Text)
  /-- To go on at a label with arguments of its own, and to come back. -/
  | gosub (label : Text) (args : List Text)
  /-- To come back from a label. -/
  | comeBack
  /-- To drop the first argument. -/
  | shift
  /-- To end the script. -/
  | exit
  /-- To note a pattern and the label to go on at when it matches. -/
  | awaitAt (label : Text) (mode : Pattern.Mode) (pattern : Text)
  /-- To wait for one of the patterns noted, for so many seconds at most. -/
  | matchWait (seconds : Option Float)
  /-- To wait for one pattern and to go on at the next line. -/
  | waitFor (mode : Pattern.Mode) (pattern : Text)
  /-- To wait for so many seconds. -/
  | pause (seconds : Option Float)

namespace Statement

/-- Reads what to send. A text that begins with a number sign is no command of the game: it sets a
shared variable or is passed on. -/
def readPut (rest : Text) : Statement :=
  let (word, tail) := Text.splitWord rest
  if Text.sameWord word "#var" || Text.sameWord word "#tvar" then
    let (name, value) := Text.splitWord tail
    setShared name (Text.trim value)
  else if word.head? == some '#' then pass (Text.trim rest)
  else send (Text.trim rest)

/-- Reads a name and makes a statement of it and the trimmed text after it. -/
def readNamed (make : Text → Text → Statement) (rest : Text) : Statement :=
  let (name, tail) := Text.splitWord rest
  make name (Text.trim tail)

/-- Reads a name, an operation and an amount. -/
def readMath (rest : Text) : Statement :=
  match Text.words rest with
  | name :: operation :: amount => math name operation (Text.join " " amount)
  | [name] => math name [] []
  | [] => math [] [] []

/-- The variable that counts. -/
def counterName : Text := "c"

/-- Reads an operation and an amount. -/
def readCounter (rest : Text) : Statement :=
  let (operation, amount) := Text.splitWord rest
  math counterName operation amount

/-- Reads a label and the arguments for it. -/
def readGosub (rest : Text) : Statement :=
  let (label, args) := Text.splitWord rest
  gosub label (splitArgs args)

/-- The words that begin statements, each with the reader of what follows. -/
def readers : List (Text × (Text → Statement)) :=
  [("echo", echo), ("put", readPut), ("send", readPut),
   ("var", readNamed set), ("setvariable", readNamed set),
   ("unvar", fun rest => unset (Text.trim rest)),
   ("deletevariable", fun rest => unset (Text.trim rest)),
   ("math", readMath), ("counter", readCounter),
   ("eval", readNamed evalText), ("evalmath", readNamed evalNumber),
   ("goto", fun rest => goto (Text.trim rest)), ("gosub", readGosub),
   ("return", fun _ => comeBack), ("shift", fun _ => shift), ("exit", fun _ => exit),
   ("match", readNamed (awaitAt · .substring)), ("matchre", readNamed (awaitAt · .regexp)),
   ("matchwait", fun rest => matchWait ((Number.read? rest).filter (0.0 < ·))),
   ("waitfor", fun rest => waitFor .substring (Text.trim rest)),
   ("waitforre", fun rest => waitFor .regexp (Text.trim rest)),
   ("pause", fun rest => pause ((Number.read? rest).filter (0.0 ≤ ·)))]

/-- Reads a statement. -/
def read (t : Text) : Statement :=
  let (word, rest) := Text.splitWord t
  if word.isEmpty then nothing
  else match readers.lookup (Text.asciiLower word) with
    | some reader => reader rest
    | none => pass (Text.trim t)

end Statement

end Mudline.Script
