import Mudline.Text.Quoted

/-!
# Lexemes of expressions

An expression is cut into words, quoted strings and operators. The cut loses nothing: every lexeme
keeps the blanks before it and its own source.
-/

namespace Mudline.Expr

/-- The smallest units of expressions. -/
inductive Lexeme
  /-- A run of characters that belong to no operator. -/
  | word (t : Text)
  /-- The text between double quotes. -/
  | str (t : Text)
  | plus | minus | star | slash | percent | bang
  | eq | ne | lt | le | gt | ge
  | and | or
  | lparen | rparen
  /-- The end of the expression. -/
  | eof
  deriving DecidableEq, Repr

/-- The description of a lexeme in diagnostics. -/
def Lexeme.describe : Lexeme → Text
  | word t => "Word(".toList ++ Text.quoted t ++ [')']
  | str t => "Str(".toList ++ Text.quoted t ++ [')']
  | plus => "Plus"
  | minus => "Minus"
  | star => "Star"
  | slash => "Slash"
  | percent => "Percent"
  | bang => "Bang"
  | eq => "Eq"
  | ne => "Ne"
  | lt => "Lt"
  | le => "Le"
  | gt => "Gt"
  | ge => "Ge"
  | and => "And"
  | or => "Or"
  | lparen => "LParen"
  | rparen => "RParen"
  | eof => "Eof"

/-- The characters that never belong to a word. -/
def isReserved (c : Char) : Bool :=
  c == '(' || c == ')' || c == '=' || c == '!' || c == '<' || c == '>' || c == '+' || c == '*'
    || c == '/' || c == '"'

/-- Whether a character goes on with a word, from the character after it and from whether the word
holds a letter so far. A lone ampersand or bar does; a percent sign does before a letter or an
underscore, where it begins a reference; a hyphen does after a letter. -/
def inWord (letters : Bool) (c : Char) (next : Option Char) : Bool :=
  if Text.isBlank c || isReserved c then false
  else if c == '&' then next != some '&'
  else if c == '|' then next != some '|'
  else if c == '%' then next.any fun d => Unicode.isAlphabetic d || d == '_'
  else if c == '-' then letters
  else true

/-- Takes the rest of a word. -/
def takeWord (letters : Bool) : Text → Text × Text
  | [] => ([], [])
  | c :: rest =>
    if inWord letters c rest.head? then
      let (word, rest) := takeWord (letters || Unicode.isAlphabetic c) rest
      (c :: word, rest)
    else ([], c :: rest)

/-- Takes a quoted string after its opening quote: the text it stands for, its source, and the rest.
A backslash takes the next character as it is, and the end of the expression ends the string. -/
def takeString : Text → Text × Text × Text
  | [] => ([], [], [])
  | '"' :: rest => ([], ['"'], rest)
  | ['\\'] => ([], ['\\'], [])
  | '\\' :: c :: rest =>
    let (text, source, rest) := takeString rest
    (c :: text, '\\' :: c :: source, rest)
  | c :: rest =>
    let (text, source, rest) := takeString rest
    (c :: text, c :: source, rest)

/-- The operator that a character begins, and whether the next character belongs to it. -/
def operator? (c : Char) (next : Option Char) : Option (Lexeme × Bool) :=
  let withEq (long short : Lexeme) : Option (Lexeme × Bool) :=
    some (if next == some '=' then (long, true) else (short, false))
  match c with
  | '+' => some (.plus, false)
  | '-' => some (.minus, false)
  | '*' => some (.star, false)
  | '/' => some (.slash, false)
  | '%' => some (.percent, false)
  | '(' => some (.lparen, false)
  | ')' => some (.rparen, false)
  | '!' => withEq .ne .bang
  | '=' => withEq .eq .eq
  | '<' => withEq .le .lt
  | '>' => withEq .ge .gt
  | '&' => some (.and, next == some '&')
  | '|' => some (.or, next == some '|')
  | _ => none

/-- A lexeme in its place. -/
structure Placed where
  /-- The blanks before the lexeme. -/
  blanks : Text
  /-- The characters of the lexeme. -/
  source : Text
  /-- The lexeme. -/
  lexeme : Lexeme
  deriving DecidableEq, Repr

/-- Takes one lexeme from a text that does not start with a blank: the lexeme, its source, and the
rest. A character that begins no lexeme is returned as the error. -/
def takeLexeme : Text → Except Char (Lexeme × Text × Text)
  | [] => .ok (.eof, [], [])
  | c :: rest =>
    if inWord false c rest.head? then
      let (word, rest) := takeWord false (c :: rest)
      .ok (.word word, word, rest)
    else if c == '"' then
      let (text, source, rest) := takeString rest
      .ok (.str text, '"' :: source, rest)
    else match operator? c rest.head? with
      | some (lexeme, long) =>
        let taken := if long then 1 else 0
        .ok (lexeme, c :: rest.take taken, rest.drop taken)
      | none => .error c

/-- Cuts a text into lexemes, with an allowance of lexemes. -/
def lexWithin : Nat → Text → Except Char (List Placed)
  | 0, _ => .ok []
  | allowance + 1, t => do
    let (lexeme, source, rest) ← takeLexeme (t.dropWhile Text.isBlank)
    let placed := ⟨t.takeWhile Text.isBlank, source, lexeme⟩
    if lexeme == .eof then return [placed]
    return placed :: (← lexWithin allowance rest)

/-- Cuts an expression into lexemes; the last one is the end of the expression. -/
def lex (t : Text) : Except Char (List Placed) :=
  lexWithin (t.length + 1) t

end Mudline.Expr
