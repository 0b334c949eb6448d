import Mudline.Markup.Reader

/-!
# Printing markup

A chunk that has been read is a forest of tokens. This file says which forests the markup can
express, prints them, and joins the neighbouring texts that a reader leaves where it has dropped a
malformed header between them.
-/

namespace Mudline

namespace Markup

/-- A character of a value, behind a backslash where it would end the value or start an escape. -/
def escapeChar (stop c : Char) : Text :=
  if c == '\\' || c == stop || c == '\r' then ['\\', c] else [c]

/-- The characters of a value that ends at `stop`. -/
def escape (stop : Char) (value : Text) : Text :=
  value.flatMap (escapeChar stop)

/-- A value in double quotes. A bracketed value ends at its last character, a closing bracket. -/
def printValue (bracketed : Bool) (value : Text) : Text :=
  if bracketed then '"' :: (escape ']' value.dropLast ++ "]\"".toList)
  else '"' :: (escape '"' value ++ ['"'])

/-- An attribute of a tag, with the space before it. -/
def printAttr (tag : Text) (attr : Text × Text) : Text :=
  ' ' :: (attr.1 ++ '=' :: printValue (isBracketed tag attr.1) attr.2)

/-- The attributes of a tag. -/
def printAttrs (tag : Text) (attrs : List (Text × Text)) : Text :=
  attrs.flatMap (printAttr tag)

/-- An attribute that can be printed within a tag. -/
structure PrintableAttr (tag : Text) (attr : Text × Text) : Prop where
  /-- There is a key. -/
  key_ne_nil : attr.1 ≠ []
  /-- The key ends where the equals sign stands. -/
  no_equals : '=' ∉ attr.1
  /-- The key is not taken for the space before it or for the end of the header. -/
  first : ∀ c ∈ attr.1.head?, c ≠ ' ' ∧ c ≠ '>' ∧ c ≠ '/'
  /-- A bracketed value ends in a bracket. -/
  bracket : isBracketed tag attr.1 = true → attr.2.getLast? = some ']'

/-- The name and the attributes of a tag that can be printed. -/
structure PrintableTag (name : Text) (attrs : List (Text × Text)) : Prop where
  /-- The name is in lower case. -/
  lower_eq : Unicode.lower name = name
  /-- The name ends where the header goes on. -/
  name_closed : ∀ c ∈ name, c ≠ '/' ∧ c ≠ '>' ∧ c ≠ ' '
  /-- The attributes can be printed. -/
  attrs_printable : ∀ attr ∈ attrs, PrintableAttr name attr

end Markup

open Markup

namespace Token

/-- Whether a token is character data. -/
def isText : Token → Bool
  | text _ => true
  | tag _ _ _ => false

/-- A token as markup. -/
def print : Token → Text
  | .text chars => chars
  | .tag name attrs children =>
    '<' :: (name ++ (printAttrs name attrs ++
      '>' :: (printAll children ++ ("</".toList ++ (name ++ ['>'])))))
where
  /-- A forest as markup. -/
  printAll : List Token → Text
    | [] => []
    | token :: rest => print token ++ printAll rest

/-- At every depth, texts are not empty and do not look like markup, and tags can be printed. -/
def Printable : Token → Prop
  | .text chars => chars ≠ [] ∧ '<' ∉ chars
  | .tag name attrs children => PrintableTag name attrs ∧ AllPrintable children
where
  /-- Every token of a forest is printable. -/
  AllPrintable : List Token → Prop
    | [] => True
    | token :: rest => Printable token ∧ AllPrintable rest

/-- Whether a forest begins with character data. -/
def startsWithText (tokens : List Token) : Bool :=
  tokens.head?.any isText

/-- Below a token, no two texts are neighbours. -/
def Separated : Token → Prop
  | .text _ => True
  | .tag _ _ children => AllSeparated children
where
  /-- In a forest and below it, no two texts are neighbours. -/
  AllSeparated : List Token → Prop
    | [] => True
    | token :: rest =>
      Separated token ∧ ¬(token.isText ∧ startsWithText rest) ∧ AllSeparated rest

/-- Puts a token before a forest, where two neighbouring texts become one. -/
def consJoined : Token → List Token → List Token
  | .text a, .text b :: rest => .text (a ++ b) :: rest
  | token, rest => token :: rest

/-- Joins neighbouring texts below a token. -/
def join : Token → Token
  | .text chars => .text chars
  | .tag name attrs children => .tag name attrs (joinAll children)
where
  /-- Joins neighbouring texts in a forest and below it. -/
  joinAll : List Token → List Token
    | [] => []
    | token :: rest => consJoined (join token) (joinAll rest)

end Token

namespace Markup

/-- A forest as markup. -/
def print (tokens : List Token) : Text :=
  Token.print.printAll tokens

/-- A forest that the markup can express. -/
structure WellFormed (tokens : List Token) : Prop where
  /-- Texts and tags can be printed. -/
  printable : Token.Printable.AllPrintable tokens
  /-- No two texts are neighbours. -/
  separated : Token.Separated.AllSeparated tokens

/-- The forest in which neighbouring texts are one. -/
def joinTexts (tokens : List Token) : List Token :=
  Token.join.joinAll tokens

end Markup

end Mudline
