import Mudline.Text.Basic

/-!
# Tokens

The game's stream is a flat row of tokens; a tag that was closed owns the tokens between its opening
and its closing marker.
-/

namespace Mudline

/-- A node of the markup. -/
inductive Token
  /-- Character data. -/
  | text (chars : Text)
  /-- A tag with its attributes, in order, and the tokens inside it. -/
  | tag (name : Text) (attrs : List (Text × Text)) (children : List Token)
  deriving Repr, BEq, Inhabited

namespace Token

/-- The kind of a token: the name of a tag, `text` for character data, and `eot` for a text that is
a single line feed. -/
def kind : Token → Text
  | .text chars => if chars == ['\n'] then "eot" else "text"
  | .tag name _ _ => name

/-- The first attribute with the given key. -/
def attr? : Token → Text → Option Text
  | .text _, _ => none
  | .tag _ attrs _, key => attrs.lookup key

/-- The value of an attribute, empty when it is missing. -/
def attrD (t : Token) (key : Text) : Text :=
  (t.attr? key).getD []

/-- The tokens inside a tag. -/
def children : Token → List Token
  | .text _ => []
  | .tag _ _ children => children

/-- The character data of a token, where a tag joins what is inside it by `separator`. -/
def value (separator : Text) : Token → Text
  | .text chars => chars
  | .tag _ _ children => separator.intercalate (values children)
where
  /-- The character data of each token of a list. -/
  values : List Token → List Text
    | [] => []
    | token :: rest => value separator token :: values rest

/-- The character data of a token. -/
def content (t : Token) : Text :=
  t.value []

/-- The tokens of a list that stand in bold: each `pushbold` opens bold and each `popbold` ends it,
and a marker is never listed itself. -/
def boldSpan (bold : Bool) : List Token → List Token
  | [] => []
  | token :: rest =>
    if token.kind == "pushbold" then boldSpan true rest
    else if token.kind == "popbold" then boldSpan false rest
    else if bold then token :: boldSpan bold rest
    else boldSpan bold rest

/-- The creatures among the tokens inside a tag: those in bold whose content is not ignored. -/
def monsters (ignore : Text → Bool) (t : Token) : List Token :=
  (boldSpan false t.children).filter fun child => !ignore child.content

end Token

end Mudline
