import Mudline.Markup.Token
import Mudline.Unicode.Case

/-!
# Reading markup

A chunk of the stream is read in one pass from the left, with a stack of the tags that are open.
Nothing is an error: a stray closing marker is skipped, a malformed header is dropped, and a chunk
that ends within a tag yields the tokens completed before that tag.
-/

namespace Mudline.Markup

/-- The bytes of a character's encoding before the last: their number tells how long it is. -/
def trailing (c : Char) : Nat :=
  c.utf8Size - 1

/-- The first byte of a character's encoding. -/
def leadByte (c : Char) : Nat :=
  let n := c.toNat
  if n < 0x80 then n
  else if n < 0x800 then 0xC0 + n / 0x40
  else if n < 0x10000 then 0xE0 + n / 0x1000
  else 0xF0 + n / 0x40000

/-- What is left of a character once its first byte has been taken: each other byte reads as one
replacement character. -/
def remnant (c : Char) : Text :=
  List.replicate (trailing c) '\uFFFD'

/-- Reads a quoted value up to a character whose first byte is `stop`, which is not consumed. A
backslash or a carriage return takes the next character as it is. -/
def readQuoted (stop : Nat) : Text → Text × Text
  | [] => ([], [])
  | c :: rest =>
    if leadByte c == stop then ([], c :: rest)
    else if c == '\\' || c == '\r' then
      match rest with
      | [] => ([], [])
      | next :: rest => let (value, rest) := readQuoted stop rest; (next :: value, rest)
    else let (value, rest) := readQuoted stop rest; (c :: value, rest)

/-- Consumes one byte, if the text starts with it. -/
def skipByte (byte : Nat) : Text → Text
  | [] => []
  | c :: rest => if leadByte c == byte then remnant c ++ rest else c :: rest

/-- Whether an attribute is the subtitle of a stream window, which ends at a closing bracket. -/
def isBracketed (tag key : Text) : Bool :=
  tag == "streamwindow" && key == "subtitle"

/-- Reads the value of an attribute after the equals sign. The character there delimits the value,
by its first byte. A bracketed value keeps its closing bracket, or gains one. -/
def readValue? (bracketed : Bool) : Text → Option (Text × Text)
  | [] => none
  | delimiter :: rest =>
    let stop := leadByte delimiter
    let (value, rest) :=
      if bracketed then
        let (value, rest) := readQuoted (']'.toNat) rest
        (value ++ [']'], skipByte (']'.toNat) rest)
      else readQuoted stop rest
    some (remnant delimiter ++ value, skipByte stop rest)

/-- Reads one attribute: a key up to the equals sign, and a value. A sign without a key is skipped,
and a key at the end of the chunk has no value. -/
def readAttr (tag : Text) (t : Text) : Option (Text × Text) × Text :=
  let key := t.takeWhile (· != '=')
  let rest := (t.dropWhile (· != '=')).drop 1
  if key.isEmpty then (none, rest)
  else match readValue? (isBracketed tag key) rest with
    | some (value, rest) => (some (key, value), rest)
    | none => (none, rest)

/-- Reads attributes up to the end of a header, with the number of characters as an allowance. -/
def readAttrsWithin (allowance : Nat) (tag : Text) (t : Text) : List (Text × Text) × Text :=
  let t := t.dropWhile (· == ' ')
  match allowance, t with
  | _, [] => ([], [])
  | 0, t => ([], t)
  | allowance + 1, c :: rest =>
    if c == '>' || c == '/' then ([], c :: rest)
    else
      let (attr, rest) := readAttr tag (c :: rest)
      let (attrs, rest) := readAttrsWithin allowance tag rest
      (attr.toList ++ attrs, rest)

/-- Reads the attributes of a tag. -/
def readAttrs (tag : Text) (t : Text) : List (Text × Text) × Text :=
  readAttrsWithin (t.length + 1) tag t

/-- How the header of a tag ends, with what follows it. -/
inductive Header
  /-- The tag is open: the tokens after it are inside it. -/
  | opened (name : Text) (attrs : List (Text × Text)) (rest : Text)
  /-- The tag is complete as it stands. -/
  | closed (name : Text) (attrs : List (Text × Text)) (rest : Text)
  /-- The header is malformed and yields nothing. -/
  | dropped (rest : Text)
  /-- The chunk ended within the header. -/
  | cut

/-- The end of a header, after its name and its attributes. -/
def headerEnd (name : Text) (attrs : List (Text × Text)) : Text → Header
  | [] => .cut
  | ['/'] => .cut
  | '/' :: '>' :: rest => .closed name attrs rest
  | '/' :: rest => .dropped rest
  | '>' :: rest => .opened name attrs rest
  | rest => .dropped rest

/-- Whether a character ends the name of a tag. -/
def endsName (c : Char) : Bool :=
  c == '/' || c == '>' || c == ' '

/-- Reads the header of a tag after its opening angle. -/
def readHeader (t : Text) : Header :=
  let name := Unicode.lower (t.takeWhile (!endsName ·))
  let rest := t.dropWhile (!endsName ·)
  if rest.head? == some ' ' then
    let (attrs, rest) := readAttrs name rest
    headerEnd name attrs rest
  else headerEnd name [] rest

/-- What follows the closing marker that a text starts with. -/
def skipClosing (t : Text) : Text :=
  (t.dropWhile (· != '>')).drop 1

/-- A tag that is open, with the tokens that stand before it on its own level. -/
structure OpenTag where
  /-- The name of the tag. -/
  name : Text
  /-- Its attributes. -/
  attrs : List (Text × Text)
  /-- The tokens before the tag. -/
  before : List Token

/-- What has been read of a chunk: the tags that are open, innermost first, and the tokens read so
far on the innermost level. -/
structure Reading where
  /-- The open tags. -/
  opened : List OpenTag := []
  /-- The tokens of the innermost level. -/
  siblings : List Token := []

namespace Reading

/-- Adds a token to the innermost level. -/
def push (r : Reading) (t : Token) : Reading :=
  { r with siblings := r.siblings ++ [t] }

/-- Opens a tag. -/
def enter (r : Reading) (name : Text) (attrs : List (Text × Text)) : Reading :=
  { opened := ⟨name, attrs, r.siblings⟩ :: r.opened, siblings := [] }

/-- Closes the innermost tag. With no tag open, a closing marker changes nothing. -/
def leave (r : Reading) : Reading :=
  match r.opened with
  | [] => r
  | top :: outer =>
    { opened := outer, siblings := top.before ++ [.tag top.name top.attrs r.siblings] }

/-- The complete tokens of the outermost level. -/
def complete (r : Reading) : List Token :=
  match r.opened.getLast? with
  | some outermost => outermost.before
  | none => r.siblings

end Reading

/-- Reads a chunk from the left, with the number of characters as an allowance. -/
def readWithin (allowance : Nat) (r : Reading) (t : Text) : Reading :=
  match allowance, t with
  | _, [] => r
  | 0, _ => r
  | allowance + 1, '<' :: '/' :: rest => readWithin allowance r.leave (skipClosing rest)
  | allowance + 1, '<' :: rest =>
    match readHeader rest with
    | .opened name attrs rest => readWithin allowance (r.enter name attrs) rest
    | .closed name attrs rest => readWithin allowance (r.push (.tag name attrs [])) rest
    | .dropped rest => readWithin allowance r rest
    | .cut => r
  | allowance + 1, t =>
    readWithin allowance (r.push (.text (t.takeWhile (· != '<')))) (t.dropWhile (· != '<'))

/-- The tokens of a chunk. -/
def read (t : Text) : List Token :=
  (readWithin t.length {} t).complete

end Mudline.Markup
