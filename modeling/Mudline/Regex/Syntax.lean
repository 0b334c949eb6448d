import Mudline.Unicode.Case

/-!
# Regular expressions

The tree of a regular expression over characters. Of two ways to match, the one that the tree lists
first is preferred, so alternatives are ordered and a repetition says whether it prefers more rounds
or fewer.
-/

namespace Mudline.Regex

/-- A condition on a place between two characters. -/
inductive Look
  /-- The start of the text. -/
  | textStart
  /-- The end of the text. -/
  | textEnd
  /-- The start of a line that follows a line feed. -/
  | lineStart
  /-- The end of a line, before a line feed. -/
  | lineEnd
  /-- The start of a line, where a carriage return and a line feed end a line together. -/
  | returnLineStart
  /-- The end of a line, where a carriage return and a line feed end a line together. -/
  | returnLineEnd
  /-- A place with a word character on exactly one side. -/
  | boundary (ascii : Bool)
  /-- A place with word characters on both sides or on neither. -/
  | noBoundary (ascii : Bool)
  /-- The place where a word starts. -/
  | wordStart (ascii : Bool)
  /-- The place where a word ends. -/
  | wordEnd (ascii : Bool)
  /-- A place that no word character comes before. -/
  | wordStartHalf (ascii : Bool)
  /-- A place that no word character comes after. -/
  | wordEndHalf (ascii : Bool)
  deriving DecidableEq, Repr

/-- Whether a character may be part of a word, in ASCII or at large. -/
def isWord (ascii : Bool) (c : Option Char) : Bool :=
  match c with
  | some c => if ascii && !Unicode.isAscii c then false else Unicode.isWordChar c
  | none => false

/-- Whether the condition holds between the characters `before` and `after`. -/
def Look.holds (before after : Option Char) : Look → Bool
  | .textStart => before.isNone
  | .textEnd => after.isNone
  | .lineStart => before.isNone || before == some '\n'
  | .lineEnd => after.isNone || after == some '\n'
  | .returnLineStart =>
    before.isNone || before == some '\n' || (before == some '\r' && after != some '\n')
  | .returnLineEnd =>
    after.isNone || after == some '\r' || (after == some '\n' && before != some '\r')
  | .boundary ascii => isWord ascii before != isWord ascii after
  | .noBoundary ascii => isWord ascii before == isWord ascii after
  | .wordStart ascii => !isWord ascii before && isWord ascii after
  | .wordEnd ascii => isWord ascii before && !isWord ascii after
  | .wordStartHalf ascii => !isWord ascii before
  | .wordEndHalf ascii => !isWord ascii after

/-- A regular expression. Sequences and alternatives lean to the right. -/
inductive Node
  /-- Matches the empty text. -/
  | empty
  /-- Matches a text of one character or more. -/
  | literal (t : Text)
  /-- Matches one character of a set. -/
  | set (s : Charset)
  /-- Matches the empty text where a condition holds. -/
  | look (l : Look)
  /-- Matches the body and records what it matched. -/
  | group (index : Nat) (body : Node)
  /-- Matches the body at least `min` times and at most `max` times. -/
  | loop (min : Nat) (max : Option Nat) (greedy : Bool) (body : Node)
  /-- Matches one after the other. -/
  | seq (first rest : Node)
  /-- Matches either, the first by preference. -/
  | alt (first rest : Node)
  deriving DecidableEq, Repr

namespace Node

/-- Whether some part is a set without characters. -/
def fails : Node → Bool
  | empty | literal _ | look _ => false
  | set s => s.isEmpty
  | group _ body => body.fails
  | loop _ _ _ body => body.fails
  | seq first rest => first.fails || rest.fails
  | alt first rest => first.fails || rest.fails

/-- Whether every match takes at least one character. -/
def takes : Node → Bool
  | empty | look _ => false
  | literal t => !t.isEmpty
  | set _ => true
  | group _ body => body.takes
  | loop min _ _ body => min != 0 && body.takes
  | seq first rest => first.takes || rest.takes
  | alt first rest => first.takes && rest.takes

/-- Whether no match takes a character. -/
def takesNone : Node → Bool
  | empty | look _ => true
  | literal t => t.isEmpty
  | set _ => false
  | group _ body => body.takesNone
  | loop _ max _ body => max == some 0 || body.takesNone
  | seq first rest => first.takesNone && rest.takesNone
  | alt first rest => first.takesNone && rest.takesNone

/-- The greatest index of a group, or zero. -/
def maxGroup : Node → Nat
  | empty | literal _ | look _ | set _ => 0
  | group index body => Nat.max index body.maxGroup
  | loop _ _ _ body => body.maxGroup
  | seq first rest => Nat.max first.maxGroup rest.maxGroup
  | alt first rest => Nat.max first.maxGroup rest.maxGroup

/-- Whether every match starts where the text does, by a condition that comes first. -/
def startsText : Node → Bool
  | empty | literal _ | set _ => false
  | look l => l == .textStart
  | group _ body => body.startsText
  | loop min _ _ body => min != 0 && body.startsText
  | seq first rest => first.startsText || (first.takesNone && rest.startsText)
  | alt first rest => first.startsText && rest.startsText

/-- Whether every match ends where the text does, by a condition that comes last. -/
def endsText : Node → Bool
  | empty | literal _ | set _ => false
  | look l => l == .textEnd
  | group _ body => body.endsText
  | loop min _ _ body => min != 0 && body.endsText
  | seq first rest => rest.endsText || (rest.takesNone && first.endsText)
  | alt first rest => first.endsText && rest.endsText

/-- How many nodes the tree has. -/
def size : Node → Nat
  | empty | literal _ | look _ | set _ => 1
  | group _ body => body.size + 1
  | loop _ _ _ body => body.size + 1
  | seq first rest => first.size + rest.size + 1
  | alt first rest => first.size + rest.size + 1

end Node

end Mudline.Regex
