import Mudline.Regex.Search
import Mudline.Text.Quoted
import Mudline.Text.Search

/-!
# Patterns

What a script waits for in the lines of the game: a regular expression, or a text that occurs in the
line as it stands.
-/

namespace Mudline

/-- How a pattern is matched. -/
inductive Pattern.Mode
  /-- As a regular expression. -/
  | regexp
  /-- As a text. -/
  | substring
  deriving DecidableEq, Repr

/-- A pattern that can be matched. -/
inductive Pattern
  /-- A regular expression, with its source. -/
  | regexp (source : Text) (regex : Regex)
  /-- A text to be found. -/
  | substring (source : Text)

namespace Pattern

/-- The pattern that a source stands for in a mode. -/
def compile (mode : Mode) (source : Text) : Except Regex.Error Pattern :=
  match mode with
  | .regexp => (Regex.compile source).map (regexp source)
  | .substring => .ok (substring source)

/-- The complaint about a source that is no pattern, with a report of the error. -/
def complaint (report : Text) : Text :=
  "regex error: ".toList ++ report

/-- The complaint with the first line of the report. -/
def errorMessage (e : Regex.Error) : Text :=
  complaint e.message

/-- The source of a pattern. -/
def source : Pattern → Text
  | regexp source _ => source
  | substring source => source

/-- How the pattern is matched. -/
def mode : Pattern → Mode
  | regexp _ _ => .regexp
  | substring _ => .substring

/-- The groups of the first match in a line, the whole match first. A group that took no part is
empty, and a text has no group but the whole. -/
def find? : Pattern → Text → Option (List Text)
  | regexp _ regex, line => regex.captures? line
  | substring source, line => if Text.occursIn source line then some [source] else none

/-- Whether a line matches. -/
def accepts (p : Pattern) (line : Text) : Bool :=
  (p.find? line).isSome

/-- The description of a pattern in diagnostics. -/
def describe (p : Pattern) : Text :=
  let mode : Text := match p.mode with
    | .regexp => "Regexp"
    | .substring => "Substr"
  "Pattern \x7b src: ".toList ++ Text.quoted p.source ++ ", mode: ".toList ++ mode ++ " \x7d".toList

end Pattern

end Mudline
