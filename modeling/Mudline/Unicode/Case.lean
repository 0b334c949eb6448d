import Mudline.Unicode.CaseTable
import Mudline.Unicode.Property

/-!
# Lower case, upper case and case folding

Case mappings of whole texts. Lower-casing looks at the neighbours of a character in one case only:
a capital sigma at the end of a word becomes a final sigma.
-/

namespace Mudline.Unicode

/-- Whether a code point is in a run. -/
def CaseRun.contains (r : CaseRun) (n : Nat) : Bool :=
  r.first ≤ n && (n - r.first) % r.stride == 0 && (n - r.first) / r.stride < r.count

/-- Shifts a character by the run that contains it. -/
def shiftBy (runs : List CaseRun) (c : Char) : Char :=
  match runs.find? (·.contains c.toNat) with
  | some r => Char.ofNat (r.image c.toNat)
  | none => c

/-- The lower case of a character apart from its neighbours. -/
def lowerChar (c : Char) : Text :=
  if isAscii c then [c.toLower]
  else if c == 'İ' then ['i', '\u0307']
  else [shiftBy lowerRuns c]

/-- The upper case of a character. -/
def upperChar (c : Char) : Text :=
  if isAscii c then [c.toUpper]
  else match upperExpansions.lookup c.toNat with
    | some expansion => expansion.map Char.ofNat
    | none => [shiftBy upperRuns c]

/-- The code points that case folding changes, with what they fold to. -/
def foldPairs : List (Nat × Nat) :=
  casePairs foldRuns

/-- The upper-case ASCII letters, with the lower-case ones. -/
def asciiFoldPairs : List (Nat × Nat) :=
  casePairs [⟨0x41, 26, 1, 32⟩]

/-- The characters that differ from a member of the set in nothing but case. -/
def foldCase (s : Charset) : Charset :=
  s.close foldPairs

/-- The characters that differ from a member of the set in nothing but the case of an ASCII
letter. -/
def foldAscii (s : Charset) : Charset :=
  s.close asciiFoldPairs

/-- Whether a cased character comes first once case-ignorable characters are passed over. -/
def casedNext (t : Text) : Bool :=
  match t.dropWhile isCaseIgnorable with
  | c :: _ => isCased c
  | [] => false

/-- Lower-cases a text that follows `before`, whose characters are given nearest first. -/
def lowerAfter (before : Text) : Text → Text
  | [] => []
  | c :: rest =>
    let mapped :=
      if c == 'Σ' then [if casedNext before && !casedNext rest then 'ς' else 'σ']
      else lowerChar c
    mapped ++ lowerAfter (c :: before) rest

/-- Lower-cases a text. -/
def lower (t : Text) : Text :=
  lowerAfter [] t

/-- Upper-cases a text. -/
def upper (t : Text) : Text :=
  t.flatMap upperChar

/-- Upper-cases the first character and lower-cases the others. -/
def capitalize : Text → Text
  | [] => []
  | c :: rest => upperChar c ++ lower rest

end Mudline.Unicode
