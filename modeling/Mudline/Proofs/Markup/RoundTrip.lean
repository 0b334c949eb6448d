import Mudline.Proofs.Markup.Forest
import Mathlib.Data.List.Basic
import Mathlib.Data.List.TakeWhile
import Mathlib.Tactic.SplitIfs

/-!
# Reading what was printed

A reader takes back what the printer has written, part by part: the characters of a value, an
attribute, a header, a forest. Each part is read off the front of a text, whatever follows it, and
the reader uses up one unit of its allowance for each loop that it takes.
-/

namespace Mudline

namespace Markup

/-- An ASCII character is told by the first byte of its encoding. -/
theorem leadByte_eq_iff {c stop : Char} (hstop : stop.toNat < 0x80) :
    leadByte c = stop.toNat ↔ c = stop := by
  constructor
  · intro h
    have hc : c.toNat = stop.toNat := by
      simp only [leadByte] at h
      split_ifs at h <;> omega
    rw [← Char.ofNat_toNat c, hc, Char.ofNat_toNat]
  · rintro rfl
    rw [leadByte, if_pos hstop]

section Quoted

variable {stop : Nat} {c : Char}

/-- A value ends at its delimiter. -/
theorem readQuoted_stop (h : leadByte c = stop) (rest : Text) :
    readQuoted stop (c :: rest) = ([], c :: rest) := by
  rw [readQuoted.eq_def]
  simp [h]

/-- An escape at the end of the text is dropped. -/
theorem readQuoted_escape_end (h : ¬(leadByte c == stop) = true)
    (hescape : (c == '\\' || c == '\r') = true) : readQuoted stop [c] = ([], []) := by
  rw [readQuoted.eq_def]
  simp only [h, hescape, if_true, Bool.false_eq_true, if_false]

/-- An escape takes the character behind it into the value. -/
theorem readQuoted_escape_next (h : ¬(leadByte c == stop) = true)
    (hescape : (c == '\\' || c == '\r') = true) (next : Char) (rest : Text) :
    readQuoted stop (c :: next :: rest) =
      (next :: (readQuoted stop rest).1, (readQuoted stop rest).2) := by
  rw [readQuoted.eq_def]
  simp only [h, hescape, if_true, Bool.false_eq_true, if_false]

/-- Any other character belongs to the value. -/
theorem readQuoted_plain (h : ¬(leadByte c == stop) = true)
    (hplain : ¬(c == '\\' || c == '\r') = true) (rest : Text) :
    readQuoted stop (c :: rest) = (c :: (readQuoted stop rest).1, (readQuoted stop rest).2) := by
  rw [readQuoted.eq_def]
  simp only [h, hplain, Bool.false_eq_true, if_false]

end Quoted

/-- An escaped value ends where its delimiter stands. -/
theorem readQuoted_escape (stop : Char) (hascii : stop.toNat < 0x80) (hstop : stop ≠ '\\')
    (value rest : Text) :
    readQuoted stop.toNat (escape stop value ++ stop :: rest) = (value, stop :: rest) := by
  induction value with
  | nil => exact readQuoted_stop ((leadByte_eq_iff hascii).mpr rfl) rest
  | cons c value ih =>
    have hcons : escape stop (c :: value) ++ stop :: rest =
        escapeChar stop c ++ (escape stop value ++ stop :: rest) := by
      simp [escape]
    rw [hcons]
    by_cases hc : c = '\\' ∨ c = stop ∨ c = '\r'
    · have hescape : escapeChar stop c = ['\\', c] := by
        rcases hc with rfl | rfl | rfl <;> simp [escapeChar]
      have hbackslash : ¬(leadByte '\\' == stop.toNat) = true := by
        rw [beq_iff_eq, leadByte_eq_iff hascii]
        exact fun h => hstop h.symm
      rw [hescape, List.cons_append, List.singleton_append, readQuoted_escape_next hbackslash rfl,
        ih]
    · obtain ⟨hslash, hne, hreturn⟩ : c ≠ '\\' ∧ c ≠ stop ∧ c ≠ '\r' := by
        simpa only [not_or] using hc
      have hescape : escapeChar stop c = [c] := by simp [escapeChar, hslash, hne, hreturn]
      have hcontent : ¬(leadByte c == stop.toNat) = true := by
        rwa [beq_iff_eq, leadByte_eq_iff hascii]
      have hplain : ¬(c == '\\' || c == '\r') = true := by simp [hslash, hreturn]
      rw [hescape, List.singleton_append, readQuoted_plain hcontent hplain, ih]

/-- A printed value is read up to its closing quote. -/
theorem readValue?_print {bracketed : Bool} {value : Text}
    (hbracket : bracketed = true → value.getLast? = some ']') (rest : Text) :
    readValue? bracketed (printValue bracketed value ++ rest) = some (value, rest) := by
  have hlead : leadByte '"' = '"'.toNat := rfl
  have hremnant : remnant '"' = [] := rfl
  have hquote : skipByte '"'.toNat ('"' :: rest) = rest := rfl
  cases bracketed with
  | true =>
    have hvalue : value.dropLast ++ [']'] = value := by
      obtain ⟨front, rfl⟩ := List.getLast?_eq_some_iff.mp (hbracket rfl)
      simp
    have hclose : skipByte ']'.toNat (']' :: '"' :: rest) = '"' :: rest := rfl
    have hread := readQuoted_escape ']' (by decide) (by decide) value.dropLast
      ('"' :: rest)
    have hprint : printValue true value ++ rest =
        '"' :: (escape ']' value.dropLast ++ ']' :: '"' :: rest) := by
      simp [printValue]
    simp only [hprint, readValue?, hlead, if_true, hread, hclose, hquote, hremnant, hvalue,
      List.nil_append]
  | false =>
    have hread := readQuoted_escape '"' (by decide) (by decide) value rest
    have hprint : printValue false value ++ rest = '"' :: (escape '"' value ++ '"' :: rest) := by
      simp [printValue]
    simp only [hprint, readValue?, hlead, Bool.false_eq_true, if_false, hread, hquote, hremnant,
      List.nil_append]

/-- A text is cut where a predicate fails for the first time. -/
theorem cut_append {p : Char → Bool} {front : Text} (hfront : ∀ c ∈ front, p c = true) {c : Char}
    (hc : p c = false) (rest : Text) :
    (front ++ c :: rest).takeWhile p = front ∧ (front ++ c :: rest).dropWhile p = c :: rest := by
  rw [List.takeWhile_append_of_pos hfront, List.dropWhile_append_of_pos hfront]
  simp [hc]

/-- A printed attribute is read whole, behind the space before it. -/
theorem readAttr_print {tag : Text} {attr : Text × Text} (hattr : PrintableAttr tag attr)
    (rest : Text) :
    readAttr tag (attr.1 ++ '=' :: (printValue (isBracketed tag attr.1) attr.2 ++ rest)) =
      (some attr, rest) := by
  have hkey : ∀ c ∈ attr.1, (c != '=') = true := by
    intro c hc
    have hne : c ≠ '=' := fun h => hattr.no_equals (h ▸ hc)
    simpa using hne
  obtain ⟨htake, hdrop⟩ := cut_append hkey (c := '=') (by decide)
    (printValue (isBracketed tag attr.1) attr.2 ++ rest)
  have hnonempty : attr.1.isEmpty = false := by simpa using hattr.key_ne_nil
  rw [readAttr]
  simp [htake, hdrop, hnonempty, readValue?_print hattr.bracket]

/-- At the end of a header there are no more attributes. -/
theorem readAttrsWithin_end (allowance : Nat) (tag rest : Text) :
    readAttrsWithin allowance tag ('>' :: rest) = ([], '>' :: rest) := by
  have hdrop : ('>' :: rest).dropWhile (· == ' ') = '>' :: rest := by simp
  rw [readAttrsWithin.eq_def]
  simp only [hdrop]
  cases allowance with
  | zero => rfl
  | succ allowance => simp

/-- Behind a blank, an attribute is read and then the others. -/
theorem readAttrsWithin_attr (allowance : Nat) (tag : Text) {c : Char} (hspace : c ≠ ' ')
    (hangle : c ≠ '>') (hslash : c ≠ '/') (rest : Text) :
    readAttrsWithin (allowance + 1) tag (' ' :: c :: rest) =
      ((readAttr tag (c :: rest)).1.toList ++
          (readAttrsWithin allowance tag (readAttr tag (c :: rest)).2).1,
        (readAttrsWithin allowance tag (readAttr tag (c :: rest)).2).2) := by
  have hdrop : (' ' :: c :: rest).dropWhile (· == ' ') = c :: rest := by
    simp [hspace]
  rw [readAttrsWithin.eq_def]
  simp only [hdrop]
  simp [hangle, hslash]

/-- Printed attributes are read up to the end of the header, one for each unit of the allowance. -/
theorem readAttrsWithin_print {tag : Text} {attrs : List (Text × Text)}
    (hattrs : ∀ attr ∈ attrs, PrintableAttr tag attr) (allowance : Nat) (rest : Text) :
    readAttrsWithin (allowance + attrs.length) tag (printAttrs tag attrs ++ '>' :: rest) =
      (attrs, '>' :: rest) := by
  induction attrs with
  | nil => exact readAttrsWithin_end _ tag rest
  | cons attr attrs ih =>
    have hattr := hattrs attr (by simp)
    have hrest := ih (fun a ha => hattrs a (by simp [ha]))
    obtain ⟨c, key, hkey⟩ := List.exists_cons_of_ne_nil hattr.key_ne_nil
    obtain ⟨hspace, hangle, hslash⟩ := hattr.first c (by simp [hkey])
    have hread := readAttr_print hattr (printAttrs tag attrs ++ '>' :: rest)
    have hprint : printAttrs tag (attr :: attrs) ++ '>' :: rest =
        ' ' :: (attr.1 ++ '=' :: (printValue (isBracketed tag attr.1) attr.2 ++
          (printAttrs tag attrs ++ '>' :: rest))) := by
      simp [printAttrs, printAttr]
    rw [hkey, List.cons_append] at hread
    rw [hprint, hkey, List.cons_append, List.length_cons, ← Nat.add_assoc,
      readAttrsWithin_attr _ _ hspace hangle hslash, hread, hrest]
    rfl

/-- The name of a printed header goes up to the attributes. -/
theorem cut_name {name : Text} (hname : ∀ c ∈ name, c ≠ '/' ∧ c ≠ '>' ∧ c ≠ ' ') {c : Char}
    (hc : endsName c = true) (rest : Text) :
    (name ++ c :: rest).takeWhile (!endsName ·) = name ∧
      (name ++ c :: rest).dropWhile (!endsName ·) = c :: rest := by
  have hfront : ∀ d ∈ name, (!endsName d) = true := by
    intro d hd
    obtain ⟨hslash, hangle, hspace⟩ := hname d hd
    simp [endsName, hslash, hangle, hspace]
  exact cut_append hfront (by simp [hc]) rest

/-- An attribute is printed with at least one character. -/
theorem length_le_printAttrs (tag : Text) (attrs : List (Text × Text)) :
    attrs.length ≤ (printAttrs tag attrs).length := by
  induction attrs with
  | nil => exact Nat.zero_le _
  | cons attr attrs ih =>
    have hcons : printAttrs tag (attr :: attrs) = printAttr tag attr ++ printAttrs tag attrs := rfl
    have hlength : (printAttr tag attr).length ≥ 1 := by simp [printAttr]
    rw [hcons, List.length_append, List.length_cons]
    omega

/-- A printed header is not taken for a closing marker. -/
theorem head?_header_ne {name : Text} {attrs : List (Text × Text)} (htag : PrintableTag name attrs)
    (rest : Text) : (name ++ (printAttrs name attrs ++ '>' :: rest)).head? ≠ some '/' := by
  cases name with
  | nil => cases attrs <;> simp [printAttrs, printAttr]
  | cons c name =>
    have hc := (htag.name_closed c (by simp)).1
    simpa using hc

/-- A printed header is read whole. -/
theorem readHeader_print {name : Text} {attrs : List (Text × Text)} (htag : PrintableTag name attrs)
    (rest : Text) :
    readHeader (name ++ (printAttrs name attrs ++ '>' :: rest)) = .opened name attrs rest := by
  cases attrs with
  | nil =>
    obtain ⟨htake, hdrop⟩ := cut_name htag.name_closed (c := '>') (by decide) rest
    have hprint : printAttrs name [] ++ '>' :: rest = '>' :: rest := rfl
    rw [hprint, readHeader]
    simp [htake, hdrop, htag.lower_eq, headerEnd]
  | cons attr attrs =>
    obtain ⟨tail, htail⟩ : ∃ tail, printAttrs name (attr :: attrs) ++ '>' :: rest = ' ' :: tail :=
      ⟨_, rfl⟩
    obtain ⟨htake, hdrop⟩ := cut_name htag.name_closed (c := ' ') (by decide) tail
    have hlength := length_le_printAttrs name (attr :: attrs)
    have hallowance : (' ' :: tail).length + 1 =
        (' ' :: tail).length + 1 - (attr :: attrs).length + (attr :: attrs).length := by
      have hle : (attr :: attrs).length ≤ (' ' :: tail).length := by
        rw [← htail, List.length_append]
        omega
      omega
    have hread : readAttrs name (' ' :: tail) = (attr :: attrs, '>' :: rest) := by
      rw [readAttrs, hallowance]
      rw [← htail]
      exact readAttrsWithin_print htag.attrs_printable _ rest
    rw [htail, readHeader]
    simp [htake, hdrop, htag.lower_eq, hread, headerEnd]

/-- Nothing is read of nothing. -/
theorem readWithin_nil (allowance : Nat) (r : Reading) : readWithin allowance r [] = r := by
  cases allowance <;> rfl

/-- A closing marker closes the innermost tag. -/
theorem readWithin_close (allowance : Nat) (r : Reading) (rest : Text) :
    readWithin (allowance + 1) r ('<' :: '/' :: rest) =
      readWithin allowance r.leave (skipClosing rest) := by
  rw [readWithin]

/-- A header opens a tag. -/
theorem readWithin_open {rest after : Text} {name : Text} {attrs : List (Text × Text)}
    (hslash : rest.head? ≠ some '/') (hheader : readHeader rest = .opened name attrs after)
    (allowance : Nat) (r : Reading) :
    readWithin (allowance + 1) r ('<' :: rest) =
      readWithin allowance (r.enter name attrs) after := by
  rw [readWithin, hheader]
  rintro tail rfl
  exact hslash rfl

/-- Characters up to the next angle bracket are a text. -/
theorem readWithin_text {c : Char} (hc : c ≠ '<') (allowance : Nat) (r : Reading) (rest : Text) :
    readWithin (allowance + 1) r (c :: rest) =
      readWithin allowance (r.push (.text ((c :: rest).takeWhile (· != '<'))))
        ((c :: rest).dropWhile (· != '<')) := by
  rw [readWithin.eq_def]
  simp [hc]

/-- Whether a text ends here: markup follows, or nothing. -/
def AtMarkup (rest : Text) : Prop :=
  ∀ c ∈ rest.head?, c = '<'

/-- A printed text is read whole where markup or nothing follows it. -/
theorem readWithin_chars {chars rest : Text} (hne : chars ≠ []) (hangle : '<' ∉ chars)
    (hrest : AtMarkup rest) (allowance : Nat) (r : Reading) :
    readWithin (allowance + 1) r (chars ++ rest) =
      readWithin allowance (r.push (.text chars)) rest := by
  have hchars : ∀ c ∈ chars, (c != '<') = true := by
    intro c hc
    have hc' : c ≠ '<' := fun h => hangle (h ▸ hc)
    simpa using hc'
  have hcut : (chars ++ rest).takeWhile (· != '<') = chars ∧
      (chars ++ rest).dropWhile (· != '<') = rest := by
    cases rest with
    | nil => simpa using hchars
    | cons d rest =>
      obtain rfl : d = '<' := hrest d rfl
      exact cut_append hchars (by decide) rest
  obtain ⟨c, tail, rfl⟩ := List.exists_cons_of_ne_nil hne
  have hc : c ≠ '<' := fun h => hangle (by simp [h])
  rw [List.cons_append] at hcut ⊢
  rw [readWithin_text hc, hcut.1, hcut.2]

/-- The closing marker of a tag ends the innermost level. -/
theorem readWithin_closing {name : Text} (hname : ∀ c ∈ name, c ≠ '/' ∧ c ≠ '>' ∧ c ≠ ' ')
    (allowance : Nat) (r : Reading) (rest : Text) :
    readWithin (allowance + 1) r ("</".toList ++ (name ++ ['>']) ++ rest) =
      readWithin allowance r.leave rest := by
  have hfront : ∀ c ∈ name, (c != '>') = true := by
    intro c hc
    simpa using (hname c hc).2.1
  have hskip : skipClosing (name ++ '>' :: rest) = rest := by
    rw [skipClosing, (cut_append hfront (by decide) rest).2, List.drop_one, List.tail_cons]
  have hprint : "</".toList ++ (name ++ ['>']) ++ rest = '<' :: '/' :: (name ++ '>' :: rest) := by
    simp
  rw [hprint, readWithin_close, hskip]

end Markup

namespace Token

open Markup

/-- How often the reader goes round for a printed token: once for a text, and twice for a tag, for
its header and its closing marker, beside what stands inside it. -/
def steps : Token → Nat
  | .text _ => 1
  | .tag _ _ children => stepsAll children + 2
where
  /-- How often the reader goes round for a printed forest. -/
  stepsAll : List Token → Nat
    | [] => 0
    | token :: rest => steps token + stepsAll rest

end Token

namespace Markup

open Token

mutual

/-- Each round of the reader takes a character at least. -/
theorem steps_le_length :
    ∀ {token : Token}, token.Printable → token.steps ≤ token.print.length
  | .text chars, hprintable => by
    have hne : chars ≠ [] := hprintable.1
    rw [steps, Token.print]
    exact List.length_pos_of_ne_nil hne
  | .tag name attrs children, hprintable => by
    have hchildren := stepsAll_le_length hprintable.2
    rw [steps, Token.print]
    simp only [List.length_cons, List.length_append]
    omega

/-- Reading printed tokens takes no more moves than they have characters. -/
theorem stepsAll_le_length :
    ∀ {tokens : List Token}, Printable.AllPrintable tokens →
      steps.stepsAll tokens ≤ (print.printAll tokens).length
  | [], _ => Nat.zero_le _
  | token :: rest, hprintable => by
    have htoken := steps_le_length hprintable.1
    have hrest := stepsAll_le_length hprintable.2
    rw [steps.stepsAll, print.printAll, List.length_append]
    omega

end

/-- Markup follows a text of a separated forest, or what follows the forest. -/
theorem atMarkup_printAll {tokens : List Token} (htext : startsWithText tokens = false)
    {rest : Text} (hrest : AtMarkup rest) : AtMarkup (print.printAll tokens ++ rest) := by
  match tokens, htext with
  | [], _ => exact hrest
  | .tag name attrs children :: tokens, _ =>
    intro c hc
    simpa [print.printAll, Token.print] using hc.symm

mutual

/-- A printed token is read whole and added to its level. -/
theorem readWithin_print :
    ∀ {token : Token}, token.Printable → token.Separated →
      ∀ {rest : Text}, (token.isText = true → AtMarkup rest) → ∀ (allowance : Nat) (r : Reading),
        readWithin (allowance + token.steps) r (token.print ++ rest) =
          readWithin allowance (r.push token) rest
  | .text chars, hprintable, _, rest, hrest, allowance, r => by
    rw [steps, Token.print]
    exact readWithin_chars hprintable.1 hprintable.2 (hrest rfl) allowance r
  | .tag name attrs children, hprintable, hseparated, rest, _, allowance, r => by
    obtain ⟨htag, hinside⟩ := hprintable
    let closing : Text := "</".toList ++ (name ++ ['>']) ++ rest
    have hprint : (Token.tag name attrs children).print ++ rest =
        '<' :: (name ++ (printAttrs name attrs ++
          '>' :: (print.printAll children ++ closing))) := by
      simp [Token.print, closing]
    have hslash := head?_header_ne htag (print.printAll children ++ closing)
    have hclosing : AtMarkup closing := by
      intro c hc
      simpa [closing] using hc.symm
    rw [hprint, steps, show allowance + (steps.stepsAll children + 2) =
        allowance + 1 + steps.stepsAll children + 1 by omega,
      readWithin_open hslash (readHeader_print htag _),
      readWithin_printAll hinside hseparated hclosing, readWithin_closing htag.name_closed]
    rfl

/-- A printed forest is read whole and added to its level. -/
theorem readWithin_printAll :
    ∀ {tokens : List Token}, Printable.AllPrintable tokens → Separated.AllSeparated tokens →
      ∀ {rest : Text}, AtMarkup rest → ∀ (allowance : Nat) (r : Reading),
        readWithin (allowance + steps.stepsAll tokens) r (print.printAll tokens ++ rest) =
          readWithin allowance { r with siblings := r.siblings ++ tokens } rest
  | [], _, _, rest, _, allowance, r => by simp [steps.stepsAll, print.printAll]
  | token :: tokens, hprintable, hseparated, rest, hrest, allowance, r => by
    obtain ⟨hbelow, hneighbours, htail⟩ := hseparated
    have hbehind : token.isText = true → AtMarkup (print.printAll tokens ++ rest) := by
      intro htext
      refine atMarkup_printAll ?_ hrest
      simpa [htext] using hneighbours
    rw [steps.stepsAll, print.printAll, List.append_assoc, Nat.add_comm token.steps,
      ← Nat.add_assoc, readWithin_print hprintable.1 hbelow hbehind,
      readWithin_printAll hprintable.2 htail hrest]
    simp [Reading.push]

end

/-- Reading takes back what printing has written. -/
theorem read_print_of_wellFormed {tokens : List Token} (h : WellFormed tokens) :
    read (Markup.print tokens) = tokens := by
  have hsteps := stepsAll_le_length h.printable
  obtain ⟨spare, hspare⟩ := Nat.exists_eq_add_of_le hsteps
  have hend : AtMarkup [] := by simp [AtMarkup]
  have hread := readWithin_printAll h.printable h.separated hend spare {}
  rw [List.append_nil, readWithin_nil, Nat.add_comm, ← hspare] at hread
  rw [read, Markup.print, hread]
  rfl

end Markup

end Mudline
