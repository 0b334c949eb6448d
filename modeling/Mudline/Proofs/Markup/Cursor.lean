import Mudline.Proofs.Markup.Boundary
import Mudline.Proofs.Markup.Bytes

/-!
# The cursor over bytes

The markup is read byte by byte. All characters that mean something are ASCII, and are found among
the bytes; the slices between them are decoded leniently. The one byte that may be part of a longer
character is the delimiter of a value, which is whatever byte follows the equals sign. This file
gives the moves of the cursor, and shows that the reader of characters makes the same ones: where
the cursor has cut a character, its bytes that are left are replacement characters to the reader.
-/

namespace Mudline

open Regex (utf8Bytes utf8Text)

namespace Markup

/-- Takes the bytes of a value up to `stop`, which is left. A backslash or a carriage return takes
the next byte as it is. -/
def takeQuoted (stop : Nat) : Bytes → Bytes × Bytes
  | [] => ([], [])
  | b :: rest =>
    if b == stop then ([], b :: rest)
    else if b == '\\'.toNat || b == '\r'.toNat then
      match rest with
      | [] => ([], [])
      | next :: rest => let (value, rest) := takeQuoted stop rest; (next :: value, rest)
    else let (value, rest) := takeQuoted stop rest; (b :: value, rest)

/-- Steps over a byte, if it is the next one. -/
def eat (byte : Nat) : Bytes → Bytes
  | [] => []
  | b :: rest => if b == byte then rest else b :: rest

/-- Takes the delimiter and the bytes of a value. A bracketed value keeps its closing bracket, or
gains one. -/
def takeValue? (bracketed : Bool) : Bytes → Option ((Nat × Bytes) × Bytes)
  | [] => none
  | delimiter :: rest =>
    let (value, rest) :=
      if bracketed then
        let (value, rest) := takeQuoted (']'.toNat) rest
        (value ++ [']'.toNat], eat (']'.toNat) rest)
      else takeQuoted delimiter rest
    some ((delimiter, value), eat delimiter rest)

/-- The slices of an attribute. -/
structure Slot where
  /-- The bytes before the equals sign. -/
  key : Bytes
  /-- The delimiter and the bytes of the value, unless the chunk ends before them. -/
  value? : Option (Nat × Bytes)

/-- Takes one attribute. An equals sign without a key is stepped over. -/
def takeAttr (tag : Text) (bs : Bytes) : Option Slot × Bytes :=
  let key := bs.takeWhile (· != '='.toNat)
  let rest := (bs.dropWhile (· != '='.toNat)).drop 1
  if key.isEmpty then (none, rest)
  else match takeValue? (isBracketed tag (lossy key)) rest with
    | some (value, rest) => (some ⟨key, some value⟩, rest)
    | none => (some ⟨key, none⟩, rest)

/-- Takes attributes up to the end of a header, with the number of bytes as an allowance. -/
def takeAttrsWithin (allowance : Nat) (tag : Text) (bs : Bytes) : List Slot × Bytes :=
  let bs := bs.dropWhile (· == ' '.toNat)
  match allowance, bs with
  | _, [] => ([], [])
  | 0, bs => ([], bs)
  | allowance + 1, b :: rest =>
    if b == '>'.toNat || b == '/'.toNat then ([], b :: rest)
    else
      let (slot?, rest) := takeAttr tag (b :: rest)
      let (slots, rest) := takeAttrsWithin allowance tag rest
      (slot?.toList ++ slots, rest)

/-- How the header of a tag ends. -/
inductive Ending
  | opened | closed | dropped | cut
  deriving DecidableEq, Repr

/-- Takes the end of a header. -/
def takeEnding : Bytes → Ending × Bytes
  | [] => (.cut, [])
  | b :: rest =>
    if b == '/'.toNat then
      match rest with
      | [] => (.cut, [])
      | d :: rest => if d == '>'.toNat then (.closed, rest) else (.dropped, d :: rest)
    else if b == '>'.toNat then (.opened, rest)
    else (.dropped, b :: rest)

/-- What the cursor takes in one move. -/
inductive Move
  /-- Character data. -/
  | text (slice : Bytes)
  /-- A closing marker. -/
  | closing
  /-- The header of a tag: its name and its attributes. -/
  | header (name : Bytes) (slots : List Slot) (ending : Ending)

/-- Whether a byte does not end the name of a tag. -/
def continuesName (b : Nat) : Bool :=
  !(b == '/'.toNat || b == '>'.toNat || b == ' '.toNat)

/-- Takes the header of a tag after its opening angle. -/
def takeHeader (bs : Bytes) : Move × Bytes :=
  let name := bs.takeWhile continuesName
  let rest := bs.dropWhile continuesName
  let (slots, rest) :=
    if rest.head? == some ' '.toNat then
      takeAttrsWithin (rest.length + 1) (Unicode.lower (lossy name)) rest
    else ([], rest)
  let (ending, rest) := takeEnding rest
  (.header name slots ending, rest)

/-- One move of the cursor. -/
def takeMove (bs : Bytes) : Move × Bytes :=
  if bs.head? == some '<'.toNat then
    if (bs.drop 1).head? == some '/'.toNat then
      (.closing, ((bs.drop 2).dropWhile (· != '>'.toNat)).drop 1)
    else takeHeader (bs.drop 1)
  else (.text (bs.takeWhile (· != '<'.toNat)), bs.dropWhile (· != '<'.toNat))

/-- The moves of the cursor, with the number of bytes as an allowance. -/
def movesWithin : Nat → Bytes → List Move
  | _, [] => []
  | 0, _ => []
  | allowance + 1, bs =>
    let (move, rest) := takeMove bs
    move :: movesWithin allowance rest

/-- The moves of the cursor over a chunk. -/
def moves (bs : Bytes) : List Move :=
  movesWithin bs.length bs

/-- The attribute that is decoded, if there is a value. -/
def Slot.attr? (s : Slot) : Option (Text × Text) :=
  s.value?.map fun value => (lossy s.key, lossy value.2)

/-- What is read once a move has been made. -/
def Reading.make (r : Reading) : Move → Reading
  | .text slice => r.push (.text (lossy slice))
  | .closing => r.leave
  | .header name slots ending =>
    let name := Unicode.lower (lossy name)
    let attrs := slots.filterMap Slot.attr?
    match ending with
    | .opened => r.enter name attrs
    | .closed => r.push (.tag name attrs [])
    | .dropped => r
    | .cut => r

/-- That bytes spell a text, where the bytes in front may be left of a character. -/
inductive Spells : Bytes → Text → Prop
  /-- The bytes of a text spell it. -/
  | whole (t : Text) : Spells (utf8Text t) t
  /-- What is left of a character spells a replacement character with each byte. -/
  | stray {b : Nat} {bs : Bytes} {t : Text} (hb : isTail b = true) (h : Spells bs t) :
    Spells (b :: bs) ('\uFFFD' :: t)

/-- Bytes are decoded as the text that they spell. -/
theorem Spells.lossy_eq {bs : Bytes} {t : Text} (h : Spells bs t) : lossy bs = t := by
  induction h with
  | whole t => exact lossy_utf8Text t
  | stray hb _ ih => rw [lossy_tail hb, ih]

/-- Stray tails in front are replacement characters. -/
theorem Spells.tails_append {stray : Bytes} (hstray : ∀ b ∈ stray, isTail b = true) {bs : Bytes}
    {t : Text} (h : Spells bs t) :
    Spells (stray ++ bs) (List.replicate stray.length '\uFFFD' ++ t) := by
  induction stray with
  | nil => exact h
  | cons b stray ih =>
    obtain ⟨hb, hrest⟩ := List.forall_mem_cons.mp hstray
    exact .stray hb (ih hrest)

/-- What is left of a character behind its first byte. -/
theorem spells_remnant (c : Char) {bs : Bytes} {t : Text} (h : Spells bs t) :
    Spells (tails c ++ bs) (remnant c ++ t) := by
  have hspells := h.tails_append fun b (hb : b ∈ tails c) => isTail_of_mem_tails hb
  rwa [length_tails] at hspells

section Ascii

variable {stop : Char} (hstop : stop.toNat < 0x80)

include hstop

/-- A lead byte is that of an ASCII character exactly if the character is this one. -/
theorem leadByte_beq (c : Char) : (leadByte c == stop.toNat) = (c == stop) := by
  rw [Bool.eq_iff_iff, beq_iff_eq, beq_iff_eq, leadByte_eq_iff hstop]

/-- A lead byte is another exactly if the character is another. -/
theorem leadByte_bne (c : Char) : (leadByte c != stop.toNat) = (c != stop) := by
  rw [bne, bne, leadByte_beq hstop]

/-- A tail is no ASCII character. -/
theorem isTail_bne {b : Nat} (hb : isTail b = true) : (b != stop.toNat) = true := by
  simp only [isTail, Bool.and_eq_true, decide_eq_true_eq] at hb
  rw [bne_iff_ne]
  omega

/-- No tail is an ASCII character. -/
theorem isTail_beq {b : Nat} (hb : isTail b = true) : (b == stop.toNat) = false :=
  beq_false_of_ne (bne_iff_ne.mp (isTail_bne hstop hb))

/-- Up to an ASCII character, the bytes are cut where the text is. -/
theorem Spells.cut {bs : Bytes} {t : Text} (h : Spells bs t) (hne : '\uFFFD' ≠ stop) :
    Spells (bs.takeWhile (· != stop.toNat)) (t.takeWhile (· != stop)) ∧
      bs.dropWhile (· != stop.toNat) = utf8Text (t.dropWhile (· != stop)) := by
  induction h with
  | whole t =>
    obtain ⟨htake, hdrop⟩ := takeWhile_utf8Text (p := (· != stop)) (q := (· != stop.toNat))
      (leadByte_bne hstop) (fun c _ b hb => isTail_bne hstop (isTail_of_mem_tails hb)) t
    exact ⟨htake ▸ .whole _, hdrop⟩
  | stray hb _ ih =>
    have hchar : ('\uFFFD' != stop) = true := bne_iff_ne.mpr hne
    rw [List.takeWhile_cons_of_pos (p := (· != stop.toNat)) (isTail_bne hstop hb),
      List.dropWhile_cons_of_pos (p := (· != stop.toNat)) (isTail_bne hstop hb),
      List.takeWhile_cons_of_pos (p := (· != stop)) hchar,
      List.dropWhile_cons_of_pos (p := (· != stop)) hchar]
    exact ⟨.stray hb ih.1, ih.2⟩

/-- An ASCII character is its own byte. -/
theorem utf8Text_ascii (t : Text) : utf8Text (stop :: t) = stop.toNat :: utf8Text t := by
  have hlead : leadByte stop = stop.toNat := (leadByte_eq_iff hstop).mpr rfl
  have hnone : tails stop = [] := tails_eq_nil_iff.mpr (hlead ▸ hstop)
  rw [utf8Text_cons, hlead, hnone]
  rfl

/-- Behind a cut, the bytes go on after the character as the text does. -/
theorem drop_utf8Text (t : Text) :
    (utf8Text (t.dropWhile (· != stop))).drop 1 = utf8Text ((t.dropWhile (· != stop)).drop 1) := by
  cases hdrop : t.dropWhile (· != stop) with
  | nil => rfl
  | cons c rest =>
    have hc : c = stop := by
      have hhead := List.head?_dropWhile_not (· != stop) t
      simpa [hdrop] using hhead
    rw [hc, utf8Text_ascii hstop]
    rfl

end Ascii

/-- A blank has no tails that are not blanks. -/
theorem tails_of_blank (c : Char) (hc : (c == ' ') = true) :
    ∀ b ∈ tails c, (b == ' '.toNat) = true := by
  rw [beq_iff_eq] at hc
  subst hc
  exact List.forall_mem_nil _

/-- Skipping blanks skips the same ones. -/
theorem Spells.skipBlanks {bs : Bytes} {t : Text} (h : Spells bs t) :
    Spells (bs.dropWhile (· == ' '.toNat)) (t.dropWhile (· == ' ')) := by
  have hblank : ' '.toNat < 0x80 := by decide
  cases h with
  | whole t =>
    have hdrop := (takeWhile_utf8Text (leadByte_beq hblank) tails_of_blank t).2
    exact hdrop ▸ .whole _
  | stray hb h =>
    have hbyte := (isTail_beq hblank hb).trans_ne Bool.false_ne_true
    rw [List.dropWhile_cons_of_neg (p := (· == ' '.toNat)) hbyte,
      List.dropWhile_cons_of_neg (p := (· == ' ')) (by decide)]
    exact .stray hb h

/-- Whether a byte takes the next one as it is. -/
def isEscape (b : Nat) : Bool :=
  b == '\\'.toNat || b == '\r'.toNat

section Quoted

variable {stop b : Nat} {rest : Bytes}

/-- A value ends at its delimiter. -/
theorem takeQuoted_stop (h : (b == stop) = true) :
    takeQuoted stop (b :: rest) = ([], b :: rest) := by
  rw [takeQuoted.eq_def]
  simp only [h, if_true]

/-- An escape at the end of the bytes is dropped. -/
theorem takeQuoted_escape_end (h : ¬(b == stop) = true) (hescape : isEscape b = true) :
    takeQuoted stop [b] = ([], []) := by
  rw [isEscape] at hescape
  rw [takeQuoted.eq_def]
  simp only [h, hescape, if_true, Bool.false_eq_true, if_false]

/-- An escape takes the byte behind it into the value. -/
theorem takeQuoted_escape_next (h : ¬(b == stop) = true) (hescape : isEscape b = true)
    (next : Nat) :
    takeQuoted stop (b :: next :: rest) =
      (next :: (takeQuoted stop rest).1, (takeQuoted stop rest).2) := by
  rw [isEscape] at hescape
  rw [takeQuoted.eq_def]
  simp only [h, hescape, if_true, Bool.false_eq_true, if_false]

/-- Any other byte belongs to the value. -/
theorem takeQuoted_plain (h : ¬(b == stop) = true) (hplain : ¬isEscape b = true) :
    takeQuoted stop (b :: rest) = (b :: (takeQuoted stop rest).1, (takeQuoted stop rest).2) := by
  rw [isEscape] at hplain
  rw [takeQuoted.eq_def]
  simp only [h, hplain, Bool.false_eq_true, if_false]

end Quoted

/-- A character begins an escape if it is a backslash or a carriage return. -/
theorem isEscape_leadByte (c : Char) : isEscape (leadByte c) = (c == '\\' || c == '\r') := by
  rw [isEscape, leadByte_beq (by decide), leadByte_beq (by decide)]

/-- A character that begins an escape has no tails. -/
theorem tails_of_escape {c : Char} (h : (c == '\\' || c == '\r') = true) : tails c = [] := by
  rw [Bool.or_eq_true, beq_iff_eq, beq_iff_eq] at h
  rcases h with rfl | rfl <;> rfl

section Values

variable {stop : Nat} (hstop : isTail stop = false)

include hstop

/-- What is left of a character belongs to the value. -/
theorem takeQuoted_tails {stray : Bytes} (hstray : ∀ b ∈ stray, isTail b = true) (bs : Bytes) :
    takeQuoted stop (stray ++ bs) = (stray ++ (takeQuoted stop bs).1, (takeQuoted stop bs).2) := by
  induction stray with
  | nil => rfl
  | cons b stray ih =>
    obtain ⟨hb, hrest⟩ := List.forall_mem_cons.mp hstray
    have hne : ¬(b == stop) = true := by
      rw [beq_iff_eq]
      rintro rfl
      rw [hb] at hstop
      cases hstop
    have hplain : ¬isEscape b = true := by
      rw [isEscape, isTail_beq (by decide) hb, isTail_beq (by decide) hb]
      exact Bool.false_ne_true
    rw [List.cons_append, takeQuoted_plain hne hplain, ih hrest]
    rfl

/-- The bytes of a value are those of the characters of the value. -/
theorem takeQuoted_utf8Text (t : Text) :
    takeQuoted stop (utf8Text t) =
      (utf8Text (readQuoted stop t).1, utf8Text (readQuoted stop t).2) := by
  induction t using readQuoted.induct stop with
  | case1 => rfl
  | case2 c rest hc =>
    rw [readQuoted_stop (beq_iff_eq.mp hc), utf8Text_cons, takeQuoted_stop hc]
    rfl
  | case3 c hc hescape =>
    have hlead : isEscape (leadByte c) = true := (isEscape_leadByte c).trans hescape
    rw [readQuoted_escape_end hc hescape, utf8Text_cons, tails_of_escape hescape]
    exact takeQuoted_escape_end hc hlead
  | case4 c hc hescape next rest value left hread ih =>
    have hlead : isEscape (leadByte c) = true := (isEscape_leadByte c).trans hescape
    rw [readQuoted_escape_next hc hescape, utf8Text_cons, tails_of_escape hescape,
      List.nil_append, utf8Text_cons, takeQuoted_escape_next hc hlead,
      takeQuoted_tails hstop (fun b hb => isTail_of_mem_tails hb), ih, utf8Text_cons]
  | case5 c rest hc hplain value left hread ih =>
    have hlead : ¬isEscape (leadByte c) = true := by rwa [isEscape_leadByte]
    rw [readQuoted_plain hc hplain, utf8Text_cons, takeQuoted_plain hc hlead,
      takeQuoted_tails hstop (fun b hb => isTail_of_mem_tails hb), ih, utf8Text_cons]

end Values

/-- Stepping over a first byte leaves the others of its character. -/
theorem spells_eat (byte : Nat) (t : Text) :
    Spells (eat byte (utf8Text t)) (skipByte byte t) := by
  cases t with
  | nil => exact .whole []
  | cons c rest =>
    rw [utf8Text_cons, eat, skipByte]
    split
    · exact spells_remnant c (.whole rest)
    · exact utf8Text_cons c rest ▸ .whole (c :: rest)

/-- Eating a byte of ASCII is skipping it in the text. -/
theorem eat_utf8Text {byte : Nat} (hbyte : byte < 0x80) (t : Text) :
    eat byte (utf8Text t) = utf8Text (skipByte byte t) := by
  cases t with
  | nil => rfl
  | cons c rest =>
    rw [utf8Text_cons, eat, skipByte]
    split
    · rename_i hlead
      have hnone : tails c = [] := tails_eq_nil_iff.mpr (beq_iff_eq.mp hlead ▸ hbyte)
      have hremnant : remnant c = [] := by
        rw [remnant, ← length_tails, hnone]
        rfl
      rw [hnone, hremnant]
      rfl
    · rw [utf8Text_cons]

/-- The characters of a value behind what is left of its delimiter, and those behind the value. -/
def valueChars (bracketed : Bool) (stop : Nat) (t : Text) : Text × Text :=
  if bracketed then
    ((readQuoted (']'.toNat) t).1 ++ [']'], skipByte (']'.toNat) (readQuoted (']'.toNat) t).2)
  else readQuoted stop t

/-- The value behind a delimiter is what remains of the delimiter and the characters up to the
next. -/
theorem readValue?_cons (bracketed : Bool) (delimiter : Char) (t : Text) :
    readValue? bracketed (delimiter :: t) =
      some (remnant delimiter ++ (valueChars bracketed (leadByte delimiter) t).1,
        skipByte (leadByte delimiter) (valueChars bracketed (leadByte delimiter) t).2) := by
  cases bracketed <;> rfl

/-- A value is cut where its characters are, but it begins with what is left of its delimiter. -/
theorem takeValue?_cons (bracketed : Bool) (delimiter : Char) (t : Text) :
    takeValue? bracketed (utf8Text (delimiter :: t)) =
      some ((leadByte delimiter,
          tails delimiter ++ utf8Text (valueChars bracketed (leadByte delimiter) t).1),
        eat (leadByte delimiter)
          (utf8Text (valueChars bracketed (leadByte delimiter) t).2)) := by
  have htails (b : Nat) (hb : b ∈ tails delimiter) : isTail b = true := isTail_of_mem_tails hb
  rw [utf8Text_cons, takeValue?]
  cases bracketed with
  | true =>
    have hclosed : isTail (']'.toNat) = false := by decide
    simp only [if_true, valueChars, takeQuoted_tails hclosed htails, takeQuoted_utf8Text hclosed,
      eat_utf8Text (by decide : ']'.toNat < 0x80), utf8Text_append, List.append_assoc]
    rfl
  | false =>
    have hlead := isTail_leadByte delimiter
    simp only [Bool.false_eq_true, if_false, valueChars, takeQuoted_tails hlead htails,
      takeQuoted_utf8Text hlead]

/-- The value begins with what is left of the character whose first byte was the delimiter. -/
def Slot.Marked (s : Slot) : Prop :=
  ∀ delimiter value, s.value? = some (delimiter, value) →
    ∃ c, delimiter = leadByte c ∧ tails c <+: value

/-- Only no bytes spell nothing. -/
theorem Spells.eq_nil_iff {bs : Bytes} {t : Text} (h : Spells bs t) : bs = [] ↔ t = [] := by
  cases h with
  | whole t =>
    cases t with
    | nil => exact iff_of_true rfl rfl
    | cons c t => exact iff_of_false (by simp [utf8Text_cons]) (List.cons_ne_nil c t)
  | stray => exact iff_of_false (List.cons_ne_nil _ _) (List.cons_ne_nil _ _)

/-- A text is no longer than the bytes that spell it. -/
theorem Spells.length_le {bs : Bytes} {t : Text} (h : Spells bs t) : t.length ≤ bs.length := by
  induction h with
  | whole t =>
    induction t with
    | nil => exact Nat.le_refl _
    | cons c t ih =>
      rw [utf8Text_cons, List.length_cons, List.length_cons, List.length_append]
      omega
  | stray _ _ ih => exact Nat.succ_le_succ ih

/-- One attribute of the bytes is that of the characters. -/
structure AttrAgrees (bytes : Option Slot × Bytes) (chars : Option (Text × Text) × Text) :
    Prop where
  /-- The slices are decoded to the key and the value. -/
  attr : bytes.1.bind Slot.attr? = chars.1
  /-- What is left spells what is left. -/
  left : Spells bytes.2 chars.2
  /-- The value begins where the delimiter was cut. -/
  marked : ∀ s ∈ bytes.1, s.Marked

/-- An attribute may begin and end within a character, where the delimiter before it or its own has
been cut. -/
theorem Spells.takeAttr {bs : Bytes} {t : Text} (h : Spells bs t) (tag : Text) :
    AttrAgrees (takeAttr tag bs) (readAttr tag t) := by
  have hascii : '='.toNat < 0x80 := by decide
  obtain ⟨hkey, hrest⟩ := h.cut hascii (by decide)
  have hempty : (bs.takeWhile (· != '='.toNat)).isEmpty = (t.takeWhile (· != '=')).isEmpty := by
    rw [Bool.eq_iff_iff, List.isEmpty_iff, List.isEmpty_iff, hkey.eq_nil_iff]
  rw [Markup.takeAttr, readAttr, hrest, drop_utf8Text hascii, hempty, hkey.lossy_eq]
  generalize (t.dropWhile (· != '=')).drop 1 = left
  split
  · exact ⟨rfl, .whole left, fun s hs => absurd hs (Option.not_mem_none s)⟩
  · rcases left with _ | ⟨delimiter, left⟩
    · exact ⟨rfl, .whole [], by simp [takeValue?, utf8Text, Slot.Marked]⟩
    · rw [takeValue?_cons, readValue?_cons]
      have hvalue := spells_remnant delimiter
        (.whole (valueChars (isBracketed tag (t.takeWhile (· != '='))) (leadByte delimiter) left).1)
      refine ⟨?_, spells_eat _ _, ?_⟩
      · simp only [Option.bind_some, Slot.attr?, Option.map_some, hkey.lossy_eq, hvalue.lossy_eq]
      · intro s hs d value hslot
        obtain rfl := Option.some.inj hs
        simp only [Option.some.injEq, Prod.mk.injEq] at hslot
        exact ⟨delimiter, hslot.1.symm, hslot.2 ▸ List.prefix_append _ _⟩

section Attrs

variable {bs rest : Bytes} {b : Nat}

/-- Among blanks there are no attributes. -/
theorem takeAttrsWithin_blank (h : bs.dropWhile (· == ' '.toNat) = []) (allowance : Nat)
    (tag : Text) : takeAttrsWithin allowance tag bs = ([], []) := by
  rw [takeAttrsWithin.eq_def]
  simp only [h]

/-- Without an allowance there are no attributes. -/
theorem takeAttrsWithin_zero (tag : Text) (bs : Bytes) :
    takeAttrsWithin 0 tag bs = ([], bs.dropWhile (· == ' '.toNat)) := by
  rw [takeAttrsWithin.eq_def]
  cases bs.dropWhile (· == ' '.toNat) <;> rfl

/-- Where a header ends, there are no more attributes. -/
theorem takeAttrsWithin_stop (h : bs.dropWhile (· == ' '.toNat) = b :: rest)
    (hb : (b == '>'.toNat || b == '/'.toNat) = true) (allowance : Nat) (tag : Text) :
    takeAttrsWithin (allowance + 1) tag bs = ([], b :: rest) := by
  rw [takeAttrsWithin.eq_def]
  simp only [h]
  rw [if_pos hb]

/-- Before the end of a header, an attribute is taken and then the others. -/
theorem takeAttrsWithin_next (h : bs.dropWhile (· == ' '.toNat) = b :: rest)
    (hb : ¬(b == '>'.toNat || b == '/'.toNat) = true) (allowance : Nat) (tag : Text) :
    takeAttrsWithin (allowance + 1) tag bs =
      ((takeAttr tag (b :: rest)).1.toList ++
          (takeAttrsWithin allowance tag (takeAttr tag (b :: rest)).2).1,
        (takeAttrsWithin allowance tag (takeAttr tag (b :: rest)).2).2) := by
  rw [takeAttrsWithin.eq_def]
  simp only [h]
  rw [if_neg hb]

end Attrs

/-- Bytes in front are those of the first character, or left of a character before it. -/
theorem Spells.cons_cases {b : Nat} {bs : Bytes} {c : Char} {t : Text}
    (h : Spells (b :: bs) (c :: t)) :
    b :: bs = utf8Text (c :: t) ∧ b = leadByte c ∨ isTail b = true ∧ c = '\uFFFD' := by
  generalize hbytes : b :: bs = front at h
  cases h with
  | whole =>
    have hparts := hbytes.trans (utf8Text_cons c t)
    exact .inl ⟨rfl, (List.cons.inj hparts).1⟩
  | stray hb => exact .inr ⟨(List.cons.inj hbytes).1 ▸ hb, rfl⟩

/-- The attribute of a slot, if it has one. -/
theorem filterMap_toList (slot? : Option Slot) :
    slot?.toList.filterMap Slot.attr? = (slot?.bind Slot.attr?).toList := by
  rcases slot? with _ | s
  · rfl
  · cases hattr : s.attr? <;> simp [hattr]

/-- The attributes of the bytes are those of the characters. -/
structure AttrsAgree (bytes : List Slot × Bytes) (chars : List (Text × Text) × Text) : Prop where
  /-- The slices are decoded to the keys and the values. -/
  attrs : bytes.1.filterMap Slot.attr? = chars.1
  /-- What is left is the bytes of what is left. -/
  left : bytes.2 = utf8Text chars.2
  /-- Each value begins where its delimiter was cut. -/
  marked : ∀ s ∈ bytes.1, s.Marked

/-- The attributes end at an ASCII character, so that no part of a character is left then. -/
theorem Spells.takeAttrsWithin {bs : Bytes} {t : Text} (h : Spells bs t) {allowance larger : Nat}
    (hallowance : t.length < allowance) (hlarger : allowance ≤ larger) (tag : Text) :
    AttrsAgree (takeAttrsWithin larger tag bs) (readAttrsWithin allowance tag t) := by
  induction allowance generalizing larger bs t with
  | zero => exact absurd hallowance (Nat.not_lt_zero _)
  | succ allowance ih =>
    obtain ⟨larger, rfl⟩ : ∃ n, larger = n + 1 := Nat.exists_eq_succ_of_ne_zero (by omega)
    have hblank := h.skipBlanks
    have hshorter := length_dropWhile_le (· == ' ') t
    cases hchars : t.dropWhile (· == ' ') with
    | nil =>
      rw [hchars] at hblank
      rw [readAttrsWithin_blank hchars, takeAttrsWithin_blank (hblank.eq_nil_iff.mpr rfl)]
      exact ⟨rfl, rfl, List.forall_mem_nil _⟩
    | cons c left =>
      rw [hchars] at hblank hshorter
      cases hbytes : bs.dropWhile (· == ' '.toNat) with
      | nil => exact absurd (hblank.eq_nil_iff.mp hbytes) (List.cons_ne_nil c left)
      | cons b rest =>
        rw [hbytes] at hblank
        have hends : (b == '>'.toNat || b == '/'.toNat) = (c == '>' || c == '/') := by
          rcases hblank.cons_cases with ⟨-, rfl⟩ | ⟨hb, rfl⟩
          · exact congrArg₂ _ (leadByte_beq (by decide) c) (leadByte_beq (by decide) c)
          · rw [isTail_beq (by decide) hb, isTail_beq (by decide) hb]
            rfl
        -- What is left of a character ends no header: it goes into the next key.
        by_cases hc : (c == '>' || c == '/') = true
        · rw [readAttrsWithin_stop hchars hc, takeAttrsWithin_stop hbytes (hends.trans hc)]
          rcases hblank.cons_cases with ⟨hwhole, -⟩ | ⟨-, rfl⟩
          · exact ⟨rfl, hwhole, List.forall_mem_nil _⟩
          · exact absurd hc (by decide)
        · have hattr := hblank.takeAttr tag
          have hless := length_readAttr_lt tag (List.cons_ne_nil c left)
          obtain ⟨hattrs, hleft, hmarked⟩ :=
            ih hattr.left (by omega) (Nat.le_of_succ_le_succ hlarger)
          rw [readAttrsWithin_next hchars hc, takeAttrsWithin_next hbytes (hends ▸ hc)]
          refine ⟨?_, hleft, ?_⟩
          · rw [List.filterMap_append, hattrs, filterMap_toList, hattr.attr]
          · intro s hs
            rcases List.mem_append.mp hs with hfirst | hothers
            · exact hattr.marked s (by simpa using hfirst)
            · exact hmarked s hothers

/-- The attributes of a move. -/
def Move.slots : Move → List Slot
  | .header _ slots _ => slots
  | _ => []

/-- One move over the bytes is that of the reader over the characters. -/
structure MoveAgrees (r : Reading) (bytes : Move × Bytes) (chars : Reading × Text) : Prop where
  /-- The same is read. -/
  reading : r.make bytes.1 = chars.1
  /-- What is left is the bytes of what is left. -/
  left : bytes.2 = utf8Text chars.2
  /-- Each value begins where its delimiter was cut. -/
  marked : ∀ s ∈ bytes.1.slots, s.Marked

/-- Bytes and text agree on how a header ends. -/
theorem takeEnding_agrees (r : Reading) (name : Bytes) {slots : List Slot}
    (hslots : ∀ s ∈ slots, s.Marked) (t : Text) :
    MoveAgrees r (.header name slots (takeEnding (utf8Text t)).1, (takeEnding (utf8Text t)).2)
      (r.withHeader
        (headerEnd (Unicode.lower (lossy name)) (slots.filterMap Slot.attr?) t)) := by
  rcases t with _ | ⟨c, t⟩
  · exact ⟨rfl, rfl, hslots⟩
  · by_cases hslash : c = '/'
    · subst hslash
      rw [utf8Text_ascii (by decide)]
      rcases t with _ | ⟨d, t⟩
      · exact ⟨rfl, rfl, hslots⟩
      · by_cases hangle : d = '>'
        · subst hangle
          rw [utf8Text_ascii (by decide)]
          exact ⟨rfl, rfl, hslots⟩
        · have hlead : (leadByte d == '>'.toNat) = false := by
            rw [leadByte_beq (by decide)]
            simpa using hangle
          have hchars : headerEnd (Unicode.lower (lossy name)) (slots.filterMap Slot.attr?)
              ('/' :: d :: t) = .dropped (d :: t) := by
            simp [headerEnd, hangle]
          rw [hchars, utf8Text_cons]
          simp only [takeEnding, hlead, beq_self_eq_true, if_true, Bool.false_eq_true, if_false]
          exact ⟨rfl, (utf8Text_cons d t).symm, hslots⟩
    · by_cases hangle : c = '>'
      · subst hangle
        rw [utf8Text_ascii (by decide)]
        exact ⟨rfl, rfl, hslots⟩
      · have hlead : (leadByte c == '/'.toNat) = false ∧ (leadByte c == '>'.toNat) = false := by
          rw [leadByte_beq (by decide), leadByte_beq (by decide)]
          simpa using And.intro hslash hangle
        have hchars : headerEnd (Unicode.lower (lossy name)) (slots.filterMap Slot.attr?)
            (c :: t) = .dropped (c :: t) := by
          simp [headerEnd, hslash, hangle]
        rw [hchars, utf8Text_cons]
        simp only [takeEnding, hlead.1, hlead.2, Bool.false_eq_true, if_false]
        exact ⟨rfl, (utf8Text_cons c t).symm, hslots⟩

/-- A character continues a name if it does not end one. -/
theorem continuesName_leadByte (c : Char) : continuesName (leadByte c) = !endsName c := by
  rw [continuesName, endsName, leadByte_beq (by decide), leadByte_beq (by decide),
    leadByte_beq (by decide)]

/-- A tail continues a name. -/
theorem continuesName_of_isTail {b : Nat} (hb : isTail b = true) : continuesName b = true := by
  rw [continuesName, isTail_beq (by decide) hb, isTail_beq (by decide) hb,
    isTail_beq (by decide) hb]
  rfl

/-- The first byte is that of an ASCII character exactly if the first character is this one. -/
theorem head?_utf8Text {stop : Char} (hstop : stop.toNat < 0x80) (t : Text) :
    ((utf8Text t).head? == some stop.toNat) = (t.head? == some stop) := by
  rcases t with _ | ⟨c, t⟩
  · rfl
  · rw [utf8Text_cons, List.head?_cons, List.head?_cons]
    exact leadByte_beq hstop c

/-- Bytes and text agree on a header. -/
theorem takeHeader_agrees (r : Reading) (t : Text) :
    MoveAgrees r (takeHeader (utf8Text t)) (r.withHeader (readHeader t)) := by
  obtain ⟨hname, hrest⟩ := takeWhile_utf8Text continuesName_leadByte
    (fun c _ b hb => continuesName_of_isTail (isTail_of_mem_tails hb)) t
  rw [takeHeader, readHeader, hname, hrest, head?_utf8Text (by decide), lossy_utf8Text]
  generalize t.takeWhile (!endsName ·) = name
  generalize t.dropWhile (!endsName ·) = left
  by_cases hspace : (left.head? == some ' ') = true
  · have hspells := Spells.whole left
    have hallowance : left.length < left.length + 1 := Nat.lt_succ_self _
    have hlarger : left.length + 1 ≤ (utf8Text left).length + 1 :=
      Nat.succ_le_succ hspells.length_le
    obtain ⟨hattrs, hleft, hmarked⟩ :=
      hspells.takeAttrsWithin hallowance hlarger (Unicode.lower name)
    have hagrees := takeEnding_agrees r (utf8Text name) hmarked
      (readAttrs (Unicode.lower name) left).2
    rw [lossy_utf8Text, hattrs, readAttrs, ← hleft] at hagrees
    simpa only [hspace, if_true, readAttrs] using hagrees
  · have hnone : ∀ s ∈ ([] : List Slot), s.Marked := List.forall_mem_nil _
    have hagrees := takeEnding_agrees r (utf8Text name) hnone left
    rw [lossy_utf8Text, List.filterMap_nil] at hagrees
    simpa only [hspace, Bool.false_eq_true, if_false] using hagrees

/-- The cursor makes the moves of the reader. -/
theorem takeMove_agrees (r : Reading) {t : Text} (ht : t ≠ []) :
    MoveAgrees r (takeMove (utf8Text t)) (advance r t) := by
  obtain ⟨c, t, rfl⟩ := List.exists_cons_of_ne_nil ht
  have hangle : '<'.toNat < 0x80 := by decide
  rw [takeMove, head?_utf8Text hangle]
  by_cases hc : c = '<'
  · subst hc
    rw [utf8Text_ascii hangle, List.drop_one, List.tail_cons, head?_utf8Text (by decide)]
    by_cases hslash : t.head? = some '/'
    · obtain ⟨t, rfl⟩ := List.head?_eq_some_iff.mp hslash
      have hclose : '>'.toNat < 0x80 := by decide
      have hleft := congrArg (List.drop 1) ((Spells.whole t).cut hclose (by decide)).2
      rw [utf8Text_ascii (by decide), advance, skipClosing]
      exact ⟨rfl, hleft.trans (drop_utf8Text hclose t), List.forall_mem_nil _⟩
    · rw [advance_header hslash]
      simpa [hslash] using takeHeader_agrees r t
  · obtain ⟨htake, hdrop⟩ := (Spells.whole (c :: t)).cut hangle (by decide)
    rw [advance_text hc, ← htake.lossy_eq, if_neg (by simpa using hc)]
    exact ⟨rfl, hdrop, List.forall_mem_nil _⟩

/-- Without an allowance there are no moves. -/
theorem movesWithin_zero (bs : Bytes) : movesWithin 0 bs = [] := by
  cases bs <;> rfl

/-- The first move comes before those that follow it. -/
theorem movesWithin_succ {bs : Bytes} (h : bs ≠ []) (allowance : Nat) :
    movesWithin (allowance + 1) bs =
      (takeMove bs).1 :: movesWithin allowance (takeMove bs).2 := by
  obtain ⟨b, bs, rfl⟩ := List.exists_cons_of_ne_nil h
  rfl

/-- Within the allowances of both, the reader of characters reads what the cursor takes. -/
theorem readWithin_eq_moves {allowance larger : Nat} {t : Text} (h : t.length ≤ allowance)
    (hlarger : allowance ≤ larger) (r : Reading) :
    readWithin allowance r t = (movesWithin larger (utf8Text t)).foldl Reading.make r := by
  induction allowance generalizing larger r t with
  | zero =>
    obtain rfl := List.length_eq_zero_iff.mp (Nat.le_zero.mp h)
    cases larger <;> rfl
  | succ allowance ih =>
    obtain ⟨larger, rfl⟩ : ∃ n, larger = n + 1 := Nat.exists_eq_succ_of_ne_zero (by omega)
    by_cases hnil : t = []
    · subst hnil
      rfl
    · have hshorter := length_advance_lt r hnil
      have hagrees := takeMove_agrees r hnil
      have hbytes : utf8Text t ≠ [] := mt (Spells.whole t).eq_nil_iff.mp hnil
      rw [readWithin_succ, movesWithin_succ hbytes, List.foldl_cons, hagrees.reading, hagrees.left]
      exact ih (by omega) (by omega) _

/-- The reader of characters reads what the cursor over their bytes takes. -/
theorem read_eq_moves (t : Text) :
    read t = ((moves (utf8Text t)).foldl Reading.make {}).complete :=
  congrArg Reading.complete
    (readWithin_eq_moves (Nat.le_refl _) (Spells.whole t).length_le {})

end Markup

end Mudline
