import Mudline.Proofs.Markup.Cursor
import Mudline.Proofs.Unicode.Lower

/-!
# Where the cursor cuts a character

Every slice of a chunk begins and ends at an ASCII character or at an end of the chunk, except that
a value is delimited by a byte. A delimiter that is no ASCII character is taken in half: its other
bytes begin the value, and end it too. So the slices are valid exactly when all delimiters are
ASCII, and then no replacement character is read that was not in the chunk.
-/

namespace Mudline

/-- All characters of a token, at every depth. -/
def Token.chars : Token → Text
  | .text chars => chars
  | .tag name attrs children =>
    name ++ (attrs.flatMap (fun attr => attr.1 ++ attr.2) ++ forestChars children)
where
  /-- All characters of a forest. -/
  forestChars : List Token → Text
    | [] => []
    | token :: rest => chars token ++ forestChars rest

open Regex (utf8Text)

namespace Markup

/-- Whether bytes are the bytes of a text, so that decoding them replaces nothing. -/
def IsUtf8 (bs : Bytes) : Prop :=
  utf8Text (lossy bs) = bs

instance (bs : Bytes) : Decidable (IsUtf8 bs) :=
  inferInstanceAs (Decidable (_ = _))

/-- A list of bytes is UTF-8 if it spells a text. -/
theorem isUtf8_iff {bs : Bytes} : IsUtf8 bs ↔ ∃ t, bs = utf8Text t := by
  constructor
  · intro h
    exact ⟨lossy bs, h.symm⟩
  · rintro ⟨t, rfl⟩
    rw [IsUtf8, lossy_utf8Text]

/-- The slices of an attribute that are decoded. -/
def Slot.slices (s : Slot) : List Bytes :=
  s.key :: s.value?.toList.map Prod.snd

/-- The byte that delimits the value. -/
def Slot.delimiter? (s : Slot) : Option Nat :=
  s.value?.map Prod.fst

/-- The slices of a move that are decoded. -/
def Move.slices : Move → List Bytes
  | .text slice => [slice]
  | .closing => []
  | .header name slots _ => name :: slots.flatMap Slot.slices

/-- The slices of a chunk that are decoded. -/
def slices (bs : Bytes) : List Bytes :=
  (moves bs).flatMap Move.slices

/-- The bytes that delimit the values of a chunk. -/
def delimiters (bs : Bytes) : List Nat :=
  ((moves bs).flatMap Move.slots).filterMap Slot.delimiter?

/-- What is left of a delimiter makes the value no text. -/
theorem Slot.Marked.ascii {s : Slot} (hmarked : s.Marked)
    (hslices : ∀ slice ∈ s.slices, IsUtf8 slice) {delimiter : Nat}
    (hdelimiter : s.delimiter? = some delimiter) : delimiter < 0x80 := by
  obtain ⟨⟨d, value⟩, hvalue, rfl⟩ := Option.map_eq_some_iff.mp hdelimiter
  obtain ⟨c, rfl, rest, rfl⟩ := hmarked _ _ hvalue
  have hutf8 : IsUtf8 (tails c ++ rest) := hslices _ (by simp [Slot.slices, hvalue])
  obtain ⟨t, ht⟩ := isUtf8_iff.mp hutf8
  rw [← tails_eq_nil_iff]
  cases htails : tails c with
  | nil => rfl
  | cons b stray =>
    have hb : isTail b = true := isTail_of_mem_tails (c := c) (htails ▸ List.mem_cons_self)
    rw [htails] at ht
    cases t with
    | nil => cases ht
    | cons first t =>
      rw [utf8Text_cons] at ht
      rw [(List.cons.inj ht).1, isTail_leadByte] at hb
      cases hb

/-- Every attribute that is read off a text is marked by its delimiter. -/
theorem marked_of_mem_movesWithin {allowance : Nat} {t : Text} {m : Move}
    (hm : m ∈ movesWithin allowance (utf8Text t)) {s : Slot} (hs : s ∈ m.slots) : s.Marked := by
  induction allowance generalizing t with
  | zero =>
    rw [movesWithin_zero] at hm
    cases hm
  | succ allowance ih =>
    by_cases hnil : t = []
    · subst hnil
      cases hm
    · have hbytes : utf8Text t ≠ [] := mt (Spells.whole t).eq_nil_iff.mp hnil
      have hagrees := takeMove_agrees {} hnil
      rw [movesWithin_succ hbytes, hagrees.left, List.mem_cons] at hm
      rcases hm with rfl | hm
      · exact hagrees.marked s hs
      · exact ih hm

/-- That bytes spell a text of certain characters. -/
def Whole (p : Char → Prop) (bs : Bytes) : Prop :=
  ∃ t, bs = utf8Text t ∧ ∀ c ∈ t, p c

section Whole

variable {p : Char → Prop} {bs : Bytes}

/-- What is taken up to a byte is whole if the bytes of a character are taken together. -/
theorem Whole.takeWhile {f : Char → Bool} {g : Nat → Bool} (hlead : ∀ c, g (leadByte c) = f c)
    (htails : ∀ c, f c = true → ∀ b ∈ tails c, g b = true) (h : Whole p bs) :
    Whole p (bs.takeWhile g) ∧ Whole p (bs.dropWhile g) := by
  obtain ⟨t, rfl, ht⟩ := h
  obtain ⟨htake, hdrop⟩ := takeWhile_utf8Text hlead htails t
  exact ⟨⟨_, htake, fun c hc => ht c ((List.takeWhile_prefix _).subset hc)⟩,
    ⟨_, hdrop, fun c hc => ht c ((List.dropWhile_suffix _).subset hc)⟩⟩

/-- Up to an ASCII character, and behind it. -/
theorem Whole.cut {stop : Char} (hstop : stop.toNat < 0x80) (h : Whole p bs) :
    Whole p (bs.takeWhile (· != stop.toNat)) ∧ Whole p (bs.dropWhile (· != stop.toNat)) ∧
      Whole p ((bs.dropWhile (· != stop.toNat)).drop 1) := by
  have htails (c : Char) (_ : (c != stop) = true) (b : Nat) (hb : b ∈ tails c) :
      (b != stop.toNat) = true :=
    isTail_bne hstop (isTail_of_mem_tails hb)
  obtain ⟨htake, hdrop⟩ := h.takeWhile (leadByte_bne hstop) htails
  refine ⟨htake, hdrop, ?_⟩
  obtain ⟨t, rfl, ht⟩ := h
  rw [(takeWhile_utf8Text (leadByte_bne hstop) htails t).2, drop_utf8Text hstop]
  exact ⟨_, rfl, fun c hc => ht c ((List.dropWhile_suffix _).subset (List.mem_of_mem_drop hc))⟩

/-- What is read of a value and what is left come from the text. -/
theorem mem_readQuoted {stop : Nat} {t : Text} {c : Char}
    (hc : c ∈ (readQuoted stop t).1 ∨ c ∈ (readQuoted stop t).2) : c ∈ t := by
  induction t using readQuoted.induct stop with
  | case1 => simp [readQuoted] at hc
  | case2 d rest hstop =>
    rw [readQuoted_stop (beq_iff_eq.mp hstop)] at hc
    exact hc.resolve_left List.not_mem_nil
  | case3 d hstop hescape => simp [readQuoted_escape_end hstop hescape] at hc
  | case4 d hstop hescape next rest value left hread ih =>
    rw [readQuoted_escape_next hstop hescape] at hc
    simp only [List.mem_cons] at hc ⊢
    tauto
  | case5 d rest hstop hplain value left hread ih =>
    rw [readQuoted_plain hstop hplain] at hc
    simp only [List.mem_cons] at hc ⊢
    tauto

/-- A value up to a delimiter that begins a character is whole, and so is what is left. -/
theorem Whole.takeQuoted {stop : Nat} (hstop : isTail stop = false) (h : Whole p bs) :
    Whole p (takeQuoted stop bs).1 ∧ Whole p (takeQuoted stop bs).2 := by
  obtain ⟨t, rfl, ht⟩ := h
  rw [takeQuoted_utf8Text hstop]
  exact ⟨⟨_, rfl, fun c hc => ht c (mem_readQuoted (.inl hc))⟩,
    ⟨_, rfl, fun c hc => ht c (mem_readQuoted (.inr hc))⟩⟩

/-- Behind an ASCII character. -/
theorem Whole.tail {b : Nat} (hb : b < 0x80) (h : Whole p (b :: bs)) : Whole p bs := by
  obtain ⟨t, hbytes, ht⟩ := h
  cases t with
  | nil => cases hbytes
  | cons c rest =>
    rw [utf8Text_cons, List.cons.injEq] at hbytes
    obtain ⟨rfl, rfl⟩ := hbytes
    rw [tails_eq_nil_iff.mpr hb]
    exact ⟨rest, rfl, fun d hd => ht d (List.mem_cons_of_mem c hd)⟩

/-- What is left behind a byte of ASCII is whole. -/
theorem Whole.eat {byte : Nat} (hbyte : byte < 0x80) (h : Whole p bs) :
    Whole p (eat byte bs) := by
  cases bs with
  | nil => exact h
  | cons b bs =>
    rw [Markup.eat]
    split
    · rename_i hb
      exact h.tail (beq_iff_eq.mp hb ▸ hbyte)
    · exact h

/-- Whole lists of bytes are whole one after the other. -/
theorem Whole.append {other : Bytes} (h : Whole p bs) (hother : Whole p other) :
    Whole p (bs ++ other) := by
  obtain ⟨t, rfl, ht⟩ := h
  obtain ⟨u, rfl, hu⟩ := hother
  refine ⟨t ++ u, (utf8Text_append t u).symm, fun c hc => ?_⟩
  exact (List.mem_append.mp hc).elim (ht c) (hu c)

/-- No bytes are whole. -/
theorem Whole.nil : Whole p [] := ⟨[], rfl, List.forall_mem_nil p⟩

/-- What is left behind blanks is whole. -/
theorem Whole.skipBlanks (h : Whole p bs) : Whole p (bs.dropWhile (· == ' '.toNat)) :=
  (h.takeWhile (leadByte_beq (by decide)) tails_of_blank).2

/-- What is left behind a header is whole. -/
theorem Whole.takeEnding (h : Whole p bs) : Whole p (takeEnding bs).2 := by
  rcases bs with _ | ⟨b, bs⟩
  · exact h
  · rw [Markup.takeEnding.eq_def]
    dsimp only
    split
    · rename_i hslash
      have hbehind := h.tail (beq_iff_eq.mp hslash ▸ by decide)
      rcases bs with _ | ⟨d, bs⟩
      · exact hbehind
      · dsimp only
        split
        · rename_i hangle
          exact hbehind.tail (beq_iff_eq.mp hangle ▸ by decide)
        · exact hbehind
    · split
      · rename_i hangle
        exact h.tail (beq_iff_eq.mp hangle ▸ by decide)
      · exact h

end Whole

section Aligned

variable {p : Char → Prop} (hbracket : p ']')

include hbracket

/-- An ASCII delimiter is taken whole, and so are the value and what is left. -/
theorem Whole.takeValue? {bracketed : Bool} {bs rest value : Bytes} {delimiter : Nat}
    (h : Whole p bs) (hvalue : takeValue? bracketed bs = some ((delimiter, value), rest))
    (hascii : delimiter < 0x80) : Whole p value ∧ Whole p rest := by
  have hplain : isTail delimiter = false := by
    simp only [isTail, Bool.and_eq_false_iff, decide_eq_false_iff_not]
    omega
  cases bs with
  | nil => cases hvalue
  | cons b bs =>
    cases bracketed with
    | true =>
      simp only [Markup.takeValue?, if_true, Option.some.injEq, Prod.mk.injEq] at hvalue
      obtain ⟨⟨rfl, rfl⟩, rfl⟩ := hvalue
      have hclosed : Whole p [']'.toNat] := ⟨[']'], rfl, by simpa using hbracket⟩
      have hclose : isTail (']'.toNat) = false := by decide
      obtain ⟨hquoted, hleft⟩ := (h.tail hascii).takeQuoted hclose
      exact ⟨hquoted.append hclosed, (hleft.eat (by decide)).eat hascii⟩
    | false =>
      simp only [Markup.takeValue?, Bool.false_eq_true, if_false, Option.some.injEq,
        Prod.mk.injEq] at hvalue
      obtain ⟨⟨rfl, rfl⟩, rfl⟩ := hvalue
      obtain ⟨hquoted, hleft⟩ := (h.tail hascii).takeQuoted hplain
      exact ⟨hquoted, hleft.eat hascii⟩

/-- Whether the delimiters of attributes are ASCII. -/
def AsciiDelimited (slots : List Slot) : Prop :=
  ∀ s ∈ slots, ∀ delimiter ∈ s.delimiter?, delimiter < 0x80

/-- An attribute between ASCII delimiters is whole, and so is what is left. -/
theorem Whole.takeAttr {bs : Bytes} (h : Whole p bs) (tag : Text)
    (hascii : AsciiDelimited (takeAttr tag bs).1.toList) :
    (∀ s ∈ (takeAttr tag bs).1, ∀ slice ∈ s.slices, Whole p slice) ∧
      Whole p (takeAttr tag bs).2 := by
  obtain ⟨hkey, -, hrest⟩ := h.cut (by decide : '='.toNat < 0x80)
  revert hascii
  rw [Markup.takeAttr]
  generalize (bs.dropWhile (· != '='.toNat)).drop 1 = left at hrest ⊢
  generalize bs.takeWhile (· != '='.toNat) = key at hkey ⊢
  split
  · exact fun _ => ⟨fun s hs => absurd hs (Option.not_mem_none s), hrest⟩
  · split
    · rename_i value rest hvalue
      intro hascii
      have hdelimiter : value.1 < 0x80 := hascii _ (List.mem_singleton_self _) _ rfl
      obtain ⟨hwhole, hleft⟩ := hrest.takeValue? hbracket hvalue hdelimiter
      refine ⟨fun s hs => ?_, hleft⟩
      obtain rfl := Option.some.inj hs
      exact List.forall_mem_cons.mpr ⟨hkey, by simpa using hwhole⟩
    · exact fun _ => ⟨by simpa [Slot.slices] using hkey, hrest⟩

/-- Attributes between ASCII delimiters are whole, and so is what is left. -/
theorem Whole.takeAttrsWithin {bs : Bytes} (h : Whole p bs) {allowance : Nat} {tag : Text}
    (hascii : AsciiDelimited (takeAttrsWithin allowance tag bs).1) :
    (∀ s ∈ (takeAttrsWithin allowance tag bs).1, ∀ slice ∈ s.slices, Whole p slice) ∧
      Whole p (takeAttrsWithin allowance tag bs).2 := by
  induction allowance generalizing bs with
  | zero =>
    rw [takeAttrsWithin_zero]
    exact ⟨List.forall_mem_nil _, h.skipBlanks⟩
  | succ allowance ih =>
    have hleft := h.skipBlanks
    cases hbytes : bs.dropWhile (· == ' '.toNat) with
    | nil =>
      rw [takeAttrsWithin_blank hbytes]
      exact ⟨List.forall_mem_nil _, Whole.nil⟩
    | cons b rest =>
      rw [hbytes] at hleft
      by_cases hb : (b == '>'.toNat || b == '/'.toNat) = true
      · rw [takeAttrsWithin_stop hbytes hb]
        exact ⟨List.forall_mem_nil _, hleft⟩
      · rw [takeAttrsWithin_next hbytes hb] at hascii ⊢
        obtain ⟨hfirst, hrest⟩ := hleft.takeAttr hbracket tag fun s hs =>
          hascii s (List.mem_append_left _ hs)
        obtain ⟨hothers, hend⟩ := ih hrest fun s hs => hascii s (List.mem_append_right _ hs)
        refine ⟨fun s hs => ?_, hend⟩
        rcases List.mem_append.mp hs with hs | hs
        · exact hfirst s (Option.mem_toList.mp hs)
        · exact hothers s hs

/-- A header with ASCII delimiters is whole, and so is what is left. -/
theorem Whole.takeHeader {bs : Bytes} (h : Whole p bs)
    (hascii : AsciiDelimited (takeHeader bs).1.slots) :
    (∀ slice ∈ (takeHeader bs).1.slices, Whole p slice) ∧ Whole p (takeHeader bs).2 := by
  obtain ⟨hname, hrest⟩ := h.takeWhile continuesName_leadByte
    fun c _ b hb => continuesName_of_isTail (isTail_of_mem_tails hb)
  have hheader {slots : List Slot} (hslots : ∀ s ∈ slots, ∀ slice ∈ s.slices, Whole p slice)
      (ending : Ending) : ∀ slice ∈
        (Move.header (bs.takeWhile continuesName) slots ending).slices, Whole p slice := by
    simpa [Move.slices] using And.intro hname fun slice s hs => hslots s hs slice
  revert hascii
  rw [Markup.takeHeader]
  generalize bs.dropWhile continuesName = left at hrest ⊢
  by_cases hspace : (left.head? == some ' '.toNat) = true
  · simp only [hspace, if_true]
    intro hascii
    obtain ⟨hslots, hleft⟩ := hrest.takeAttrsWithin hbracket hascii
    exact ⟨hheader hslots _, hleft.takeEnding⟩
  · simp only [hspace, Bool.false_eq_true, if_false]
    exact fun _ => ⟨hheader (List.forall_mem_nil _) _, hrest.takeEnding⟩

/-- A move that cuts no delimiter takes whole slices, and leaves the rest whole. -/
theorem Whole.takeMove {bs : Bytes} (h : Whole p bs)
    (hascii : AsciiDelimited (takeMove bs).1.slots) :
    (∀ slice ∈ (takeMove bs).1.slices, Whole p slice) ∧ Whole p (takeMove bs).2 := by
  revert hascii
  rw [Markup.takeMove]
  split
  · rename_i hangle
    obtain ⟨bs, rfl⟩ := List.head?_eq_some_iff.mp (beq_iff_eq.mp hangle)
    have hbehind := h.tail (by decide)
    split
    · rename_i hslash
      obtain ⟨bs, rfl⟩ := List.head?_eq_some_iff.mp (beq_iff_eq.mp hslash)
      exact fun _ => ⟨List.forall_mem_nil _, ((hbehind.tail (by decide)).cut (by decide)).2.2⟩
    · exact hbehind.takeHeader hbracket
  · obtain ⟨htext, hrest, -⟩ := h.cut (by decide : '<'.toNat < 0x80)
    exact fun _ => ⟨by simpa [Move.slices] using htext, hrest⟩

/-- Move after move, all slices are whole. -/
theorem Whole.movesWithin {bs : Bytes} (h : Whole p bs) {allowance : Nat}
    (hascii : AsciiDelimited ((movesWithin allowance bs).flatMap Move.slots)) :
    ∀ slice ∈ (movesWithin allowance bs).flatMap Move.slices, Whole p slice := by
  induction allowance generalizing bs with
  | zero =>
    rw [movesWithin_zero]
    exact List.forall_mem_nil _
  | succ allowance ih =>
    by_cases hnil : bs = []
    · subst hnil
      exact List.forall_mem_nil _
    · rw [movesWithin_succ hnil, List.flatMap_cons] at hascii ⊢
      obtain ⟨hfirst, hrest⟩ := h.takeMove hbracket fun s hs =>
        hascii s (List.mem_append_left _ hs)
      have hothers := ih hrest fun s hs => hascii s (List.mem_append_right _ hs)
      exact fun slice hs => (List.mem_append.mp hs).elim (hfirst slice) (hothers slice)

end Aligned

open Token.chars (forestChars)

/-- The characters of tokens come one after another. -/
theorem forestChars_append (front back : List Token) :
    forestChars (front ++ back) = forestChars front ++ forestChars back := by
  induction front with
  | nil => rfl
  | cons token front ih => rw [List.cons_append, forestChars, forestChars, ih, List.append_assoc]

/-- The characters of one token are its own. -/
theorem forestChars_singleton (token : Token) : forestChars [token] = token.chars :=
  List.append_nil _

/-- What is whole is decoded into its own characters. -/
theorem Whole.lossy {p : Char → Prop} {bs : Bytes} (h : Whole p bs) : ∀ c ∈ lossy bs, p c := by
  obtain ⟨t, rfl, ht⟩ := h
  rwa [lossy_utf8Text]

section Tokens

variable {p : Char → Prop}

/-- That what has been read has certain characters only. -/
structure Reading.Consists (p : Char → Prop) (r : Reading) : Prop where
  /-- The tokens of the innermost level. -/
  siblings : ∀ c ∈ forestChars r.siblings, p c
  /-- The headers of the open tags. -/
  headers : ∀ tag ∈ r.opened, ∀ c ∈ (Token.tag tag.name tag.attrs []).chars, p c
  /-- The tokens before the open tags. -/
  before : ∀ tag ∈ r.opened, ∀ c ∈ forestChars tag.before, p c

/-- A token adds its characters. -/
theorem Reading.Consists.push {r : Reading} (h : r.Consists p) {token : Token}
    (htoken : ∀ c ∈ token.chars, p c) : (r.push token).Consists p where
  siblings c hc := by
    rw [Reading.push, forestChars_append, forestChars_singleton, List.mem_append] at hc
    exact hc.elim (h.siblings c) (htoken c)
  headers := h.headers
  before := h.before

/-- A header adds its characters. -/
theorem Reading.Consists.enter {r : Reading} (h : r.Consists p) {name : Text}
    {attrs : List (Text × Text)} (hheader : ∀ c ∈ (Token.tag name attrs []).chars, p c) :
    (r.enter name attrs).Consists p where
  siblings := List.forall_mem_nil _
  headers := List.forall_mem_cons.mpr ⟨hheader, h.headers⟩
  before := List.forall_mem_cons.mpr ⟨h.siblings, h.before⟩

/-- Closing a tag adds no characters. -/
theorem Reading.Consists.leave {r : Reading} (h : r.Consists p) : r.leave.Consists p := by
  obtain ⟨_ | ⟨top, outer⟩, siblings⟩ := r
  · exact h
  · obtain ⟨hheader, hheaders⟩ := List.forall_mem_cons.mp h.headers
    obtain ⟨hbefore, houter⟩ := List.forall_mem_cons.mp h.before
    refine ⟨fun c hc => ?_, hheaders, houter⟩
    have hinside := h.siblings c
    have hown := hheader c
    simp only [Reading.leave, forestChars_append, Token.chars, forestChars, List.mem_append,
      List.append_nil] at hc hown hinside
    rcases hc with hc | hc | hc | hc
    · exact hbefore c hc
    · exact hown (.inl hc)
    · exact hown (.inr hc)
    · exact hinside hc

/-- What is complete consists of the characters of the reading. -/
theorem Reading.Consists.complete {r : Reading} (h : r.Consists p) :
    ∀ c ∈ forestChars r.complete, p c := by
  rw [Reading.complete]
  split
  · rename_i outermost hlast
    exact h.before outermost (List.mem_of_getLast? hlast)
  · exact h.siblings

variable (hlower : ∀ t, (∀ c ∈ t, p c) → ∀ c ∈ Unicode.lower t, p c)

include hlower

/-- A header of whole slices. -/
theorem header_consists {name : Bytes} (hname : Whole p name) {slots : List Slot}
    (hslots : ∀ s ∈ slots, ∀ slice ∈ s.slices, Whole p slice) :
    ∀ c ∈ (Token.tag (Unicode.lower (lossy name)) (slots.filterMap Slot.attr?) []).chars, p c := by
  intro c hc
  simp only [Token.chars, forestChars, List.append_nil, List.mem_append, List.mem_flatMap,
    List.mem_filterMap] at hc
  rcases hc with hc | ⟨attr, ⟨s, hs, hattr⟩, hc⟩
  · exact hlower _ hname.lossy c hc
  · obtain ⟨value, hvalue, rfl⟩ := Option.map_eq_some_iff.mp hattr
    have hkey := hslots s hs s.key List.mem_cons_self
    have hquoted := hslots s hs value.2 (by simp [Slot.slices, hvalue])
    exact hc.elim (hkey.lossy c) (hquoted.lossy c)

/-- A move adds the characters of its slices. -/
theorem Reading.Consists.make {r : Reading} (h : r.Consists p) {m : Move}
    (hm : ∀ slice ∈ m.slices, Whole p slice) : (r.make m).Consists p := by
  cases m with
  | text slice =>
    exact h.push (hm slice List.mem_cons_self).lossy
  | closing => exact h.leave
  | header name slots ending =>
    obtain ⟨hname, hslices⟩ := List.forall_mem_cons.mp hm
    have hheader := header_consists hlower hname fun s hs slice hslice =>
      hslices slice (List.mem_flatMap.mpr ⟨s, hs, hslice⟩)
    cases ending with
    | opened => exact h.enter hheader
    | closed => exact h.push hheader
    | dropped => exact h
    | cut => exact h

/-- Moves add the characters of their slices. -/
theorem Reading.Consists.foldl_make {r : Reading} (h : r.Consists p) {ms : List Move}
    (hms : ∀ slice ∈ ms.flatMap Move.slices, Whole p slice) :
    (ms.foldl Reading.make r).Consists p := by
  induction ms generalizing r with
  | nil => exact h
  | cons m ms ih =>
    rw [List.flatMap_cons] at hms
    exact ih (h.make hlower fun slice hs => hms slice (List.mem_append_left _ hs))
      fun slice hs => hms slice (List.mem_append_right _ hs)

end Tokens

/-- The cursor over the bytes reads what the reader reads, and it never splits a character exactly
when each byte that delimits a value is an ASCII character. -/
theorem never_split_iff (t : Text) :
    read t = ((moves (utf8Text t)).foldl Reading.make {}).complete ∧
      (((∀ slice ∈ slices (utf8Text t), IsUtf8 slice) ∧
          ('\uFFFD' ∈ forestChars (read t) → '\uFFFD' ∈ t)) ↔
        ∀ delimiter ∈ delimiters (utf8Text t), delimiter < 0x80) := by
  refine ⟨read_eq_moves t, fun ⟨hvalid, _⟩ => ?_, fun hdelimiters => ?_⟩
  · intro delimiter hmem
    obtain ⟨s, hs, hdelimiter⟩ := List.mem_filterMap.mp hmem
    obtain ⟨m, hm, hslot⟩ := List.mem_flatMap.mp hs
    refine (marked_of_mem_movesWithin hm hslot).ascii (fun slice hslice => ?_) hdelimiter
    refine hvalid slice (List.mem_flatMap.mpr ⟨m, hm, ?_⟩)
    cases m with
    | header name slots ending =>
      exact List.mem_cons_of_mem _ (List.mem_flatMap.mpr ⟨s, hslot, hslice⟩)
    | _ => cases hslot
  · have hascii : AsciiDelimited ((moves (utf8Text t)).flatMap Move.slots) := fun s hs d hd =>
      hdelimiters d (List.mem_filterMap.mpr ⟨s, hs, hd⟩)
    -- That all slices are whole is used twice: for any characters, and for all but one.
    have hwhole (p : Char → Prop) (hbracket : p ']') (ht : ∀ c ∈ t, p c) :
        ∀ slice ∈ slices (utf8Text t), Whole p slice :=
      Whole.movesWithin hbracket ⟨t, rfl, ht⟩ hascii
    constructor
    · intro slice hslice
      obtain ⟨u, hu, -⟩ := hwhole (fun _ => True) trivial (fun _ _ => trivial) slice hslice
      exact isUtf8_iff.mpr ⟨u, hu⟩
    · contrapose
      intro hnone hread
      rw [read_eq_moves] at hread
      have hclear := hwhole (· ≠ '\uFFFD') (by decide) fun c hc heq => hnone (heq ▸ hc)
      have hlower (u : Text) (hu : ∀ c ∈ u, c ≠ '\uFFFD') :
          ∀ c ∈ Unicode.lower u, c ≠ '\uFFFD' := by
        rintro _ hc rfl
        exact hu _ (Unicode.replacement_mem_of_mem_lowerAfter hc) rfl
      have hstart : Reading.Consists (· ≠ '\uFFFD') {} :=
        ⟨List.forall_mem_nil _, List.forall_mem_nil _, List.forall_mem_nil _⟩
      exact (hstart.foldl_make hlower hclear).complete _ hread rfl

/-- A delimiter of two bytes is taken in half: its second byte begins the value and the next key. -/
theorem not_always_whole :
    forestChars (read "<a b=éxé c=\"1\"/>".toList) = "ab\uFFFDx\uFFFD c1".toList ∧
      ¬ ∀ t, (∀ slice ∈ slices (utf8Text t), IsUtf8 slice) ∧
        ('\uFFFD' ∈ forestChars (read t) → '\uFFFD' ∈ t) := by
  have hread : forestChars (read "<a b=éxé c=\"1\"/>".toList) = "ab\uFFFDx\uFFFD c1".toList := by
    decide +kernel
  refine ⟨hread, fun hwhole => ?_⟩
  obtain ⟨-, hreplaced⟩ := hwhole "<a b=éxé c=\"1\"/>".toList
  rw [hread] at hreplaced
  exact absurd (hreplaced (by decide)) (by decide)

end Markup

end Mudline
