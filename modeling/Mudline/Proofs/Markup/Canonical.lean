import Mudline.Proofs.Markup.RoundTrip
import Mudline.Proofs.Unicode.Lower

/-!
# What a reader yields

Whatever text it is given, the reader yields tokens that can be printed. The invariant holds of the
tokens on every level that is open: a header passes on lower-case names and keyed attributes only,
and a text is cut off before the next angle. Two texts are neighbours where a malformed header or a
stray closing marker between them was dropped. Once they are joined, what was read is well formed,
and printing it is taken back by reading.
-/

namespace Mudline

namespace Markup

/-- A bracketed value ends in its bracket, which it gains where the chunk ended before it. -/
theorem getLast?_readValue? {t value rest : Text} (h : readValue? true t = some (value, rest)) :
    value.getLast? = some ']' := by
  cases t with
  | nil => simp [readValue?] at h
  | cons delimiter t =>
    simp only [readValue?, if_true, Option.some.injEq, Prod.mk.injEq] at h
    obtain ⟨rfl, -⟩ := h
    rw [← List.append_assoc, List.getLast?_concat]

/-- An attribute that is read starts with the character at which the reader stands. -/
theorem printableAttr_readAttr {tag : Text} {c : Char} (hspace : c ≠ ' ') (hangle : c ≠ '>')
    (hslash : c ≠ '/') {rest : Text} {attr : Text × Text}
    (hattr : (readAttr tag (c :: rest)).1 = some attr) : PrintableAttr tag attr := by
  rw [readAttr] at hattr
  split at hattr
  · simp at hattr
  · rename_i hkey
    split at hattr
    · rename_i value after hvalue
      obtain rfl : _ = attr := Option.some.inj hattr
      refine ⟨?_, ?_, ?_, ?_⟩
      · simpa using hkey
      · intro hmem
        simpa using List.mem_takeWhile_imp hmem
      · intro d hd
        have hfirst : d = c := by
          by_cases hequals : c = '='
          · simp [hequals] at hd
          · have hcut : (c :: rest).takeWhile (· != '=') = c :: rest.takeWhile (· != '=') := by
              simp [hequals]
            simp only [hcut, List.head?_cons, Option.mem_some_iff] at hd
            exact hd.symm
        rw [hfirst]
        exact ⟨hspace, hangle, hslash⟩
      · intro hbracketed
        simp only at hbracketed
        rw [hbracketed] at hvalue
        exact getLast?_readValue? hvalue
    · simp at hattr

/-- The attributes that are read can be printed. -/
theorem printableAttr_readAttrsWithin (allowance : Nat) (tag t : Text) :
    ∀ attr ∈ (readAttrsWithin allowance tag t).1, PrintableAttr tag attr := by
  fun_induction readAttrsWithin allowance tag t with
  | case1 => simp
  | case2 => simp
  | case3 => simp
  | case4 t start allowance c rest hstart hgoes attr? after hread attrs last hattrs ih =>
    rw [hattrs] at ih
    have hspace : c ≠ ' ' := by
      have hdrop : t.dropWhile (· == ' ') = c :: rest := hstart
      have hhead := List.head?_dropWhile_not (· == ' ') t
      simpa [hdrop] using hhead
    simp only [Bool.or_eq_true, beq_iff_eq, not_or] at hgoes
    intro attr hmem
    rcases List.mem_append.mp hmem with hfirst | hlater
    · have hsome : (readAttr tag (c :: rest)).1 = some attr := by
        rw [hread]
        simpa using hfirst
      exact printableAttr_readAttr hspace hgoes.1 hgoes.2 hsome
    · exact ih attr hlater

/-- The tag of a header can be printed. -/
def Header.Printable : Header → Prop
  | .opened name attrs _ => PrintableTag name attrs
  | .closed name attrs _ => PrintableTag name attrs
  | .dropped _ => True
  | .cut => True

/-- A header that ends has a tag that can be printed. -/
theorem Header.printable_headerEnd {name : Text} {attrs : List (Text × Text)}
    (htag : PrintableTag name attrs) (t : Text) : (headerEnd name attrs t).Printable := by
  fun_cases headerEnd name attrs t
  all_goals first | exact htag | trivial

/-- A name is cut off at the characters that end it, and lower-casing does not bring them back. -/
theorem name_closed_lower (t : Text) :
    ∀ c ∈ Unicode.lower (t.takeWhile (!endsName ·)), c ≠ '/' ∧ c ≠ '>' ∧ c ≠ ' ' := by
  intro c hc
  by_contra hends
  have hend : endsName c = true := by
    simp only [endsName, Bool.or_eq_true, beq_iff_eq]
    tauto
  have hbelow : c.toNat ≤ 0x40 := by
    simp only [endsName, Bool.or_eq_true, beq_iff_eq] at hend
    rcases hend with (rfl | rfl) | rfl <;> decide
  have hkept := List.mem_takeWhile_imp (Unicode.mem_of_mem_lower hc hbelow)
  simp [hend] at hkept

/-- A header that is read has a tag that can be printed. -/
theorem Header.printable_readHeader (t : Text) : (readHeader t).Printable := by
  have htag (attrs : List (Text × Text))
      (hattrs : ∀ attr ∈ attrs,
        PrintableAttr (Unicode.lower (t.takeWhile (!endsName ·))) attr) :
      PrintableTag (Unicode.lower (t.takeWhile (!endsName ·))) attrs :=
    ⟨Unicode.lower_lower _, name_closed_lower t, hattrs⟩
  rw [readHeader]
  split
  · exact printable_headerEnd (htag _ (printableAttr_readAttrsWithin _ _ _)) _
  · exact printable_headerEnd (htag [] (by simp)) _

end Markup

namespace Token

/-- Tokens can be printed if each of them can. -/
theorem Printable.allPrintable_iff {tokens : List Token} :
    AllPrintable tokens ↔ ∀ token ∈ tokens, token.Printable := by
  induction tokens with
  | nil => simp [AllPrintable]
  | cons token tokens ih => simp [AllPrintable, ih]

/-- One more token that can be printed leaves them so. -/
theorem Printable.AllPrintable.concat {tokens : List Token} (h : AllPrintable tokens)
    {token : Token} (htoken : token.Printable) : AllPrintable (tokens ++ [token]) := by
  rw [allPrintable_iff] at h ⊢
  intro t ht
  rcases List.mem_append.mp ht with hbefore | hlast
  · exact h t hbefore
  · rw [List.mem_singleton.mp hlast]
    exact htoken

end Token

namespace Markup

/-- What has been read can be printed, on each level that is open. -/
structure Reading.Printable (r : Reading) : Prop where
  /-- The innermost level. -/
  siblings : Token.Printable.AllPrintable r.siblings
  /-- The headers that are open, and the levels on which they stand. -/
  opened : ∀ top ∈ r.opened,
    PrintableTag top.name top.attrs ∧ Token.Printable.AllPrintable top.before

namespace Reading

variable {r : Reading}

/-- A token that can be printed leaves the reading so. -/
theorem Printable.push (h : r.Printable) {token : Token} (htoken : token.Printable) :
    (r.push token).Printable :=
  ⟨h.siblings.concat htoken, h.opened⟩

/-- A tag that can be printed leaves the reading so. -/
theorem Printable.enter (h : r.Printable) {name : Text} {attrs : List (Text × Text)}
    (htag : PrintableTag name attrs) : (r.enter name attrs).Printable := by
  refine ⟨trivial, ?_⟩
  intro top htop
  rcases List.mem_cons.mp htop with rfl | houter
  · exact ⟨htag, h.siblings⟩
  · exact h.opened top houter

/-- Closing a tag leaves the reading so. -/
theorem Printable.leave (h : r.Printable) : r.leave.Printable := by
  rw [Reading.leave]
  split
  · exact h
  · rename_i top outer hopened
    obtain ⟨htag, hbefore⟩ := h.opened top (by simp [hopened])
    refine ⟨hbefore.concat ⟨htag, h.siblings⟩, ?_⟩
    intro tag htag
    exact h.opened tag (by simp [hopened, htag])

/-- Only the tags that are closed are taken from a chunk. -/
theorem Printable.complete (h : r.Printable) :
    Token.Printable.AllPrintable r.complete := by
  rw [Reading.complete]
  split
  · rename_i outermost houtermost
    exact (h.opened outermost (List.mem_of_getLast? houtermost)).2
  · exact h.siblings

end Reading

/-- Reading on keeps what has been read printable. -/
theorem printable_readWithin (allowance : Nat) {r : Reading} (t : Text) (h : r.Printable) :
    (readWithin allowance r t).Printable := by
  fun_induction readWithin allowance r t with
  | case1 => exact h
  | case2 => exact h
  | case3 r allowance rest ih => exact ih h.leave
  | case4 r allowance rest hslash name attrs after hheader ih =>
    have htag := Header.printable_readHeader rest
    rw [hheader] at htag
    exact ih (h.enter htag)
  | case5 r allowance rest hslash name attrs after hheader ih =>
    have htag := Header.printable_readHeader rest
    rw [hheader] at htag
    exact ih (h.push ⟨htag, trivial⟩)
  | case6 r allowance rest hslash after hheader ih => exact ih h
  | case7 => exact h
  | case8 r allowance t hne hclosing hopening ih =>
    refine ih (h.push ⟨?_, ?_⟩)
    · obtain ⟨c, rest, rfl⟩ := List.exists_cons_of_ne_nil hne
      have hc : c ≠ '<' := fun heq => hopening rest (by rw [heq])
      simp [hc]
    · intro hmem
      simpa using List.mem_takeWhile_imp hmem

/-- Whatever is read can be printed. -/
theorem printable_read (t : Text) : Token.Printable.AllPrintable (read t) := by
  have hempty : Reading.Printable {} := ⟨trivial, by simp⟩
  exact (printable_readWithin t.length t hempty).complete

end Markup

namespace Token

/-- A token that is joined with those behind it can be printed with them. -/
theorem printable_consJoined {token : Token} {tokens : List Token} (htoken : token.Printable)
    (htokens : Printable.AllPrintable tokens) :
    Printable.AllPrintable (consJoined token tokens) := by
  fun_cases consJoined token tokens with
  | case1 a b rest =>
    obtain ⟨⟨-, hb⟩, hrest⟩ := htokens
    obtain ⟨hne, ha⟩ := htoken
    refine ⟨⟨?_, ?_⟩, hrest⟩
    · simp [hne]
    · simp [ha, hb]
  | case2 => exact ⟨htoken, htokens⟩

/-- No texts lie next to each other where a token has been joined with those behind it. -/
theorem separated_consJoined {token : Token} {tokens : List Token} (htoken : token.Separated)
    (htokens : Separated.AllSeparated tokens) :
    Separated.AllSeparated (consJoined token tokens) := by
  fun_cases consJoined token tokens with
  | case1 a b rest =>
    obtain ⟨-, hneighbours, hrest⟩ := htokens
    exact ⟨trivial, hneighbours, hrest⟩
  | case2 _ _ hapart =>
    refine ⟨htoken, ?_, htokens⟩
    rintro ⟨htext, hstarts⟩
    match token, tokens, htext, hstarts with
    | .text a, .text b :: rest, _, _ => exact hapart a b rest rfl rfl

mutual

/-- Joining the texts within a token leaves it one that can be printed. -/
theorem printable_join : ∀ {token : Token}, token.Printable → token.join.Printable
  | .text _, h => h
  | .tag _ _ _, h => ⟨h.1, printable_joinAll h.2⟩

/-- Joining the texts within tokens leaves them so. -/
theorem printable_joinAll :
    ∀ {tokens : List Token}, Printable.AllPrintable tokens →
      Printable.AllPrintable (join.joinAll tokens)
  | [], _ => trivial
  | _ :: _, h => printable_consJoined (printable_join h.1) (printable_joinAll h.2)

end

mutual

/-- Joining the texts within a token separates them. -/
theorem separated_join : ∀ token : Token, token.join.Separated
  | .text _ => trivial
  | .tag _ _ children => separated_joinAll children

/-- Joining the texts within tokens separates them. -/
theorem separated_joinAll :
    ∀ tokens : List Token, Separated.AllSeparated (join.joinAll tokens)
  | [] => trivial
  | token :: tokens => separated_consJoined (separated_join token) (separated_joinAll tokens)

end

end Token

namespace Markup

/-- What was read is well formed once neighbouring texts are one. -/
theorem wellFormed_joinTexts_read (t : Text) : WellFormed (joinTexts (read t)) :=
  ⟨Token.printable_joinAll (printable_read t), Token.separated_joinAll (read t)⟩

/-- Printing and reading are inverse to each other. A well-formed forest is read back as it was
printed, and whatever is read becomes such a forest once neighbouring texts are one. -/
theorem read_print_round_trip :
    (∀ tokens, WellFormed tokens → read (Markup.print tokens) = tokens) ∧
    (∀ t, WellFormed (joinTexts (read t)) ∧
      read (Markup.print (joinTexts (read t))) = joinTexts (read t)) := by
  refine ⟨fun tokens h => read_print_of_wellFormed h, fun t => ⟨wellFormed_joinTexts_read t, ?_⟩⟩
  exact read_print_of_wellFormed (wellFormed_joinTexts_read t)

/-- A room with a subtitle, whose exits are nested, and a text around it. -/
def roomForest : List Token :=
  [.text "Obvious paths".toList,
   .tag "streamwindow".toList
     [("id".toList, "main".toList), ("subtitle".toList, " - [The \"Crossing\"]".toList)] [],
   .tag "compass".toList []
     [.tag "dir".toList [("value".toList, "n".toList)] [], .text ", ".toList,
      .tag "dir".toList [("value".toList, "\\".toList)] []],
   .text "\n".toList]

/-- The description of a room is well formed. -/
theorem wellFormed_roomForest : WellFormed roomForest := by
  have hid : PrintableAttr "streamwindow".toList ("id".toList, "main".toList) := by
    constructor <;> simp [isBracketed]
  have hsubtitle : PrintableAttr "streamwindow".toList
      ("subtitle".toList, " - [The \"Crossing\"]".toList) := by
    constructor <;> simp [isBracketed]
  have hvalue (value : Text) : PrintableAttr "dir".toList ("value".toList, value) := by
    constructor <;> simp [isBracketed]
  have hwindow : PrintableTag "streamwindow".toList [("id".toList, "main".toList),
      ("subtitle".toList, " - [The \"Crossing\"]".toList)] := by
    refine ⟨?_, by simp, by simpa using ⟨hid, hsubtitle⟩⟩
    simp only [String.reduceToList]
    decide +kernel
  have hcompass : PrintableTag "compass".toList [] := by
    refine ⟨?_, by simp, by simp⟩
    simp only [String.reduceToList]
    decide +kernel
  have hdir (value : Text) : PrintableTag "dir".toList [("value".toList, value)] := by
    refine ⟨?_, by simp, by simpa using hvalue value⟩
    simp only [String.reduceToList]
    decide +kernel
  constructor
  · exact ⟨⟨by simp, by simp⟩, ⟨hwindow, trivial⟩,
      ⟨hcompass, ⟨hdir _, trivial⟩, ⟨by simp, by simp⟩, ⟨hdir _, trivial⟩, trivial⟩,
      ⟨by simp, by simp⟩, trivial⟩
  · simp [roomForest, Token.Separated.AllSeparated, Token.Separated, Token.isText,
      Token.startsWithText]

/-- The description of a room is read back. -/
theorem read_print_round_trip_room :
    WellFormed roomForest ∧ read (Markup.print roomForest) = roomForest :=
  ⟨wellFormed_roomForest, read_print_round_trip.1 roomForest wellFormed_roomForest⟩

end Markup

end Mudline
