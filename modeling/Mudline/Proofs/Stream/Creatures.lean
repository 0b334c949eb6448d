import Mudline.Proofs.Formula.ListEntry
import Mudline.Proofs.Stream.Mirror

/-!
# The creatures in a room

The component that lists what is in a room marks creatures by bold text. Which of its tokens are
creatures depends on the markers alone: on the last one before a token, whatever stands before that.
Scripts see the creatures as a list in one variable and their number in another, and the two agree
as long as no name holds the character that separates the names.
-/

namespace Mudline

namespace Token

/-- That a token of a kind stands at a place. -/
def StandsAt (tokens : List Token) (i : Nat) (name : Text) : Prop :=
  tokens[i]?.map kind = some name

/-- That a marker of bold text stands at a place. -/
def MarkerAt (tokens : List Token) (i : Nat) : Prop :=
  StandsAt tokens i "pushbold" ∨ StandsAt tokens i "popbold"

/-- That the nearest marker before a place opens bold text. -/
def BoldBefore (tokens : List Token) (i : Nat) : Prop :=
  ∃ j < i, StandsAt tokens j "pushbold" ∧ ∀ k < i, j < k → ¬MarkerAt tokens k

/-- That the token at a place is a creature: it is no marker, the nearest marker before it opens
bold text, and its content is not ignored. -/
def CreatureAt (ignore : Text → Bool) (tokens : List Token) (i : Nat) : Prop :=
  ¬MarkerAt tokens i ∧ BoldBefore tokens i ∧ ∃ t ∈ tokens[i]?, ignore t.content = false

section Decidable

variable (ignore : Text → Bool) (tokens : List Token) (i : Nat) (name : Text)

instance : Decidable (StandsAt tokens i name) :=
  inferInstanceAs (Decidable (_ = _))

instance : Decidable (MarkerAt tokens i) :=
  inferInstanceAs (Decidable (_ ∨ _))

instance : Decidable (BoldBefore tokens i) :=
  inferInstanceAs (Decidable (∃ j < i, _))

instance : Decidable (CreatureAt ignore tokens i) :=
  inferInstanceAs (Decidable (_ ∧ _ ∧ ∃ t ∈ tokens[i]?, _))

end Decidable

/-- The tokens at the places where there are creatures, from the first place to the last. -/
def creatures (ignore : Text → Bool) (tokens : List Token) : List Token :=
  ((List.range tokens.length).filter (CreatureAt ignore tokens ·)).filterMap (tokens[·]?)

variable {tokens : List Token} {i : Nat} {t : Token}

/-- A token with a name stands at a place if the token there has this name. -/
theorem standsAt_iff (h : tokens[i]? = some t) {name : Text} :
    StandsAt tokens i name ↔ t.kind = name := by
  rw [StandsAt, h, Option.map_some, Option.some.injEq]

/-- A marker stands at a place if the token there turns bold print on or off. -/
theorem markerAt_iff (h : tokens[i]? = some t) :
    MarkerAt tokens i ↔ t.kind = "pushbold" ∨ t.kind = "popbold" := by
  rw [MarkerAt, standsAt_iff h, standsAt_iff h]

/-- Before the first token, print is not bold. -/
theorem not_boldBefore_zero : ¬BoldBefore tokens 0 := by
  rintro ⟨j, hj, -⟩
  omega

/-- A marker decides what is bold behind it, and any other token changes nothing. -/
theorem boldBefore_succ : BoldBefore tokens (i + 1) ↔
    StandsAt tokens i "pushbold" ∨ ¬MarkerAt tokens i ∧ BoldBefore tokens i := by
  constructor
  · rintro ⟨j, hj, hpush, hnone⟩
    obtain rfl | hlt : j = i ∨ j < i := by omega
    · exact .inl hpush
    · refine .inr ⟨hnone i (by omega) hlt, j, hlt, hpush, fun k hk => hnone k (by omega)⟩
  · rintro (hpush | ⟨hmarker, j, hj, hpush, hnone⟩)
    · exact ⟨i, by omega, hpush, fun k hk hik => by omega⟩
    · refine ⟨j, by omega, hpush, fun k hk hjk => ?_⟩
      obtain rfl | hlt : k = i ∨ k < i := by omega
      · exact hmarker
      · exact hnone k hlt hjk

/-- Whether bold text is open behind a token. -/
def boldAfter (bold : Bool) (t : Token) : Bool :=
  if t.kind == "pushbold" then true else if t.kind == "popbold" then false else bold

/-- The token itself if it stands in bold text. -/
def boldPart (bold : Bool) (t : Token) : List Token :=
  if t.kind == "pushbold" then [] else if t.kind == "popbold" then [] else if bold then [t] else []

/-- What one token does in the scan for bold text, by its kind. -/
inductive BoldStep (bold : Bool) (t : Token) : Prop
  /-- It opens bold text. -/
  | push (hkind : t.kind = "pushbold") (hafter : boldAfter bold t = true)
      (hpart : boldPart bold t = [])
  /-- It ends bold text. -/
  | pop (hkind : t.kind = "popbold") (hafter : boldAfter bold t = false)
      (hpart : boldPart bold t = [])
  /-- It is no marker. -/
  | other (hpush : t.kind ≠ "pushbold") (hpop : t.kind ≠ "popbold")
      (hafter : boldAfter bold t = bold) (hpart : boldPart bold t = if bold then [t] else [])

/-- A token turns bold print on, turns it off, or leaves it as it is. -/
theorem boldStep (bold : Bool) (t : Token) : BoldStep bold t := by
  by_cases hpush : t.kind = "pushbold"
  · have hsame := beq_iff_eq.mpr hpush
    exact .push hpush (if_pos hsame) (if_pos hsame)
  · have hpush' := mt beq_iff_eq.mp hpush
    by_cases hpop : t.kind = "popbold"
    · have hsame := beq_iff_eq.mpr hpop
      exact .pop hpop ((if_neg hpush').trans (if_pos hsame)) ((if_neg hpush').trans (if_pos hsame))
    · have hpop' := mt beq_iff_eq.mp hpop
      exact .other hpush hpop ((if_neg hpush').trans (if_neg hpop'))
        ((if_neg hpush').trans (if_neg hpop'))

/-- The first token is in bold print or not, and decides how the others begin. -/
theorem boldSpan_cons (bold : Bool) (t : Token) (rest : List Token) :
    boldSpan bold (t :: rest) = boldPart bold t ++ boldSpan (boldAfter bold t) rest := by
  rw [boldSpan, boldPart, boldAfter]
  split
  · rfl
  · split
    · rfl
    · cases bold <;> rfl

/-- Tokens in bold print are found in two parts. -/
theorem boldSpan_append (bold : Bool) (front rest : List Token) :
    boldSpan bold (front ++ rest) =
      boldSpan bold front ++ boldSpan (front.foldl boldAfter bold) rest := by
  induction front generalizing bold with
  | nil => rfl
  | cons t front ih =>
    rw [List.cons_append, boldSpan_cons, boldSpan_cons, ih, List.append_assoc]
    rfl

/-- What is bold behind a place, by what stands there. -/
theorem boldAfter_iff (h : tokens[i]? = some t) {bold : Bool} : boldAfter bold t = true ↔
    StandsAt tokens i "pushbold" ∨ ¬MarkerAt tokens i ∧ bold = true := by
  rw [markerAt_iff h, standsAt_iff h]
  cases boldStep bold t with
  | push hkind hafter _ => exact iff_of_true hafter (.inl hkind)
  | pop hkind hafter _ => simp [hafter, hkind]
  | other hpush hpop hafter _ =>
    simp only [hafter, hpush, hpop, or_self, not_false_eq_true, true_and, false_or]

/-- The token at a place stands in bold text if it is no marker and bold text is open. -/
theorem boldPart_eq (h : tokens[i]? = some t) (bold : Bool) :
    boldPart bold t = if ¬MarkerAt tokens i ∧ bold = true then [t] else [] := by
  cases boldStep bold t with
  | push hkind _ hpart =>
    have hmarker : MarkerAt tokens i := (markerAt_iff h).mpr (.inl hkind)
    rw [hpart, if_neg fun hboth => hboth.1 hmarker]
  | pop hkind _ hpart =>
    have hmarker : MarkerAt tokens i := (markerAt_iff h).mpr (.inr hkind)
    rw [hpart, if_neg fun hboth => hboth.1 hmarker]
  | other hpush hpop _ hpart =>
    have hmarker : ¬MarkerAt tokens i := fun hor => ((markerAt_iff h).mp hor).elim hpush hpop
    rw [hpart]
    exact if_congr (by simp [hmarker]) rfl rfl

/-- The scan knows what the nearest marker before a place is. -/
theorem foldl_boldAfter_iff (hi : i ≤ tokens.length) :
    (tokens.take i).foldl boldAfter false = true ↔ BoldBefore tokens i := by
  induction i with
  | zero => simpa using not_boldBefore_zero
  | succ i ih =>
    have hget : tokens[i]? = some tokens[i] := List.getElem?_eq_getElem hi
    rw [List.take_add_one, hget, Option.toList_some, List.foldl_append, List.foldl_cons,
      List.foldl_nil, boldAfter_iff hget, ih (by omega), boldBefore_succ]

/-- A creature stands at a place if the token there is bold, no marker, and not ignored. -/
theorem creatureAt_iff (h : tokens[i]? = some t) {ignore : Text → Bool} :
    CreatureAt ignore tokens i ↔
      (¬MarkerAt tokens i ∧ BoldBefore tokens i) ∧ ignore t.content = false := by
  rw [CreatureAt, h, and_assoc]
  simp

/-- The scan finds the places of creatures before each place. -/
theorem filter_boldSpan (ignore : Text → Bool) (hi : i ≤ tokens.length) :
    (boldSpan false (tokens.take i)).filter (fun t => !ignore t.content) =
      ((List.range i).filter (CreatureAt ignore tokens ·)).filterMap (tokens[·]?) := by
  induction i with
  | zero => rfl
  | succ i ih =>
    have hget : tokens[i]? = some tokens[i] := List.getElem?_eq_getElem hi
    have hhere : (boldPart ((tokens.take i).foldl boldAfter false) tokens[i]).filter
        (fun t => !ignore t.content) =
          ([i].filter (CreatureAt ignore tokens ·)).filterMap (tokens[·]?) := by
      simp only [boldPart_eq hget, foldl_boldAfter_iff (show i ≤ tokens.length by omega)]
      by_cases hbold : ¬MarkerAt tokens i ∧ BoldBefore tokens i
      · cases hignore : ignore tokens[i].content <;>
          simp [hbold, hignore, creatureAt_iff hget, hget]
      · simp [hbold, creatureAt_iff hget]
    rw [List.take_add_one, hget, Option.toList_some, boldSpan_append, List.filter_append,
      ih (by omega), boldSpan_cons, boldSpan, List.append_nil, hhere, List.range_succ,
      List.filter_append, List.filterMap_append]

/-- The creatures are the tokens at the places of creatures. -/
theorem monsters_eq (ignore : Text → Bool) (t : Token) :
    t.monsters ignore = creatures ignore t.children := by
  have h := filter_boldSpan ignore (le_refl t.children.length)
  rwa [List.take_length] at h

/-- A marker may be repeated or left out; only the nearest one before a token counts. -/
example :
    let tokens : List Token :=
      [.text "You see ", .tag "pushbold" [] [], .tag "pushbold" [] [], .text "a rat",
        .tag "a" [] [.text "a ", .text "kobold"], .tag "popbold" [] [], .text " and ",
        .tag "popbold" [] [], .tag "pushbold" [] [], .text "a jackal"]
    (creatures (· == "a rat") tokens).map content = ["a kobold", "a jackal"] := by decide

end Token

namespace Stream

/-- That scripts know of the creatures that were found: their number, and their names in a list. If
there are any and no name holds the character that separates the names, each entry of the list is a
name, and to count the entries, where no quotes surround the list, yields the number. -/
structure KnowsCreatures (found : List Token) (after : Store) : Prop where
  /-- The number of the creatures. -/
  number : after.get? "monstercount" = some (Text.ofNat found.length)
  /-- Their names, in order. -/
  names : after.get? "monsterlist" = some (Text.join "|" (found.map Token.content))
  /-- Each entry of the list is the name of the creature at its place, and there are no others. -/
  entries : found ≠ [] → (∀ t ∈ found, '|' ∉ t.content) →
    ∀ list, after.get? "monsterlist" = some list →
      ∀ i : Nat, (Text.splitOn '|' list)[i]? = found[i]?.map Token.content
  /-- There are as many entries as creatures. -/
  counted : found ≠ [] → (∀ t ∈ found, '|' ∉ t.content) →
    ∀ list, after.get? "monsterlist" = some list →
      list.head? ≠ some '"' → list.getLast? ≠ some '"' →
        ∀ known number, after.get? "monstercount" = some number →
          Function.call known "countsplit" [list, "|"] = .ok ⟨number, []⟩

/-- A list of names that do not hold the separator is taken apart into the names. -/
theorem splitOn_names {found : List Token} (hne : found ≠ [])
    (hplain : ∀ t ∈ found, '|' ∉ t.content) :
    Text.splitOn '|' (Text.join "|" (found.map Token.content)) = found.map Token.content :=
  Text.splitOn_join (List.map_eq_nil_iff.not.mpr hne) (by simpa using hplain)

/-- A component that lists what is in a room tells the creatures. -/
theorem tells_creatures (ignore : Text → Bool) (now : Nat) {t : Token} {id : Text}
    (hkind : t.kind = "component") (hid : t.attr? "id" = some id)
    (hroom : id.filter (· != ' ') = roomObjects) :
    Tells ignore now t "monsterlist" (Text.join "|" ((t.monsters ignore).map Token.content)) ∧
      Tells ignore now t "monstercount" (Text.ofNat (t.monsters ignore).length) := by
  have hgame : ¬("exp" : Text) <+: id := by
    rintro ⟨rest, rfl⟩
    cases hroom
  exact ⟨.creatures hkind hid hgame hroom, .creatureCount hkind hid hgame hroom⟩

/-- After the component that lists what is in a room, scripts know of its creatures: of the tokens
inside it that are no markers, that have a marker before them, the nearest of which opens bold text,
and in whose content the expression for what is ignored, if there is one, does not occur, in order.
-/
theorem creatures_are_known (s : Stream) {t : Token} {id : Text} (hkind : t.kind = "component")
    (hid : t.attr? "id" = some id) (hroom : id.filter (· != ' ') = roomObjects) :
    let ignore (name : Text) : Bool := s.ignored.any fun expression => expression.occursIn name
    t.monsters ignore = Token.creatures ignore t.children ∧
      KnowsCreatures (Token.creatures ignore t.children) (s.process t).1.globals := by
  change t.monsters s.ignores = Token.creatures s.ignores t.children ∧
    KnowsCreatures (Token.creatures s.ignores t.children) (s.process t).1.globals
  have hfound := Token.monsters_eq s.ignores t
  have hsets := setsWhatIsTold s.ignores s.now t s.globals
  have hone : t.kind ≠ "dialogdata" := by
    rw [hkind]
    decide
  obtain ⟨hlist, hcount⟩ := tells_creatures s.ignores s.now hkind hid hroom
  have hnames := hsets.told _ _ hlist hone
  have hnumber := hsets.told _ _ hcount hone
  rw [hfound] at hnames hnumber
  refine ⟨hfound, hnumber, hnames, fun hne hplain list hget i => ?_,
    fun hne hplain list hget hfirst hlast known number hnumber' => ?_⟩
  · obtain rfl := Option.some.inj (hnames.symm.trans hget)
    rw [splitOn_names hne hplain, List.getElem?_map]
  · obtain rfl := Option.some.inj (hnames.symm.trans hget)
    obtain rfl := Option.some.inj (hnumber.symm.trans hnumber')
    rw [Function.call_countSplit hfirst hlast, splitOn_names hne hplain, List.length_map]
    rfl

/-- Creatures may stand inside other tags, markers may be repeated, and names may be filtered: of a
rat and a dog, only the dog is known. -/
theorem creatures_are_known_kennel :
    let s : Stream := { ignored := (Regex.compile "rat|mouse").toOption }
    let t : Token := .tag "component" [("id", "room objs")]
      [.text "You see ", .tag "pushbold" [] [], .text "a rat", .tag "pushbold" [] [],
        .tag "a" [("noun", "dog")] [.text "a ", .text "dog"], .tag "popbold" [] [], .text "."]
    let ignore (name : Text) : Bool := s.ignored.any fun expression => expression.occursIn name
    (t.kind = "component" ∧ t.attr? "id" = some "room objs".toList ∧
        "room objs".toList.filter (· != ' ') = roomObjects) ∧
      t.monsters ignore = Token.creatures ignore t.children ∧
      (t.monsters ignore).map Token.content = ["a dog".toList] ∧
      (s.process t).1.globals.get? "monsterlist" = some "a dog".toList ∧
      (s.process t).1.globals.get? "monstercount" = some "1".toList := by
  intro s t ignore
  have hkind : t.kind = "component" := rfl
  have hid : t.attr? "id" = some "room objs".toList := rfl
  have hroom : "room objs".toList.filter (· != ' ') = roomObjects := by decide
  obtain ⟨hfound, hknown⟩ := creatures_are_known s hkind hid hroom
  have hnames : (t.monsters ignore).map Token.content = ["a dog".toList] := by decide +kernel
  rw [← hfound] at hknown
  have hnumber : (t.monsters ignore).length = 1 := by
    simpa using congrArg List.length hnames
  refine ⟨⟨hkind, hid, hroom⟩, hfound, hnames, ?_, ?_⟩
  · rw [hknown.names, hnames]
    rfl
  · rw [hknown.number, hnumber]
    rfl

end Stream

end Mudline
