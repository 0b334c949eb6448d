import Mudline.Proofs.Stream.Batch
import Mudline.Proofs.Stream.Boundary
import Mathlib.Data.List.Nodup

/-!
# The shared variables mirror the game

A token tells the values of certain variables, and which ones depends on its data: the name of a
component, an indicator or a progress bar is the name of a variable and may be that of any other.
This file says which variables each token writes, that no other is touched, and that the commands
that announce a token say what is in the store after it.
-/

namespace Mudline

namespace Stream

/-- The variables that a token tells of, with their values, where creatures that `ignore` holds of
are left out and the wall clock shows `now` seconds. -/
inductive Tells (ignore : Text → Bool) (now : Nat) (t : Token) : Text → Text → Prop
  /-- The text of the prompt. -/
  | prompt (h : t.kind = "prompt") :
      Tells ignore now t "prompt" (Text.replace "&gt;" ">" t.content)
  /-- The time of the game at a prompt. -/
  | gameTime (h : t.kind = "prompt") : Tells ignore now t "gametime" ((t.attr? "time").getD [])
  /-- When a prompt came. -/
  | gameTimeUpdate (h : t.kind = "prompt") :
      Tells ignore now t "gametimeupdate" (Text.ofNat now)
  /-- What a hand holds. -/
  | hand {side : Text} (hside : side = "left" ∨ side = "right") (h : t.kind = side) :
      Tells ignore now t (side ++ "hand".toList)
        (if t.content = [] then "Empty" else t.content)
  /-- The word for what a hand holds. -/
  | handNoun {side : Text} (hside : side = "left" ∨ side = "right") (h : t.kind = side) :
      Tells ignore now t (side ++ "handnoun".toList) ((t.attr? "noun").getD [])
  /-- The spell that is prepared. -/
  | spell (h : t.kind = "spell") : Tells ignore now t "preparedspell" t.content
  /-- The title of the room, behind three characters of the subtitle of the main window. -/
  | roomTitle {subtitle : Text} (h : t.kind = "streamwindow") (hmain : t.attr? "id" = some "main")
      (hsubtitle : t.attr? "subtitle" = some subtitle) (hlong : 3 < subtitle.length) :
      Tells ignore now t "roomtitle" (subtitle.drop 3)
  /-- A component, under its identifier without spaces. -/
  | component {id : Text} (h : t.kind = "component") (hid : t.attr? "id" = some id)
      (hgame : ¬("exp" : Text) <+: id) :
      Tells ignore now t (id.filter (· != ' ')) t.content
  /-- The creatures in the room. -/
  | creatures {id : Text} (h : t.kind = "component") (hid : t.attr? "id" = some id)
      (hgame : ¬("exp" : Text) <+: id) (hroom : id.filter (· != ' ') = "roomobjs") :
      Tells ignore now t "monsterlist" (Text.join "|" ((t.monsters ignore).map (·.content)))
  /-- How many creatures are in the room. -/
  | creatureCount {id : Text} (h : t.kind = "component") (hid : t.attr? "id" = some id)
      (hgame : ¬("exp" : Text) <+: id) (hroom : id.filter (· != ' ') = "roomobjs") :
      Tells ignore now t "monstercount" (Text.ofNat (t.monsters ignore).length)
  /-- An exit that there is. -/
  | openExit {code direction : Text} {dir : Token} (h : t.kind = "compass")
      (hdirection : (code, direction) ∈ directions) (hdir : dir ∈ t.children)
      (hkind : dir.kind = "dir") (hcode : dir.attr? "value" = some code) :
      Tells ignore now t direction "1"
  /-- An exit that there is not. -/
  | closedExit {code direction : Text} (h : t.kind = "compass")
      (hdirection : (code, direction) ∈ directions)
      (hclosed : ∀ dir ∈ t.children, dir.kind = "dir" → dir.attr? "value" ≠ some code) :
      Tells ignore now t direction "0"
  /-- A state of the character, under its identifier without the first four characters. -/
  | indicator {id : Text} (h : t.kind = "indicator") (hid : t.attr? "id" = some id)
      (hname : Unicode.lower (id.drop 4) ≠ []) :
      Tells ignore now t (Unicode.lower (id.drop 4))
        (if t.attr? "visible" = some "y" then "1" else "0")
  /-- The value of a progress bar. -/
  | progressBar {bar : Token} {id : Text} (h : t.kind = "dialogdata") (hbar : bar ∈ t.children)
      (hkind : bar.kind = "progressbar") (hid : bar.attr? "id" = some id) :
      Tells ignore now t id ((bar.attr? "value").getD "0")
  /-- The name of the character. -/
  | characterName (h : t.kind = "app") :
      Tells ignore now t "charactername" ((t.attr? "char").getD [])
  /-- The name of the game. -/
  | game (h : t.kind = "app") : Tells ignore now t "game" ((t.attr? "game").getD [])

/-- The title of a room is the subtitle of the main window behind its dash. -/
theorem roomTitle?_eq_some_iff {t : Token} {title : Text} :
    roomTitle? t = some title ↔ ∃ subtitle, t.attr? "id" = some "main" ∧
      t.attr? "subtitle" = some subtitle ∧ 3 < subtitle.length ∧ title = subtitle.drop 3 := by
  have hlong (subtitle : Text) : (!(subtitle.drop 3).isEmpty) = true ↔ 3 < subtitle.length := by
    rw [Bool.not_eq_true', List.isEmpty_eq_false_iff, ne_eq, List.drop_eq_nil_iff, not_le]
  unfold roomTitle?
  split
  · rename_i hmain
    rw [beq_iff_eq] at hmain
    constructor
    · intro htitle
      obtain ⟨hsome, hne⟩ := Option.filter_eq_some_iff.mp htitle
      obtain ⟨subtitle, hsubtitle, rfl⟩ := Option.map_eq_some_iff.mp hsome
      exact ⟨subtitle, hmain, hsubtitle, (hlong subtitle).mp hne, rfl⟩
    · rintro ⟨subtitle, -, hsubtitle, hlength, rfl⟩
      rw [hsubtitle]
      exact Option.filter_eq_some_iff.mpr ⟨rfl, (hlong subtitle).mpr hlength⟩
  · rename_i hother
    rw [beq_iff_eq] at hother
    exact iff_of_false (by simp) fun ⟨_, hmain, _⟩ => hother hmain

/-- A component is named by its identity without blanks, unless this is about experience. -/
theorem componentId?_eq_some_iff {t : Token} {name : Text} :
    componentId? t = some name ↔ ∃ id, t.attr? "id" = some id ∧ ¬("exp" : Text) <+: id ∧
      name = id.filter (· != ' ') := by
  have hgame (id : Text) : (!("exp" : Text).isPrefixOf id) = true ↔ ¬("exp" : Text) <+: id := by
    rw [Bool.not_eq_true', Bool.eq_false_iff, ne_eq, List.isPrefixOf_iff_prefix]
  rw [componentId?, Option.map_eq_some_iff]
  refine exists_congr fun id => ?_
  rw [Option.filter_eq_some_iff, hgame, and_assoc, eq_comm (a := name)]

/-- An exit is open if it is among the directions that the token lists, and else closed. -/
theorem mem_exits_iff {t : Token} {direction value : Text} :
    (direction, value) ∈ exits t ↔ ∃ code, (code, direction) ∈ directions ∧
      ((value = "1" ∧ ∃ dir ∈ t.children, dir.kind = "dir" ∧ dir.attr? "value" = some code) ∨
        (value = "0" ∧ ∀ dir ∈ t.children, dir.kind = "dir" → dir.attr? "value" ≠ some code)) := by
  have hopen (code : Text) : (openExits t).contains code = true ↔
      ∃ dir ∈ t.children, dir.kind = "dir" ∧ dir.attr? "value" = some code := by
    simp only [openExits, childrenNamed, List.contains_iff_mem, List.mem_filterMap,
      List.mem_filter, beq_iff_eq, and_assoc]
  simp only [exits, List.mem_map, Prod.exists, Prod.mk.injEq]
  constructor
  · rintro ⟨code, _, hdirection, rfl, rfl⟩
    refine ⟨code, hdirection, ?_⟩
    cases hcode : (openExits t).contains code with
    | true => exact .inl ⟨rfl, (hopen code).mp hcode⟩
    | false =>
      refine .inr ⟨rfl, fun dir hdir hkind hvalue => ?_⟩
      rw [(hopen code).mpr ⟨dir, hdir, hkind, hvalue⟩] at hcode
      cases hcode
  · rintro ⟨code, hdirection, ⟨rfl, hsome⟩ | ⟨rfl, hnone⟩⟩
    · exact ⟨code, direction, hdirection, rfl, by rw [(hopen code).mpr hsome]; rfl⟩
    · have hcode : (openExits t).contains code = false := by
        rw [Bool.eq_false_iff, ne_eq, hopen]
        rintro ⟨dir, hdir, hkind, hvalue⟩
        exact hnone dir hdir hkind hvalue
      exact ⟨code, direction, hdirection, rfl, by rw [hcode]; rfl⟩

/-- A progress bar tells the value of its name. -/
theorem mem_progressBars_iff {t : Token} {name value : Text} :
    (name, value) ∈ progressBars t ↔ ∃ bar ∈ t.children, bar.kind = "progressbar" ∧
      bar.attr? "id" = some name ∧ value = (bar.attr? "value").getD "0" := by
  simp only [progressBars, childrenNamed, List.mem_filterMap, List.mem_filter, beq_iff_eq,
    Option.map_eq_some_iff, Prod.mk.injEq, and_assoc]
  refine exists_congr fun bar => and_congr_right fun _ => and_congr_right fun _ => ?_
  constructor
  · rintro ⟨id, hid, rfl, rfl⟩
    exact ⟨hid, rfl⟩
  · rintro ⟨hid, rfl⟩
    exact ⟨name, hid, rfl, rfl⟩

/-- The exits are told for all directions. -/
theorem map_fst_exits (t : Token) : (exits t).map Prod.fst = directions.map Prod.snd := rfl

/-- Only the progress bars of a dialog can be two of one name. -/
theorem nodup_writes {ignore : Text → Bool} {now : Nat} {t : Token} (h : t.kind ≠ "dialogdata") :
    ((writes ignore now t).map Prod.fst).Nodup := by
  cases hkind : Kind.ofToken t with
  | dialogData => exact absurd ((Kind.ofToken_eq_iff (by decide)).mp hkind) h
  | compass =>
    simp only [writes, hkind, map_fst_exits]
    decide
  | component =>
    simp only [writes, hkind]
    cases componentId? t with
    | none => exact .nil
    | some id =>
      by_cases hroom : id = roomObjects
      · have hnames : [roomObjects, "monsterlist".toList, "monstercount".toList].Nodup := by decide
        simp only [hroom, beq_self_eq_true, if_true]
        exact hnames
      · simp [hroom]
  | streamWindow =>
    simp only [writes, hkind]
    cases roomTitle? t with
    | none => exact .nil
    | some title => exact List.nodup_singleton _
  | indicator =>
    simp only [writes, hkind]
    split
    · exact .nil
    · exact List.nodup_singleton _
  | _ => simp [writes, hkind]

/-- A hand without a content is empty. -/
theorem held_eq (t : Token) :
    held t = (if t.content = [] then "Empty" else t.content : Text) := by
  simp only [held, List.isEmpty_iff]

/-- A flag tells whether two texts are the same. -/
theorem flag_beq (a b : Option Text) :
    flag (a == b) = (if a = b then "1" else "0" : Text) := by
  simp only [flag, beq_iff_eq]

/-- An indicator is named by its identity behind the prefix, in lower case. -/
theorem indicatorName_of_id {t : Token} {id : Text} (h : t.attr? "id" = some id) :
    indicatorName t = Unicode.lower (id.drop 4) := by
  rw [indicatorName, Token.attrD, h, Option.getD_some]

/-- An indicator without an identity has no name. -/
theorem indicatorName_of_noId {t : Token} (h : t.attr? "id" = none) : indicatorName t = [] := by
  rw [indicatorName, Token.attrD, h, Option.getD_none, List.drop_nil]
  rfl

/-- What a token sets is told by it. -/
theorem tells_of_mem_writes {ignore : Text → Bool} {now : Nat} {t : Token} {name value : Text}
    (h : (name, value) ∈ writes ignore now t) : Tells ignore now t name value := by
  -- Kinds that set nothing are done at once; each other kind has a case of its own.
  cases hkind : Kind.ofToken t <;>
    simp only [writes, hkind, List.mem_cons, Prod.mk.injEq, List.not_mem_nil, or_false] at h
  case prompt =>
    have hprompt : t.kind = "prompt" := (Kind.ofToken_eq_iff (by decide)).mp hkind
    obtain ⟨rfl, rfl⟩ | ⟨rfl, rfl⟩ | ⟨rfl, rfl⟩ := h
    · exact .prompt hprompt
    · exact .gameTime hprompt
    · exact .gameTimeUpdate hprompt
  case leftHand =>
    have hleft : t.kind = "left" := (Kind.ofToken_eq_iff (by decide)).mp hkind
    obtain ⟨rfl, rfl⟩ | ⟨rfl, rfl⟩ := h
    · exact held_eq t ▸ .hand (.inl rfl) hleft
    · exact .handNoun (.inl rfl) hleft
  case rightHand =>
    have hright : t.kind = "right" := (Kind.ofToken_eq_iff (by decide)).mp hkind
    obtain ⟨rfl, rfl⟩ | ⟨rfl, rfl⟩ := h
    · exact held_eq t ▸ .hand (.inr rfl) hright
    · exact .handNoun (.inr rfl) hright
  case spell =>
    obtain ⟨rfl, rfl⟩ := h
    exact .spell ((Kind.ofToken_eq_iff (by decide)).mp hkind)
  case streamWindow =>
    obtain ⟨title, htitle, heq⟩ := List.mem_map.mp h
    obtain ⟨rfl, rfl⟩ := Prod.mk.inj heq
    obtain ⟨subtitle, hmain, hsubtitle, hlong, rfl⟩ :=
      roomTitle?_eq_some_iff.mp (Option.mem_toList.mp htitle)
    exact .roomTitle ((Kind.ofToken_eq_iff (by decide)).mp hkind) hmain hsubtitle hlong
  case component =>
    have hcomponent : t.kind = "component" := (Kind.ofToken_eq_iff (by decide)).mp hkind
    cases hname : componentId? t with
    | none => simp [hname] at h
    | some component =>
      obtain ⟨id, hid, hgame, rfl⟩ := componentId?_eq_some_iff.mp hname
      simp only [hname] at h
      obtain heq | hmore := List.mem_cons.mp h
      · obtain ⟨rfl, rfl⟩ := Prod.mk.inj heq
        exact .component hcomponent hid hgame
      · split at hmore
        · rename_i hroom
          rw [beq_iff_eq] at hroom
          simp only [creatureVariables, List.mem_cons, Prod.mk.injEq, List.not_mem_nil,
            or_false] at hmore
          obtain ⟨rfl, rfl⟩ | ⟨rfl, rfl⟩ := hmore
          · exact .creatures hcomponent hid hgame hroom
          · rw [List.length_map]
            exact .creatureCount hcomponent hid hgame hroom
        · cases hmore
  case compass =>
    have hcompass : t.kind = "compass" := (Kind.ofToken_eq_iff (by decide)).mp hkind
    obtain ⟨code, hdirection, ⟨rfl, dir, hdir, hkind, hcode⟩ | ⟨rfl, hclosed⟩⟩ := mem_exits_iff.mp h
    · exact .openExit hcompass hdirection hdir hkind hcode
    · exact .closedExit hcompass hdirection hclosed
  case indicator =>
    split at h
    · cases h
    · rename_i hname
      rw [List.isEmpty_iff] at hname
      obtain ⟨rfl, rfl⟩ := Prod.mk.inj (List.mem_singleton.mp h)
      cases hid : t.attr? "id" with
      | none => exact absurd (indicatorName_of_noId hid) hname
      | some id =>
        rw [indicatorName_of_id hid] at hname ⊢
        rw [flag_beq]
        exact .indicator ((Kind.ofToken_eq_iff (by decide)).mp hkind) hid hname
  case dialogData =>
    obtain ⟨bar, hbar, hname, hid, rfl⟩ := mem_progressBars_iff.mp h
    exact .progressBar ((Kind.ofToken_eq_iff (by decide)).mp hkind) hbar hname hid
  case app =>
    have happ : t.kind = "app" := (Kind.ofToken_eq_iff (by decide)).mp hkind
    obtain ⟨rfl, rfl⟩ | ⟨rfl, rfl⟩ := h
    · exact .characterName happ
    · exact .game happ

/-- What a token tells is set. -/
theorem mem_writes_of_tells {ignore : Text → Bool} {now : Nat} {t : Token} {name value : Text}
    (h : Tells ignore now t name value) : (name, value) ∈ writes ignore now t := by
  cases h with
  | prompt h | gameTime h | gameTimeUpdate h =>
    have hkind : Kind.ofToken t = .prompt := (Kind.ofToken_eq_iff (by decide)).mpr h
    simp [writes, hkind, Token.attrD]
  | hand hside h | handNoun hside h =>
    obtain rfl | rfl := hside
    · have hkind : Kind.ofToken t = .leftHand := (Kind.ofToken_eq_iff (by decide)).mpr h
      simp [writes, hkind, held_eq, Token.attrD]
    · have hkind : Kind.ofToken t = .rightHand := (Kind.ofToken_eq_iff (by decide)).mpr h
      simp [writes, hkind, held_eq, Token.attrD]
  | spell h =>
    have hkind : Kind.ofToken t = .spell := (Kind.ofToken_eq_iff (by decide)).mpr h
    simp [writes, hkind]
  | roomTitle h hmain hsubtitle hlong =>
    have hkind : Kind.ofToken t = .streamWindow := (Kind.ofToken_eq_iff (by decide)).mpr h
    have htitle := roomTitle?_eq_some_iff.mpr ⟨_, hmain, hsubtitle, hlong, rfl⟩
    simp [writes, hkind, htitle]
  | component h hid hgame =>
    have hkind : Kind.ofToken t = .component := (Kind.ofToken_eq_iff (by decide)).mpr h
    have hname := componentId?_eq_some_iff.mpr ⟨_, hid, hgame, rfl⟩
    simp [writes, hkind, hname]
  | creatures h hid hgame hroom | creatureCount h hid hgame hroom =>
    have hkind : Kind.ofToken t = .component := (Kind.ofToken_eq_iff (by decide)).mpr h
    have hname : componentId? t = some roomObjects :=
      componentId?_eq_some_iff.mpr ⟨_, hid, hgame, hroom.symm⟩
    simp [writes, hkind, hname, creatureVariables]
  | openExit h hdirection hdir hname hcode =>
    have hkind : Kind.ofToken t = .compass := (Kind.ofToken_eq_iff (by decide)).mpr h
    simp only [writes, hkind]
    exact mem_exits_iff.mpr ⟨_, hdirection, .inl ⟨rfl, _, hdir, hname, hcode⟩⟩
  | closedExit h hdirection hclosed =>
    have hkind : Kind.ofToken t = .compass := (Kind.ofToken_eq_iff (by decide)).mpr h
    simp only [writes, hkind]
    exact mem_exits_iff.mpr ⟨_, hdirection, .inr ⟨rfl, hclosed⟩⟩
  | indicator h hid hname =>
    have hkind : Kind.ofToken t = .indicator := (Kind.ofToken_eq_iff (by decide)).mpr h
    have hsome := mt List.isEmpty_iff.mp hname
    simp only [writes, hkind, indicatorName_of_id hid, if_neg hsome, flag_beq, List.mem_singleton]
  | progressBar h hbar hname hid =>
    have hkind : Kind.ofToken t = .dialogData := (Kind.ofToken_eq_iff (by decide)).mpr h
    simp only [writes, hkind]
    exact mem_progressBars_iff.mpr ⟨_, hbar, hname, hid, rfl⟩
  | characterName h | game h =>
    have hkind : Kind.ofToken t = .app := (Kind.ofToken_eq_iff (by decide)).mpr h
    simp [writes, hkind, Token.attrD]

/-- A token sets the variables that it tells of, and no other. -/
structure SetsWhatIsTold (ignore : Text → Bool) (now : Nat) (t : Token) (before after : Store) :
    Prop where
  /-- Any other variable keeps its value, or stays without one. -/
  other : ∀ name, (∀ value, ¬Tells ignore now t name value) → after.get? name = before.get? name
  /-- A variable has the value that is told. Only a dialog can tell two of one variable. -/
  told : ∀ name value, Tells ignore now t name value → t.kind ≠ "dialogdata" →
    after.get? name = some value
  /-- Of the progress bars of a dialog that have one name, the last is told. -/
  bars : t.kind = "dialogdata" → ∀ (front : List Token) (bar : Token) (rest : List Token)
    (name : Text), t.children = front ++ bar :: rest → bar.kind = "progressbar" →
    bar.attr? "id" = some name →
    (∀ later ∈ rest, later.kind = "progressbar" → later.attr? "id" ≠ some name) →
    after.get? name = some ((bar.attr? "value").getD "0")

/-- A progress bar is told between those before and those behind it. -/
theorem progressBars_of_children {t bar : Token} {front rest : List Token} {name : Text}
    (h : t.children = front ++ bar :: rest) (hbar : bar.kind = "progressbar")
    (hid : bar.attr? "id" = some name) :
    progressBars t = progressBars (.tag [] [] front) ++
      (name, (bar.attr? "value").getD "0") :: progressBars (.tag [] [] rest) := by
  have hof (children : List Token) : (Token.tag [] [] children).children = children := rfl
  simp only [progressBars, childrenNamed, h, hof, List.filter_append, List.filterMap_append,
    List.filter_cons, hbar, beq_self_eq_true, if_true, List.filterMap_cons, hid, Option.map_some]

/-- Setting what a token tells, in order, sets just that. -/
theorem setsWhatIsTold (ignore : Text → Bool) (now : Nat) (t : Token) (s : Store) :
    SetsWhatIsTold ignore now t s (s.setAll (writes ignore now t)) where
  other name h := Store.get?_setAll_of_notMem fun value hmem => h value (tells_of_mem_writes hmem)
  told name value h hone := Store.get?_setAll_of_mem (nodup_writes hone) (mem_writes_of_tells h)
  bars h front bar rest name hchildren hbar hid hlast := by
    have hkind : Kind.ofToken t = .dialogData := (Kind.ofToken_eq_iff (by decide)).mpr h
    simp only [writes, hkind, progressBars_of_children hchildren hbar hid]
    refine Store.get?_setAll_of_last fun value hmem => ?_
    obtain ⟨later, hlater, hname, hsame, -⟩ := mem_progressBars_iff.mp hmem
    exact hlast later hlater hname hsame

/-- An indicator can set what another token tells: its name may be that of the game's variable. -/
example :
    let icon : Token := .tag "indicator" [("id", "IconGAME"), ("visible", "y")] []
    (({} : Stream).process icon).1.globals.get? "game" = some "1" := by decide +kernel

/-- The kinds of the tokens that a command announces. -/
def Command.kinds : Command → List Kind
  | text _ => []
  | clearWindow _ => [.clearStream]
  | createWindow _ _ _ => [.streamWindow]
  | vitals _ _ => [.dialogData]
  | launchUrl _ => [.launchUrl]
  | spell _ => [.spell]
  | roundTime _ => [.roundTime]
  | room => [.component]
  | compass _ => [.compass]
  | hands _ _ => [.leftHand, .rightHand]
  | character _ _ => [.app]

section

variable {ignore : Text → Bool} {now : Nat} {t : Token} {before after : Store} {setupDone : Bool}

end

/-- The shared variables are those that processing the token has left. -/
theorem globals_passed (s : Stream) (t : Token) :
    (s.passed t).globals = (s.process t).1.globals := rfl

/-- Reading a token sets the variables as processing it does. What it announces comes first, and
the only further commands show texts. -/
theorem take_eq (s : Stream) (t : Token) :
    (s.take t).reader.globals = (s.process t).1.globals ∧
      ∃ shown : List (List Display.Run),
        (s.take t).commands = (s.process t).2 ++ shown.map .text := by
  have hcase := s.takeCase t
  generalize s.take t = taken at hcase
  cases hcase with
  | fault => exact ⟨rfl, [], (List.append_nil _).symm⟩
  | quiet | bare | held => exact ⟨globals_passed s t, [], (List.append_nil _).symm⟩
  | shown r => exact ⟨globals_passed s t, [Display.combine (s.pending ++ [r])], rfl⟩

/-- A variable that no token of a chunk tells of keeps its value. -/
theorem get?_readTokens {s : Stream} {tokens : List Token} {name : Text}
    (h : ∀ p ∈ s.passages tokens, ∀ value,
      ¬Tells p.before.ignores p.before.now p.token name value) :
    (s.readTokens tokens).1.globals.get? name = s.globals.get? name := by
  induction tokens generalizing s with
  | nil => rfl
  | cons t rest ih =>
    rw [passages, List.forall_mem_cons] at h
    have hfirst : (s.take t).reader.globals.get? name = s.globals.get? name := by
      rw [(take_eq s t).1]
      exact (setsWhatIsTold s.ignores s.now t s.globals).other name h.1
    rw [readTokens_cons]
    split
    · rename_i hgoes
      rw [if_pos hgoes] at h
      exact (ih h.2).trans hfirst
    · exact hfirst

end Stream

end Mudline
