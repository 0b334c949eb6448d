import Mudline.Proofs.Script.Braces
import Mudline.Proofs.Text.Pieces

/-!
# What a script does not survive

There are two ways for a script to come to a sudden end. When it is loaded, the word of a line in
which a count of arguments is looked for is cut after three bytes, and that cut may lie within a
character. When it runs, it may be told to wait for more seconds than a duration can have. Nothing
else is fatal: all other mistakes of a script are complaints, or end it.
-/

namespace Mudline

namespace Script

/-- The word of a trimmed line in which a count of arguments is looked for: the first, or the next
if the first is `else`. -/
def countWord (line : Text) : Text :=
  let (word, rest) := Text.splitWord line
  if Text.sameWord word "else" then (Text.splitWord rest).1 else word

/-- Whether a line is a comment, once it is trimmed. -/
def isComment (line : Text) : Bool :=
  line.head? == some '#' || ("//" : Text).isPrefixOf line

/-- Whether a line that is neither a comment nor a label has its word cut within a character. -/
def isCut (raw : Text) : Bool :=
  !isComment (Text.trim raw) && (labelName? (Text.trim raw)).isNone &&
    cutsWithin 3 (countWord (Text.trim raw))

/-- Lower-casing ASCII does not change the size of a character. -/
theorem utf8Size_toLower (c : Char) : c.toLower.utf8Size = c.utf8Size := by
  have hsmall {d : Char} (hd : d.toNat ≤ 127) : d.utf8Size = 1 :=
    Char.utf8Size_eq_one_iff.mpr (UInt32.le_iff_toNat_le.mpr hd)
  obtain hsame | ⟨hupper, hlower⟩ := Text.toLower_cases c
  · rw [hsame]
  · rw [hsmall (by omega), hsmall (by omega)]

/-- Whether every character of a text is a single byte. -/
def isSingleBytes (t : Text) : Bool :=
  t.all (·.utf8Size == 1)

/-- Lower-casing ASCII leaves characters of one byte such characters. -/
theorem isSingleBytes_asciiLower (t : Text) :
    isSingleBytes (Text.asciiLower t) = isSingleBytes t := by
  simp only [isSingleBytes, Text.asciiLower, List.all_map, Function.comp_def, utf8Size_toLower]

/-- A word consists of single bytes in any letter case. -/
theorem isSingleBytes_of_sameWord {a b : Text} (h : Text.sameWord a b = true)
    (hb : isSingleBytes b = true) : isSingleBytes a = true := by
  have hlower : Text.asciiLower a = Text.asciiLower b := by simpa [Text.sameWord] using h
  rw [← isSingleBytes_asciiLower, hlower, isSingleBytes_asciiLower, hb]

/-- No character is cut among single bytes. -/
theorem not_cutsWithin {distance : Nat} {t : Text} (h : isSingleBytes (t.take distance) = true) :
    cutsWithin distance t = false := by
  induction t generalizing distance with
  | nil => rfl
  | cons c t ih =>
    cases distance with
    | zero => rfl
    | succ distance =>
      simp only [isSingleBytes, List.take_succ_cons, List.all_cons, Bool.and_eq_true,
        beq_iff_eq] at h
      have hrest := ih h.2
      simp [cutsWithin, h.1, hrest]

/-- A word that begins with a keyword of at least three bytes is not cut within a character. -/
theorem not_cutsWithin_of_take {n : Nat} (hn : 3 ≤ n) {word keyword : Text}
    (h : Text.sameWord (word.take n) keyword = true) (hkeyword : isSingleBytes keyword = true) :
    cutsWithin 3 word = false := by
  have hfront : ∀ c ∈ word.take n, (c.utf8Size == 1) = true :=
    List.all_eq_true.mp (isSingleBytes_of_sameWord h hkeyword)
  refine not_cutsWithin (List.all_eq_true.mpr fun c hc => hfront c ?_)
  exact (List.take_prefix_take_left hn).subset hc

/-- A keyword is not cut within a character. -/
theorem not_cutsWithin_of_sameWord {word keyword : Text} (h : Text.sameWord word keyword = true)
    (hkeyword : isSingleBytes keyword = true) : cutsWithin 3 word = false := by
  have hword : ∀ c ∈ word, (c.utf8Size == 1) = true :=
    List.all_eq_true.mp (isSingleBytes_of_sameWord h hkeyword)
  exact not_cutsWithin (List.all_eq_true.mpr fun c hc => hword c (List.mem_of_mem_take hc))

/-- A count of arguments meets a fault if its word is cut within a character. -/
theorem argCount_eq_error_iff {word : Text} {f : Fault} :
    argCount word = .error f ↔ f = .cutCharacter ∧ cutsWithin 3 word = true := by
  unfold argCount
  split
  · rename_i hcut
    simp [hcut, eq_comm]
  · rename_i hwhole
    simp [hwhole]

/-- A line behind an else meets a fault if its word is cut within a character. -/
theorem classifyElse_eq_error_iff {rest : Text} {f : Fault} :
    classifyElse rest = .error f ↔
      f = .cutCharacter ∧ cutsWithin 3 (Text.splitWord rest).1 = true := by
  simp only [classifyElse]
  split
  · rename_i hif
    have hwhole := not_cutsWithin_of_sameWord hif (by decide)
    simp [hwhole, pure, Except.pure]
  · rw [← argCount_eq_error_iff]
    cases argCount (Text.splitWord rest).1 with
    | error g => simp [bind, Except.bind]
    | ok n => cases n <;> simp [bind, Except.bind, pure, Except.pure]

/-- A line meets a fault if its word is cut within a character. -/
theorem classifyWord_eq_error_iff {raw line : Text} {f : Fault} :
    classifyWord raw line = .error f ↔
      f = .cutCharacter ∧ cutsWithin 3 (countWord line) = true := by
  simp only [classifyWord, countWord]
  split
  · exact classifyElse_eq_error_iff
  · split
    · rename_i hbrace
      have hwhole := not_cutsWithin_of_take (by decide) hbrace (by decide)
      simp [hwhole, pure, Except.pure]
    · split
      · rename_i hif
        have hwhole := not_cutsWithin_of_sameWord hif (by decide)
        simp [hwhole, pure, Except.pure]
      · rw [← argCount_eq_error_iff]
        cases argCount (Text.splitWord line).1 with
        | error g => simp [bind, Except.bind]
        | ok n =>
          cases n with
          | some n => simp [bind, Except.bind, pure, Except.pure]
          | none =>
            simp only [bind, Except.bind, pure, Except.pure]
            split <;> simp

/-- A line has no kind exactly if its word is cut within a character. -/
theorem classify_eq_error_iff {raw : Text} {f : Fault} :
    classify raw = .error f ↔ f = .cutCharacter ∧ isCut raw = true := by
  simp only [classify, isCut]
  generalize Text.trim raw = line
  split
  · rename_i hempty
    obtain rfl : line = [] := by simpa using hempty
    have hwhole : cutsWithin 3 (countWord []) = false := by decide
    simp [hwhole]
  · split
    · rename_i hcomment
      have hsame : isComment line = true := hcomment
      simp [hsame]
    · rename_i hplain
      have hsame : isComment line = false := Bool.eq_false_iff.mpr hplain
      split
      · rename_i hopens
        obtain rfl : line = "\x7b" := by simpa using hopens
        have hwhole : cutsWithin 3 (countWord "\x7b") = false := by decide
        simp only [hwhole]
        simp
      · split
        · rename_i hcloses
          obtain rfl : line = "\x7d" := by simpa using hcloses
          have hwhole : cutsWithin 3 (countWord "\x7d") = false := by decide
          simp only [hwhole]
          simp
        · cases labelName? line with
          | some name => simp
          | none => simpa [hsame] using classifyWord_eq_error_iff

/-- The lines of a script with the given text, before they have kinds. -/
def sourceLines (library : Library) (name : Text) (source : List Text) : List SourceLine :=
  ((numbered name source).flatMap (contributed library name)).flatMap (·.split)

/-- Where the members of a list are refused for one reason only, so is the list. -/
theorem mapM_eq_error_iff {α β ε : Type} {k : α → Except ε β} {e : ε} {bad : α → Prop}
    (h : ∀ x e', k x = .error e' ↔ e' = e ∧ bad x) {l : List α} {e' : ε} :
    l.mapM k = .error e' ↔ e' = e ∧ ∃ x ∈ l, bad x := by
  induction l with
  | nil => simp [pure, Except.pure]
  | cons x l ih =>
    simp only [List.mapM_cons, List.mem_cons, exists_eq_or_imp, and_or_left, ← ih, ← h]
    cases hx : k x with
    | error g =>
      have hg := ((h x g).mp hx).1
      have hlater : l.mapM k = .error e' → g = e' := fun hl => hg.trans (ih.mp hl).1.symm
      simpa [bind, Except.bind] using hlater
    | ok y => cases l.mapM k <;> simp [bind, Except.bind, pure, Except.pure]

/-- A script cannot be loaded exactly if the library does not have it, or if one of its lines or of
those it includes has its word cut within a character. -/
theorem load_eq_error_iff {library : Library} {name : Text} {globals : Store} {settings : Settings}
    {e : LoadError} :
    load library name globals settings = .error e ↔
      (e = .notFound name ∧ library name = none) ∨
        (e = .fault .cutCharacter ∧ ∃ source, library name = some source ∧
          ∃ line ∈ sourceLines library name source, isCut line.text = true) := by
  have hkind (line : SourceLine) (f : Fault) :
      (classify line.text).map (ListedLine.mk line) = .error f ↔
        f = .cutCharacter ∧ isCut line.text = true := by
    rw [← classify_eq_error_iff]
    cases classify line.text <;> simp [Except.map]
  have hlisting : load library name globals settings = .error e ↔
      Listing.load library name = .error e := by
    rw [load]
    cases Listing.load library name <;> simp [Except.map]
  rw [hlisting, Listing.load]
  cases library name with
  | none =>
    simp only [and_true, reduceCtorEq, false_and, exists_false, and_false, or_false]
    exact ⟨fun h => (Except.error.inj h).symm, fun h => h ▸ rfl⟩
  | some source =>
    have hlines (f : Fault) : ((sourceLines library name source).mapM fun line =>
          (classify line.text).map fun kind => (⟨line, kind⟩ : ListedLine)) = .error f ↔
        f = .cutCharacter ∧ ∃ line ∈ sourceLines library name source, isCut line.text = true :=
      mapM_eq_error_iff hkind
    have hcut := hlines .cutCharacter
    simp only [true_and] at hcut
    simp only [Option.some.injEq, exists_eq_left', reduceCtorEq, and_false, false_or, ← hcut]
    rw [sourceLines] at hlines ⊢
    split
    · rename_i f hf
      obtain rfl := ((hlines f).mp hf).1
      rw [hf]
      exact ⟨fun h => ⟨(Except.error.inj h).symm, rfl⟩, fun h => h.1 ▸ rfl⟩
    · rename_i listed hlisted
      simp [hlisted]

/-- The number of seconds that a statement waits for, if it says one. -/
def Statement.seconds? : Statement → Option Float
  | .matchWait seconds | .pause seconds => seconds
  | _ => none

/-- Whether a number of seconds is more than a duration can have. -/
def Statement.waitsTooLong (statement : Statement) : Bool :=
  statement.seconds?.any fun seconds => (Duration.ofSeconds? seconds).isNone

/-- Whether the next line of a running script waits for more seconds than a duration can have. -/
def waitsTooLong (s : Script) : Bool :=
  s.status == .running &&
    match s.approach with
    | (u, some raw) => (Statement.read (u.expandLine raw)).waitsTooLong
    | (_, none) => false

/-- The fault that a script has met, if it has met one. -/
def fault? (s : Script) : Option Fault :=
  match s.status with
  | .faulted f => some f
  | _ => none

/-- A script has met a fault only if its status says so. -/
theorem fault?_of_status {s : Script} {status : Status} (h : s.status = status)
    (hstatus : ∀ f, status ≠ .faulted f) : s.fault? = none := by
  rw [fault?, h]
  cases status <;> first | rfl | exact absurd rfl (hstatus _)

/-- A script that is loaded has not met a fault. -/
theorem fault?_load {library : Library} {name : Text} {globals : Store} {settings : Settings}
    {s : Script} (h : load library name globals settings = .ok s) : s.fault? = none := by
  rw [load] at h
  cases hlisting : Listing.load library name with
  | error e =>
    rw [hlisting] at h
    cases h
  | ok listing =>
    rw [hlisting] at h
    cases h
    rfl

/-- A jump meets no fault. -/
theorem fault?_jump {s : Script} (h : s.fault? = none) (label : Text) :
    (s.jump label).fault? = none := by
  unfold jump
  split
  · exact h
  · rfl

/-- The only statement that a running script does not survive is a wait that is too long. -/
theorem fault?_perform {s : Script} (h : s.status = .running) (statement : Statement) :
    (s.perform statement).fault? =
      if statement.waitsTooLong then some .durationRange else none := by
  have hwell : s.fault? = none := fault?_of_status h (by simp)
  have hwait (seconds : Float) (status : Duration → Status)
      (hstatus : ∀ d f, status d ≠ .faulted f) : (s.waitSeconds seconds status).fault? =
        if (Duration.ofSeconds? seconds).isNone then some .durationRange else none := by
    rw [waitSeconds]
    cases Duration.ofSeconds? seconds with
    | none => rfl
    | some d => exact fault?_of_status rfl (hstatus d)
  have hsteady (h : Steady s (s.perform statement)) : (s.perform statement).fault? = none := by
    rw [fault?, h.status]
    exact hwell
  cases statement with
  | nothing | echo _ | send _ | pass _ | setShared _ _ | set _ _ | unset _ | math _ _ _
  | evalText _ _ | evalNumber _ _ | shift =>
    exact hsteady (steady_perform s rfl rfl)
  | goto label => exact fault?_jump hwell label
  | gosub label args =>
    have hjump := fault?_jump hwell label
    simp only [perform, call]
    split
    · exact hjump
    · exact hjump
  | comeBack =>
    simp only [perform, comeBack]
    split
    · exact hwell
    · rfl
  | exit => rfl
  | awaitAt label mode pattern =>
    simp only [perform, await]
    split <;> exact hwell
  | waitFor mode pattern =>
    simp only [perform, waitFor]
    split
    · rfl
    · exact hwell
  | matchWait seconds | pause seconds =>
    cases seconds with
    | none => rfl
    | some seconds => exact hwait seconds _ (by simp)

/-- The only line that a running script does not survive is a wait that is too long. -/
theorem fault?_step {s : Script} (h : s.status = .running) :
    s.step.fault? = if s.waitsTooLong then some .durationRange else none := by
  rw [step_eq]
  simp only [waitsTooLong, h, BEq.rfl, Bool.true_and]
  cases hline : s.listing.kind? s.next with
  | none =>
    have hend : s.approach = (s.finish, none) := by rw [approach, hline]
    rw [hend]
    rfl
  | some line =>
    have hstatus := (movedOn_approach hline).status
    rcases hpair : s.approach with ⟨u, _ | raw⟩
    · rw [hpair] at hstatus
      exact fault?_of_status (hstatus.trans h) (by simp)
    · rw [hpair] at hstatus
      exact fault?_perform (hstatus.trans h) _

/-- A request to a script that has met no fault brings one only if it runs a line that waits too
long. -/
theorem fault?_serve {s : Script} (h : s.fault? = none) {r : Request}
    (hsingle : r.isSingle = true) : (s.serve r).fault? =
      if r = .runFor 1 ∧ s.waitsTooLong = true then some .durationRange else none := by
  cases r with
  | runFor budget =>
    obtain rfl : budget = 1 := by simpa [Request.isSingle] using hsingle
    rw [serve, runFor_one]
    split
    · rename_i hrunning
      simpa using fault?_step (by simpa using hrunning)
    · rename_i hstill
      have hwell : s.waitsTooLong = false := by simp [waitsTooLong, hstill]
      simpa [hwell] using h
  | start args => rfl
  | feed line =>
    simp only [serve, feed]
    split
    · split
      · simpa using h
      · split
        · exact fault?_jump rfl _
        · rfl
    · simpa using h
  | timeOut =>
    simp only [serve, timeOut]
    split
    · rfl
    · simpa using h
  | resume =>
    simp only [serve, resume]
    split
    · rfl
    · simpa using h
  | stop =>
    rw [if_neg (by simp)]
    simp only [serve, stop]
    split
    · exact h
    · rfl
  | shiftArgs =>
    rw [if_neg (by simp)]
    exact h

/-- What can be done with a script from the outside: besides the requests, its variables can be
changed and its events collected. -/
inductive Access
  /-- To ask something of it. -/
  | request (r : Request)
  /-- To replace its variables. -/
  | setLocals (locals : Store)
  /-- To replace the shared variables. -/
  | setGlobals (globals : Store)
  /-- To collect its events. -/
  | drainEvents
  deriving DecidableEq

/-- The accesses that an access is made of, where lines are run one at a time. -/
def Access.singly : Access → List Access
  | .request r => r.singly.map .request
  | a => [a]

/-- An access is a run of lines or is taken up at once. -/
theorem Access.singly_cases (a : Access) :
    (∃ budget, a = .request (.runFor budget)) ∨ a.singly = [a] := by
  cases a with
  | request r => cases r <;> simp [singly, Request.singly]
  | setLocals _ | setGlobals _ | drainEvents => exact .inr rfl

/-- Whether an access runs one line, or none at all. -/
def Access.isSingle : Access → Bool
  | .request r => r.isSingle
  | _ => true

/-- What accesses are split into runs at most one line each. -/
theorem Access.isSingle_of_mem {accesses : List Access} {a : Access}
    (h : a ∈ accesses.flatMap Access.singly) : a.isSingle = true := by
  obtain ⟨b, -, ha⟩ := List.mem_flatMap.mp h
  cases b with
  | request r =>
    obtain ⟨q, hq, rfl⟩ := List.mem_map.mp ha
    exact Request.isSingle_of_mem (List.mem_flatMap.mpr ⟨r, List.mem_singleton_self r, hq⟩)
  | setLocals _ | setGlobals _ | drainEvents =>
    obtain rfl := List.mem_singleton.mp ha
    rfl

/-- The script after an access. -/
def undergo (s : Script) : Access → Script
  | .request r => s.serve r
  | .setLocals locals => { s with locals := locals }
  | .setGlobals globals => { s with globals := globals }
  | .drainEvents => { s with events := [] }

/-- The script after several accesses. -/
def afterAccess (s : Script) (accesses : List Access) : Script :=
  accesses.foldl undergo s

/-- Nothing is done to the script. -/
@[simp] theorem afterAccess_nil (s : Script) : s.afterAccess [] = s := rfl

/-- The first access comes before the others. -/
@[simp] theorem afterAccess_cons (s : Script) (a : Access) (accesses : List Access) :
    s.afterAccess (a :: accesses) = (s.undergo a).afterAccess accesses := rfl

/-- Accesses may be split in two. -/
theorem afterAccess_append (s : Script) (front rest : List Access) :
    s.afterAccess (front ++ rest) = (s.afterAccess front).afterAccess rest :=
  List.foldl_append

/-- Requests are accesses. -/
theorem afterAccess_request (s : Script) (rs : List Request) :
    s.afterAccess (rs.map .request) = s.after rs := by
  rw [afterAccess, List.foldl_map]
  rfl

/-- An access line by line does what it does at once. -/
theorem afterAccess_singly (s : Script) (a : Access) : s.afterAccess a.singly = s.undergo a := by
  cases a with
  | request r =>
    have hsingly : s.after ([r].flatMap Request.singly) = s.after [r] := after_singly s [r]
    rw [List.flatMap_singleton] at hsingly
    rw [Access.singly, afterAccess_request, hsingly]
    rfl
  | setLocals _ | setGlobals _ | drainEvents => rfl

/-- An access to a script that has met no fault brings one only if it runs a line that waits too
long. -/
theorem fault?_undergo {s : Script} (h : s.fault? = none) {a : Access}
    (hsingle : a.isSingle = true) :
    (s.undergo a).fault? =
      if a = .request (.runFor 1) ∧ s.waitsTooLong = true then some .durationRange else none := by
  cases a with
  | request r => simpa [undergo] using fault?_serve h hsingle
  | setLocals _ | setGlobals _ | drainEvents =>
    rw [if_neg (by simp)]
    exact h

/-- Accesses that run one line each bring no fault exactly if none runs a line that waits too
long. -/
theorem forall_fault?_iff_of_single {s : Script} (h : s.fault? = none) {accesses : List Access}
    (hsingle : ∀ a ∈ accesses, a.isSingle = true) :
    (∀ front, front <+: accesses → (s.afterAccess front).fault? = none) ↔
      ∀ front, front ++ [.request (.runFor 1)] <+: accesses →
        (s.afterAccess front).waitsTooLong = false := by
  induction accesses generalizing s with
  | nil => simp [List.prefix_nil, h]
  | cons a accesses ih =>
    rw [List.forall_mem_cons] at hsingle
    have hfirst : (s.undergo a).fault? = none ↔
        (a = .request (.runFor 1) → s.waitsTooLong = false) := by
      rw [fault?_undergo h hsingle.1]
      split
      · rename_i hlong
        simp [hlong]
      · rename_i hshort
        simpa using hshort
    rw [forall_prefix_cons, forall_prefix_cons_of_append]
    simp only [afterAccess_nil, afterAccess_cons, ← hfirst]
    refine ⟨fun hall => ?_, fun hall => ⟨h, (ih hall.1 hsingle.2).mpr hall.2⟩⟩
    have hnow : (s.undergo a).fault? = none := hall.2 [] List.nil_prefix
    exact ⟨hnow, (ih hnow hsingle.2).mp hall.2⟩

/-- A fault stays until a request has been served. -/
theorem fault?_of_runFor {s : Script} {budget : Nat} (h : (s.runFor budget).fault? = none) :
    s.fault? = none := by
  by_cases hrunning : s.status = .running
  · exact fault?_of_status hrunning (by simp)
  · rwa [runFor_of_not_running hrunning] at h

/-- A run may be cut in two. -/
theorem runFor_add (s : Script) (m n : Nat) : s.runFor (m + n) = (s.runFor m).runFor n := by
  rw [← after_replicate_runFor, ← List.replicate_append_replicate, after_append,
    after_replicate_runFor, after_replicate_runFor]

/-- If an access has brought no fault, neither has any of its lines. -/
theorem fault?_of_prefix_singly {s : Script} (h : s.fault? = none) {a : Access}
    (haccess : (s.undergo a).fault? = none) {front : List Access} (hfront : front <+: a.singly) :
    (s.afterAccess front).fault? = none := by
  rcases a.singly_cases with ⟨budget, rfl⟩ | hsingly
  · have hlines : (Access.request (.runFor budget)).singly =
        List.replicate budget (.request (.runFor 1)) := List.map_replicate
    rw [hlines] at hfront
    obtain ⟨n, hn, rfl⟩ : ∃ n ≤ budget, front = List.replicate n (.request (.runFor 1)) :=
      ⟨_, List.prefix_replicate_iff.mp hfront⟩
    have hfirst : s.afterAccess (List.replicate n (.request (.runFor 1))) = s.runFor n := by
      rw [← List.map_replicate, afterAccess_request, after_replicate_runFor]
    have hall : s.undergo (.request (.runFor budget)) = (s.runFor n).runFor (budget - n) := by
      rw [← runFor_add, Nat.add_sub_cancel' hn]
      rfl
    rw [hall] at haccess
    rw [hfirst]
    exact fault?_of_runFor haccess
  · rw [hsingly] at hfront
    cases front with
    | nil => exact h
    | cons b front =>
      obtain ⟨rfl, hnil⟩ := List.cons_prefix_cons.mp hfront
      obtain rfl := List.prefix_nil.mp hnil
      exact haccess

/-- The beginnings of two lists are those of the first, and the first with those of the second. -/
theorem forall_prefix_append {α : Type} {l₁ l₂ : List α} {p : List α → Prop} :
    (∀ qs, qs <+: l₁ ++ l₂ → p qs) ↔
      (∀ qs, qs <+: l₁ → p qs) ∧ ∀ qs, qs <+: l₂ → p (l₁ ++ qs) := by
  refine ⟨fun h => ⟨fun qs hqs => h qs (hqs.trans (List.prefix_append l₁ l₂)),
    fun qs hqs => h _ ((List.prefix_append_right_inj l₁).mpr hqs)⟩, fun h qs hqs => ?_⟩
  rcases List.prefix_or_prefix_of_prefix hqs (List.prefix_append l₁ l₂) with hshort | ⟨rest, rfl⟩
  · exact h.1 qs hshort
  · exact h.2 rest ((List.prefix_append_right_inj l₁).mp hqs)

/-- Accesses bring no fault exactly if they bring none line by line. -/
theorem forall_fault?_singly {s : Script} {accesses : List Access} :
    (∀ front, front <+: accesses.flatMap (·.singly) → (s.afterAccess front).fault? = none) ↔
      ∀ front, front <+: accesses → (s.afterAccess front).fault? = none := by
  induction accesses generalizing s with
  | nil => rfl
  | cons a accesses ih =>
    rw [List.flatMap_cons, forall_prefix_append, forall_prefix_cons]
    simp only [afterAccess_append, afterAccess_singly, afterAccess_cons, afterAccess_nil, ih]
    refine and_congr_left fun hlater => ⟨fun hall => hall [] List.nil_prefix, fun hnow => ?_⟩
    exact fun front => fault?_of_prefix_singly hnow (hlater [] List.nil_prefix)

/-- Accesses bring no fault exactly if they run no line that waits too long. -/
theorem forall_fault?_iff {s : Script} (h : s.fault? = none) (accesses : List Access) :
    (∀ front, front <+: accesses → (s.afterAccess front).fault? = none) ↔
      ∀ front, front ++ [.request (.runFor 1)] <+: accesses.flatMap (·.singly) →
        (s.afterAccess front).waitsTooLong = false := by
  rw [← forall_fault?_singly]
  exact forall_fault?_iff_of_single h fun _ => Access.isSingle_of_mem

end Script

end Mudline
