import Mathlib.Data.List.Infix
import Mudline.Proofs.Script.Invariant
import Mudline.Proofs.Script.Return

/-!
# Lines that are waited for

A script that waits is woken by the first pattern, in the order in which the patterns were noted,
that matches an incoming line. This file says what a match leaves of a line, which line of a listing
carries a label, and what becomes of the script that is woken. From then on it waits for nothing
that it has not noted since: a pattern comes to be waited for by the statement that notes it and by
nothing else, whatever is asked of the script.
-/

namespace Mudline

/-- A text occurs in another if it is a part of it. -/
theorem Text.occursIn_iff {needle t : Text} : Text.occursIn needle t = true ↔ needle <:+: t := by
  induction t with
  | nil => simp [Text.occursIn]
  | cons c t ih =>
    rw [Text.occursIn, Bool.or_eq_true, ih, List.infix_cons_iff, List.isPrefixOf_iff_prefix]

/-- The text between two positions. -/
def Text.between (t : Text) (start stop : Nat) : Text :=
  (t.drop start).take (stop - start)

/-- The text of a group is what stands between its ends, or nothing. -/
theorem Regex.spanText_eq (t : Text) (span : Option (Nat × Nat)) :
    Regex.spanText t.toArray span =
      (span.map fun (start, stop) => t.between start stop).getD [] := by
  rcases span with _ | ⟨start, stop⟩
  · rfl
  · simp [Regex.spanText, Text.between]

namespace Pattern

/-- Whether a pattern matches a line: as a text it occurs there, and as an expression it has a match
there. -/
def Matches : Pattern → Text → Prop
  | regexp _ regex, line => regex.occursIn line = true
  | substring source, line => source <:+: line

/-- What a match of a pattern leaves of a line: the text of the whole match, and behind it one text
for each group, which is empty where the group took no part. -/
inductive Leaves : Pattern → Text → List Text → Prop
  /-- A text leaves itself. -/
  | substring {source line : Text} (h : source <:+: line) : Leaves (.substring source) line [source]
  /-- An expression leaves what the first match covers. -/
  | regexp {source line : Text} {regex : Regex} {m : Regex.Match}
    (h : regex.findFrom? line.toArray 0 = some m) :
    Leaves (.regexp source regex) line
      (line.between m.start m.stop :: m.groups.map fun span =>
        (span.map fun (start, stop) => line.between start stop).getD [])

/-- What is found in a line is what a match leaves. -/
theorem leaves_iff {p : Pattern} {line : Text} {groups : List Text} :
    p.Leaves line groups ↔ p.find? line = some groups := by
  cases p with
  | substring source =>
    rw [find?]
    constructor
    · rintro ⟨hoccurs⟩
      rw [if_pos (Text.occursIn_iff.mpr hoccurs)]
    · intro hfind
      split at hfind
      · rename_i hoccurs
        obtain rfl := Option.some.inj hfind
        exact .substring (Text.occursIn_iff.mp hoccurs)
      · cases hfind
  | regexp source regex =>
    have htexts (m : Regex.Match) : m.texts line.toArray =
        line.between m.start m.stop :: m.groups.map fun span =>
          (span.map fun (start, stop) => line.between start stop).getD [] := by
      simp [Regex.Match.texts, Regex.spanText_eq]
    rw [find?, Regex.captures?, Option.map_eq_some_iff]
    constructor
    · rintro ⟨⟩
      rename_i m hm
      exact ⟨m, hm, htexts m⟩
    · rintro ⟨m, hm, rfl⟩
      rw [htexts]
      exact .regexp hm

/-- A pattern leaves something of a line exactly if it matches. -/
theorem find?_isSome_iff (p : Pattern) (line : Text) :
    (p.find? line).isSome = true ↔ p.Matches line := by
  cases p with
  | substring source =>
    rw [find?, Matches, ← Text.occursIn_iff]
    split <;> simp_all
  | regexp source regex => rfl

end Pattern

namespace Script

/-- A line hits nothing if it matches none of the patterns. -/
theorem hit?_eq_none_iff {awaited : List Awaited} {line : Text} :
    hit? awaited line = none ↔ ∀ a ∈ awaited, ¬a.pattern.Matches line := by
  simp only [hit?, List.findSome?_eq_none_iff, Option.map_eq_none_iff, ← Pattern.find?_isSome_iff,
    Option.not_isSome_iff_eq_none]

/-- The first pattern that matches is hit. -/
theorem exists_hit? {before later : List Awaited} {a : Awaited} {line : Text}
    (hbefore : ∀ b ∈ before, ¬b.pattern.Matches line) (ha : a.pattern.Matches line) :
    ∃ groups, hit? (before ++ a :: later) line = some (a, groups) ∧
      a.pattern.Leaves line groups := by
  obtain ⟨groups, hgroups⟩ := Option.isSome_iff_exists.mp ((a.pattern.find?_isSome_iff line).mpr ha)
  refine ⟨groups, ?_, Pattern.leaves_iff.mpr hgroups⟩
  have hnone : hit? before line = none := hit?_eq_none_iff.mpr hbefore
  rw [hit?] at hnone ⊢
  rw [List.findSome?_append, hnone, Option.none_or, List.findSome?_cons, hgroups]
  rfl

namespace Listing

/-- The line with the given index sets a label, whatever the case of its letters. -/
def Carries (l : Listing) (label : Text) (i : Nat) : Prop :=
  ∃ name, l.kind? i = some (.label name) ∧ Unicode.lower name = Unicode.lower label

/-- The line is the last one that sets a label. -/
def CarriesLast (l : Listing) (label : Text) (i : Nat) : Prop :=
  l.Carries label i ∧ ∀ j, l.Carries label j → j ≤ i

end Listing

/-- The labels of a listing are those of its lines, in lower case. -/
theorem mem_labelsFrom_iff {lines : List ListedLine} {key : Text} {i : Nat} :
    (key, i) ∈ labelsFrom 0 lines ↔
      ∃ line name, lines[i]? = some line ∧ line.kind = .label name ∧ Unicode.lower name = key := by
  simp only [labelsFrom, List.mem_reverse, List.mem_filterMap, Prod.exists]
  constructor
  · rintro ⟨line, j, hmem, hlabel⟩
    have hline := List.mk_mem_zipIdx_iff_getElem?.mp hmem
    split at hlabel
    · rename_i name hkind
      obtain ⟨rfl, rfl⟩ := Prod.mk.inj (Option.some.inj hlabel)
      exact ⟨line, name, hline, hkind, rfl⟩
    · cases hlabel
  · rintro ⟨line, name, hline, hkind, rfl⟩
    exact ⟨line, i, List.mk_mem_zipIdx_iff_getElem?.mpr hline, by rw [hkind]⟩

/-- Labels are noted with the later lines first. -/
theorem pairwise_labelsFrom (start : Nat) (lines : List ListedLine) :
    (labelsFrom start lines).Pairwise fun p q => q.2 < p.2 := by
  rw [labelsFrom, List.pairwise_reverse]
  have hindices : (lines.zipIdx start).Pairwise fun p q => p.2 < q.2 := by
    rw [← List.pairwise_map (f := Prod.snd) (R := (· < ·)), List.zipIdx_map_snd]
    exact List.pairwise_lt_range'
  refine hindices.filterMap _ ?_
  rintro ⟨line, i⟩ ⟨line', j⟩ hij p hp q hq
  dsimp only at hp hq
  split at hp
  · split at hq
    · obtain rfl := Option.some.inj hp
      obtain rfl := Option.some.inj hq
      exact hij
    · cases hq
  · cases hp

/-- Where the indices fall, the first entry of a key has the greatest index. -/
theorem lookup_eq_some_iff {entries : List (Text × Nat)} (h : entries.Pairwise fun p q => q.2 < p.2)
    {key : Text} {i : Nat} :
    entries.lookup key = some i ↔ (key, i) ∈ entries ∧ ∀ j, (key, j) ∈ entries → j ≤ i := by
  induction entries with
  | nil => simp
  | cons entry rest ih =>
    obtain ⟨first, n⟩ := entry
    obtain ⟨hfirst, hrest⟩ := List.pairwise_cons.mp h
    by_cases hkey : key = first
    · subst hkey
      have hless (j : Nat) (hj : (key, j) ∈ rest) : j < n := hfirst _ hj
      rw [List.lookup_cons_self, Option.some.injEq]
      constructor
      · rintro rfl
        refine ⟨List.mem_cons_self, fun j hj => ?_⟩
        rcases List.mem_cons.mp hj with heq | hj
        · exact (Prod.mk.inj heq).2.le
        · exact (hless j hj).le
      · rintro ⟨hmem, hlast⟩
        have hn : n ≤ i := hlast n List.mem_cons_self
        rcases List.mem_cons.mp hmem with heq | hmem
        · exact (Prod.mk.inj heq).2.symm
        · have := hless i hmem
          omega
    · have hother (j : Nat) : (key, j) ∈ (first, n) :: rest ↔ (key, j) ∈ rest := by
        simp [hkey]
      have hskip : ((first, n) :: rest).lookup key = rest.lookup key := by
        rw [List.lookup_cons, beq_false_of_ne hkey]
      simp only [hskip, ih hrest, hother]

namespace Listing

variable {library : Library} {name : Text} {l : Listing}

/-- The table of labels gives the line that carries a label last. -/
theorem carries_iff (hload : Listing.load library name = .ok l) {label : Text} {i : Nat} :
    (Unicode.lower label, i) ∈ l.labels ↔ l.Carries label i := by
  rw [labels_of_load hload, mem_labelsFrom_iff, Carries]
  simp only [kind?, Option.map_eq_some_iff]
  constructor
  · rintro ⟨line, name, hline, hkind, hlower⟩
    exact ⟨name, ⟨line, hline, hkind⟩, hlower⟩
  · rintro ⟨name, ⟨line, hline, hkind⟩, hlower⟩
    exact ⟨line, name, hline, hkind, hlower⟩

/-- A label is looked up as the last line that sets it. -/
theorem label?_eq_some_iff (hload : Listing.load library name = .ok l) {label : Text} {i : Nat} :
    l.label? label = some i ↔ l.CarriesLast label i := by
  have hpairwise : l.labels.Pairwise fun p q => q.2 < p.2 := by
    rw [labels_of_load hload]
    exact pairwise_labelsFrom 0 l.lines
  rw [label?, lookup_eq_some_iff hpairwise, CarriesLast]
  simp only [carries_iff hload]

/-- A label that is not found is set by no line. -/
theorem not_carries_of_label?_eq_none (hload : Listing.load library name = .ok l) {label : Text}
    (h : l.label? label = none) (i : Nat) : ¬l.Carries label i := by
  rw [label?, List.lookup_eq_none_iff] at h
  intro hcarries
  have hkey := h _ ((carries_iff hload).mpr hcarries)
  simp at hkey

end Listing

/-- The pattern that a statement notes, with the label that belongs to it. -/
def Statement.notes? : Statement → Option Awaited
  | .awaitAt label mode source => (Pattern.compile mode source).toOption.map (⟨·, some label⟩)
  | .waitFor mode source => (Pattern.compile mode source).toOption.map (⟨·, none⟩)
  | _ => none

/-- A line of the run that serves the requests carries out a statement that notes the pattern. -/
def NotedDuring (s : Script) (rs : List Request) (a : Awaited) : Prop :=
  ∃ front rest u statement, rs.flatMap Request.singly = front ++ .runFor 1 :: rest ∧
    (s.after front).Issues u statement ∧ statement.notes? = some a

/-- A jump adds no patterns to those that are waited for. -/
theorem mem_awaited_jump {s : Script} {label : Text} {a : Awaited}
    (h : a ∈ (s.jump label).awaited) : a ∈ s.awaited := by
  rw [jump] at h
  split at h
  · exact h
  · cases h

/-- What is waited for after a statement was waited for before or is what the statement notes. -/
theorem mem_awaited_perform {s : Script} {statement : Statement} {a : Awaited}
    (h : a ∈ (s.perform statement).awaited) : a ∈ s.awaited ∨ statement.notes? = some a := by
  cases hcontrol : statement.isControl with
  | false =>
    cases hawait : statement.isAwaitAt with
    | false =>
      left
      rwa [(steady_perform s hcontrol hawait).awaited] at h
    | true =>
      cases statement with
      | awaitAt label mode source =>
        simp only [perform, await] at h
        split at h
        · rename_i p hcompiled
          rcases List.mem_append.mp h with h | h
          · exact .inl h
          · right
            obtain rfl := List.mem_singleton.mp h
            rw [Statement.notes?, hcompiled]
            rfl
        · exact .inl h
      | _ => simp [Statement.isAwaitAt] at hawait
  | true =>
    cases statement with
    | goto label => exact .inl (mem_awaited_jump h)
    | gosub label args =>
      simp only [perform, call] at h
      split at h <;> exact .inl (mem_awaited_jump h)
    | comeBack =>
      simp only [perform, comeBack] at h
      split at h
      · exact .inl h
      · cases h
    | exit => cases h
    | matchWait seconds | pause seconds =>
      cases seconds with
      | none => exact .inl h
      | some seconds =>
        simp only [perform, waitSeconds] at h
        split at h <;> exact .inl h
    | waitFor mode source =>
      simp only [perform, waitFor] at h
      split at h
      · rename_i p hcompiled
        right
        obtain rfl := List.mem_singleton.mp h
        rw [Statement.notes?, hcompiled]
        rfl
      · cases h
    | _ => simp [Statement.isControl] at hcontrol

/-- What is waited for after one line was waited for before or is noted by the line. -/
theorem mem_awaited_step {s : Script} (hrunning : s.status = .running) {a : Awaited}
    (h : a ∈ s.step.awaited) :
    a ∈ s.awaited ∨ ∃ u statement, s.Issues u statement ∧ statement.notes? = some a := by
  rcases hpair : s.approach with ⟨u, raw⟩
  have hmoved : a ∈ u.awaited → a ∈ s.awaited := by
    intro ha
    cases hline : s.listing.kind? s.next with
    | none =>
      simp only [approach, hline, finish] at hpair
      obtain ⟨rfl, -⟩ := Prod.mk.inj hpair
      cases ha
    | some line =>
      have hsame := (movedOn_approach hline).awaited
      rw [hpair] at hsame
      rwa [hsame] at ha
  rw [step_eq, hpair] at h
  cases raw with
  | none => exact .inl (hmoved h)
  | some raw =>
    rcases mem_awaited_perform h with hbefore | hnoted
    · exact .inl (hmoved hbefore)
    · exact .inr ⟨u, _, ⟨hrunning, raw, hpair, rfl⟩, hnoted⟩

/-- A line adds no patterns to those that are waited for. -/
theorem mem_awaited_feed {s : Script} {line : Text} {a : Awaited}
    (h : a ∈ (s.feed line).1.awaited) : a ∈ s.awaited := by
  rw [feed] at h
  split at h
  · split at h
    · exact h
    · split at h
      · cases mem_awaited_jump h
      · cases h
  · exact h

/-- Of what is asked of a script, only the lines that it runs make it wait for something new. -/
theorem mem_awaited_serve {s : Script} {r : Request} (hsingle : r.isSingle = true) {a : Awaited}
    (h : a ∈ (s.serve r).awaited) :
    a ∈ s.awaited ∨ r = .runFor 1 ∧ ∃ u statement, s.Issues u statement ∧
      statement.notes? = some a := by
  cases r with
  | start args => cases h
  | runFor budget =>
    obtain rfl : budget = 1 := by simpa [Request.isSingle] using hsingle
    rw [serve, runFor_one] at h
    split at h
    · rename_i hrunning
      rcases mem_awaited_step (by simpa using hrunning) h with hbefore | hnoted
      · exact .inl hbefore
      · exact .inr ⟨rfl, hnoted⟩
    · exact .inl h
  | feed line => exact .inl (mem_awaited_feed h)
  | timeOut =>
    left
    simp only [serve, timeOut] at h
    split at h
    · cases h
    · exact h
  | resume =>
    left
    simp only [serve, resume] at h
    split at h <;> exact h
  | stop =>
    simp only [serve, stop] at h
    split at h <;> cases h
  | shiftArgs => exact .inl h

/-- What is waited for after a run was waited for before it or is noted during it. -/
theorem mem_awaited_after {s : Script} {rs : List Request} {a : Awaited}
    (h : a ∈ (s.after rs).awaited) : a ∈ s.awaited ∨ NotedDuring s rs a := by
  rw [← after_singly] at h
  have hsingle : ∀ r ∈ rs.flatMap Request.singly, r.isSingle = true :=
    fun r => Request.isSingle_of_mem
  unfold NotedDuring
  generalize rs.flatMap Request.singly = qs at h hsingle ⊢
  induction qs generalizing s with
  | nil => exact .inl h
  | cons q qs ih =>
    rw [List.forall_mem_cons] at hsingle
    rcases ih h hsingle.2 with hbefore | ⟨front, rest, u, statement, rfl, hissues, hnoted⟩
    · rcases mem_awaited_serve hsingle.1 hbefore with hbefore | ⟨rfl, u, statement, hissues, hnoted⟩
      · exact .inl hbefore
      · exact .inr ⟨[], qs, u, statement, rfl, hissues, hnoted⟩
    · exact .inr ⟨q :: front, rest, u, statement, rfl, hissues, hnoted⟩

/-- The script, woken by a match that left these groups. It waits for nothing any more. -/
def woken (s : Script) (groups : List Text) : Script :=
  { s with awaited := [], captures := groups, status := .running }

/-- What becomes of a script that a pattern wakes, with the groups that its match left. -/
inductive Wakes (s : Script) (a : Awaited) (groups : List Text) : Script → Prop
  /-- Without a label it runs on at the next line. -/
  | onward (hlabel : a.label = none) : Wakes s a groups (s.woken groups)
  /-- With a label it runs on at the last line that sets the label, out of all blocks. -/
  | sent {label : Text} {i : Nat} (hlabel : a.label = some label)
    (hi : s.listing.CarriesLast label i) :
    Wakes s a groups { s.woken groups with next := i, levels := [.absent] }
  /-- With a label that no line sets it ends, and says so. -/
  | ended {label : Text} (hlabel : a.label = some label) (hnone : ∀ i, ¬s.listing.Carries label i) :
    Wakes s a groups { s.woken groups with
      status := .finished
      events := s.events ++ [.echo ('[' :: s.location ++ "]: label '".toList ++ label ++
        "' not found\n".toList)] }

/-- A jump of the script that is woken goes to the last line that sets the label, or says that there
is none. -/
theorem wakes_jump {s : Script} {library : Library} {name : Text}
    (hload : Listing.load library name = .ok s.listing) {a : Awaited} {groups : List Text}
    {label : Text} (hlabel : a.label = some label) :
    Wakes s a groups ((s.woken groups).jump label) := by
  have hlisting : (s.woken groups).listing = s.listing := rfl
  cases hi : s.listing.label? label with
  | none =>
    have hended : (s.woken groups).jump label = { s.woken groups with
        status := .finished
        events := s.events ++ [.echo ('[' :: s.location ++ "]: label '".toList ++ label ++
          "' not found\n".toList)] } := by
      rw [jump, hlisting, hi, complain, emit, finish]
      have hmessage : (Complaint.unknownLabel label).message (s.woken groups).settings.report =
          "label '".toList ++ label ++ "' not found".toList := rfl
      have hopening : "]: label '".toList = "]: ".toList ++ "label '".toList := rfl
      have hclosing : "' not found\n".toList = "' not found".toList ++ ['\n'] := rfl
      rw [hmessage, hopening, hclosing]
      simp only [List.append_assoc, List.cons_append]
      rfl
    rw [hended]
    exact .ended hlabel (Listing.not_carries_of_label?_eq_none hload hi)
  | some i =>
    have hsent : (s.woken groups).jump label =
        { s.woken groups with next := i, levels := [.absent] } := by
      rw [jump, hlisting, hi]
      rfl
    rw [hsent]
    exact .sent hlabel ((Listing.label?_eq_some_iff hload).mp hi)

/-- A pattern that is hit wakes the script. -/
theorem wakes_of_hit? {s : Script} {library : Library} {name : Text}
    (hload : Listing.load library name = .ok s.listing) (hlistens : s.status.listens = true)
    {line : Text} {a : Awaited} {groups : List Text}
    (hhit : hit? s.awaited line = some (a, groups)) :
    ∃ t, s.feed line = (t, true) ∧ Wakes s a groups t := by
  rw [feed, if_pos hlistens, hhit]
  cases hlabel : a.label with
  | none =>
    refine ⟨s.woken groups, ?_, .onward hlabel⟩
    simp only [hlabel]
    rfl
  | some label =>
    refine ⟨(s.woken groups).jump label, ?_, wakes_jump hload hlabel⟩
    simp only [hlabel]
    rfl

/-- A script that is woken waits for nothing. -/
theorem Wakes.awaited {s t : Script} {a : Awaited} {groups : List Text} (h : Wakes s a groups t) :
    t.awaited = [] := by
  cases h <;> rfl

/-- A script that does not wait for lines is not changed by a line, and a script that does is not
changed by a line that nothing it waits for matches. Otherwise the first pattern that matches wakes
it, and from then on it waits for nothing that it does not note anew. -/
theorem feed_wakes_at_first_match {library : Library} {name : Text} {s : Script}
    (hload : Listing.load library name = .ok s.listing) (line : Text) :
    (s.status.listens = false → s.feed line = (s, false)) ∧
    ((∀ a ∈ s.awaited, ¬a.pattern.Matches line) → s.feed line = (s, false)) ∧
    ∀ before a later, s.status.listens = true → s.awaited = before ++ a :: later →
      (∀ b ∈ before, ¬b.pattern.Matches line) → a.pattern.Matches line →
      ∃ groups t, a.pattern.Leaves line groups ∧ s.feed line = (t, true) ∧ Wakes s a groups t ∧
        t.awaited = [] ∧ ∀ rs, ∀ b ∈ (t.after rs).awaited, NotedDuring t rs b := by
  refine ⟨?_, ?_, ?_⟩
  · intro hdeaf
    rw [feed, hdeaf]
    rfl
  · intro hnone
    rw [feed, hit?_eq_none_iff.mpr hnone]
    split <;> rfl
  · intro before a later hlistens hawaited hbefore ha
    obtain ⟨groups, hhit, hleaves⟩ := @exists_hit? before later a line hbefore ha
    rw [← hawaited] at hhit
    obtain ⟨t, hfeed, hwakes⟩ := wakes_of_hit? hload hlistens hhit
    have hnothing : t.awaited = [] := hwakes.awaited
    refine ⟨groups, t, hleaves, hfeed, hwakes, hnothing, ?_⟩
    intro rs b hb
    rcases mem_awaited_after hb with hleft | hnoted
    · rw [hnothing] at hleft
      cases hleft
    · exact hnoted

/-- A script that waits for three patterns, of which the second goes on at a label that is set
twice. -/
def ambushLines : List Text :=
  ["match Gone left", "matchre Ready (troll)|(goblin)", "match Late goblin", "matchwait", "READY:",
    "echo early", "Ready:", "echo late"]

/-- A library of that script. -/
def ambushLibrary : Library :=
  fun name => if name = "ambush" then some ambushLines else none

/-- The script when it waits, with what the expression stands for. -/
def ambushScript (listing : Listing) (regex : Regex) : Script where
  listing := listing
  next := 4
  awaited :=
    [⟨.substring "left", some "Gone"⟩, ⟨.regexp "(troll)|(goblin)" regex, some "Ready"⟩,
      ⟨.substring "goblin", some "Late"⟩]
  status := .waitingForMatch none

/-- An ambush wakes at a goblin, remembers it, and waits for it no longer. -/
theorem feed_wakes_at_first_match_ambush :
    ∃ listing regex t, Listing.load ambushLibrary "ambush" = .ok listing ∧
      Regex.compile "(troll)|(goblin)" = .ok regex ∧
      (ambushScript listing regex).feed "A goblin arrives." = (t, true) ∧ t.next = 6 ∧
      t.captures = (["goblin", "", "goblin"] : List Text) ∧
      t.feed "A goblin arrives." = (t, false) := by
  have hcaptures : (Regex.compile "(troll)|(goblin)").toOption.bind
      (·.captures? "A goblin arrives.") = some (["goblin", "", "goblin"] : List Text) := by
    decide +kernel
  cases hregex : Regex.compile "(troll)|(goblin)" with
  | error e =>
    rw [hregex] at hcaptures
    cases hcaptures
  | ok regex =>
    have hfind : (Pattern.regexp "(troll)|(goblin)" regex).find? "A goblin arrives." =
        some (["goblin", "", "goblin"] : List Text) := by
      rw [hregex] at hcaptures
      exact hcaptures
    obtain ⟨listing, hload, hlast⟩ : ∃ listing, Listing.load ambushLibrary "ambush" = .ok listing ∧
        listing.label? "Ready" = some 6 := ⟨_, rfl, by decide +kernel⟩
    have hbefore : ∀ b ∈ [(⟨.substring "left", some "Gone"⟩ : Awaited)],
        ¬b.pattern.Matches "A goblin arrives." := by
      intro b hb
      obtain rfl := List.mem_singleton.mp hb
      rw [← Pattern.find?_isSome_iff]
      decide +kernel
    have hmatches : (Pattern.regexp "(troll)|(goblin)" regex).Matches "A goblin arrives." := by
      rw [← Pattern.find?_isSome_iff, hfind]
      rfl
    obtain ⟨-, -, hwakes⟩ := feed_wakes_at_first_match (s := ambushScript listing regex) hload
      "A goblin arrives."
    obtain ⟨groups, t, hleaves, hfeed, hwoken, hnothing, -⟩ :=
      hwakes _ _ _ rfl rfl hbefore hmatches
    rw [Pattern.leaves_iff.mp hleaves] at hfind
    obtain rfl := Option.some.inj hfind
    have hready := (Listing.label?_eq_some_iff hload).mp hlast
    have hlisting : t.listing = listing := by
      cases hwoken <;> rfl
    obtain ⟨-, hdeaf, -⟩ := feed_wakes_at_first_match (s := t) (by rw [hlisting]; exact hload)
      "A goblin arrives."
    refine ⟨listing, regex, t, hload, rfl, hfeed, ?_, ?_, ?_⟩
    · cases hwoken with
      | onward hlabel => cases hlabel
      | sent hlabel hi =>
        obtain rfl := Option.some.inj hlabel
        have hi := (Listing.label?_eq_some_iff hload).mpr hi
        exact Option.some.inj (hi.symm.trans hlast)
      | ended hlabel hnone =>
        obtain rfl := Option.some.inj hlabel
        exact absurd hready.1 (hnone 6)
    · cases hwoken <;> rfl
    · apply hdeaf
      rw [hnothing]
      exact List.forall_mem_nil _

end Script

end Mudline
