import Mudline.Proofs.Script.Fault
import Mudline.Proofs.Stream.Batch
import Mudline.Settings.Directive

/-!
# What is not survived

Mistakes of the user and of the game are data: the report of a line, a text that is shown, the end
of a script. There are four exceptions, which are faults. A script is not loaded if a word is cut
within a character; a script does not survive a wait, nor a settings file a default pause, of more
seconds than a duration can have; and the reader of the stream does not survive a moment past the
end of the clock. This file says of each part when exactly a fault arises.
-/

namespace Mudline

namespace Stream

/-- The moment that a token names, up to which the character cannot act. -/
def moment? (t : Token) : Option Nat :=
  if Kind.ofToken t = .roundTime then (t.attr? "value").bind Text.readWord? else none

/-- A command meets a fault if its moment is beyond the last second of the clock. -/
theorem Command.fault?_eq_some_iff {c : Command} {f : Fault} :
    c.fault? = some f ↔
      f = .clockRange ∧ ∃ moment, c = .roundTime moment ∧ lastSecond < moment := by
  cases c with
  | roundTime moment => simp [fault?, and_comm, eq_comm]
  | _ => simp [fault?]

/-- Only a moment past the end of the clock is a fault. -/
theorem Command.firstFault?_eq_some_iff {commands : List Command} {f : Fault} :
    firstFault? commands = some f ↔
      f = .clockRange ∧ ∃ moment, .roundTime moment ∈ commands ∧ lastSecond < moment := by
  have hforward {g : Fault} (h : firstFault? commands = some g) :
      g = .clockRange ∧ ∃ moment, .roundTime moment ∈ commands ∧ lastSecond < moment := by
    obtain ⟨c, hc, hfault⟩ := List.exists_of_findSome?_eq_some h
    obtain ⟨hg, moment, rfl, hlate⟩ := fault?_eq_some_iff.mp hfault
    exact ⟨hg, moment, hc, hlate⟩
  refine ⟨hforward, ?_⟩
  rintro ⟨rfl, moment, hmem, hlate⟩
  have hsome : (firstFault? commands).isSome = true :=
    List.findSome?_isSome_iff.mpr ⟨.roundTime moment, hmem, by simp [fault?, hlate]⟩
  obtain ⟨g, hg⟩ := Option.isSome_iff_exists.mp hsome
  rw [hg, (hforward hg).1]

/-- The moment that a token names is announced, and no other. -/
theorem roundTime_mem_announce {setupDone : Bool} {globals : Store} {t : Token} {moment : Nat} :
    .roundTime moment ∈ announce setupDone globals t ↔ moment? t = some moment := by
  unfold announce moment?
  cases Kind.ofToken t with
  | roundTime => cases (t.attr? "value").bind Text.readWord? <;> simp [eq_comm]
  | streamWindow | component =>
    dsimp only
    split <;> simp
  | _ => simp

/-- A token tells the end of a round if it tells a moment. -/
theorem roundTime_mem_take {s : Stream} {t : Token} {moment : Nat} :
    .roundTime moment ∈ (s.take t).commands ↔ moment? t = some moment := by
  have hannounced : .roundTime moment ∈ (s.process t).2 ↔ moment? t = some moment :=
    roundTime_mem_announce
  have hcase := s.takeCase t
  generalize s.take t = taken at hcase
  cases hcase with
  | shown r hrun hbare hnow => simpa using hannounced
  | _ => exact hannounced

/-- The reader does not survive exactly a token that names a moment past the end of the clock. -/
theorem firstFault?_handleAll {s : Stream} {inputs : List Input} {f : Fault} :
    Command.firstFault? (s.handleAll inputs).2 = some f ↔
      f = .clockRange ∧ ∃ p ∈ s.allPassages inputs, ∃ moment,
        moment? p.token = some moment ∧ Command.lastSecond < moment := by
  have hannounced (moment : Nat) : .roundTime moment ∈ (s.handleAll inputs).2 ↔
      ∃ p ∈ s.allPassages inputs, moment? p.token = some moment := by
    simp only [handleAll_commands, List.mem_flatMap, Passage.taken, roundTime_mem_take]
  rw [Command.firstFault?_eq_some_iff]
  simp only [hannounced]
  refine and_congr_right fun _ => ⟨?_, ?_⟩
  · rintro ⟨moment, ⟨p, hp, hmoment⟩, hlate⟩
    exact ⟨p, hp, moment, hmoment, hlate⟩
  · rintro ⟨p, hp, moment, hmoment, hlate⟩
    exact ⟨moment, ⟨p, hp, hmoment⟩, hlate⟩

end Stream

namespace Configuration

/-- Whether a directive asks for a default pause of more seconds than a duration can have. -/
def Directive.asksTooLong : Directive → Bool
  | .pauseDefault seconds => (Duration.ofSeconds? seconds).isNone
  | _ => false

/-- Whether a line of a settings file asks for a default pause that is too long. -/
def asksTooLong (raw : Text) : Bool :=
  match readLine raw with
  | some (.ok d) => d.asksTooLong
  | _ => false

/-- The mistake of a line with a number, if it has one. -/
def mistake? (line : Text × Nat) : Option LineMistake :=
  match readLine line.1 with
  | some (.error m) => some ⟨line.2, m⟩
  | _ => none

/-- A directive meets a fault if it asks for too long a pause. -/
theorem apply_eq_error_iff {c : Configuration} {d : Directive} {f : Fault} :
    c.apply d = .error f ↔ f = .durationRange ∧ d.asksTooLong = true := by
  cases d with
  | pauseDefault seconds =>
    cases hduration : Duration.ofSeconds? seconds <;>
      simp [apply, Directive.asksTooLong, hduration, eq_comm]
  | _ => simp [apply, Directive.asksTooLong]

/-- Lines are followed to the last unless one asks for a default pause that is too long, and then
their mistakes have been collected. -/
theorem map_loadLines (c : Configuration) (number : Nat) (lines : List Text) :
    (c.loadLines number lines).map (·.2) =
      if lines.any asksTooLong then .error .durationRange
      else .ok ((lines.zipIdx number).filterMap mistake?) := by
  induction lines generalizing c number with
  | nil => rfl
  | cons raw rest ih =>
    have hrest := ih c (number + 1)
    rw [loadLines, List.zipIdx_cons, List.any_cons]
    rcases hread : readLine raw with _ | m | d
    · have hmistake : mistake? (raw, number) = none := by simp [mistake?, hread]
      have hshort : asksTooLong raw = false := by simp [asksTooLong, hread]
      simpa only [List.filterMap_cons_none hmistake, hshort, Bool.false_or] using hrest
    · have hmistake : mistake? (raw, number) = some ⟨number, m⟩ := by simp [mistake?, hread]
      have hshort : asksTooLong raw = false := by simp [asksTooLong, hread]
      have hcons : ((c.loadLines (number + 1) rest).map fun r =>
          (r.1, LineMistake.mk number m :: r.2)).map (·.2) =
            ((c.loadLines (number + 1) rest).map (·.2)).map (LineMistake.mk number m :: ·) := by
        cases c.loadLines (number + 1) rest <;> rfl
      simp only [List.filterMap_cons_some hmistake, hshort, Bool.false_or]
      refine hcons.trans ?_
      rw [hrest]
      split <;> rfl
    · have hmistake : mistake? (raw, number) = none := by simp [mistake?, hread]
      have hlong : asksTooLong raw = d.asksTooLong := by simp [asksTooLong, hread]
      simp only [List.filterMap_cons_none hmistake, hlong]
      cases happly : c.apply d with
      | error f =>
        obtain ⟨rfl, htrue⟩ := apply_eq_error_iff.mp happly
        simp only [htrue, Bool.true_or, if_true]
        rfl
      | ok c' =>
        have hfalse : d.asksTooLong = false := Bool.eq_false_iff.mpr fun htrue => by
          have herror : c.apply d = .error .durationRange := apply_eq_error_iff.mpr ⟨rfl, htrue⟩
          simp [happly] at herror
        simpa only [hfalse, Bool.false_or] using ih c' (number + 1)

/-- A settings file is not survived exactly if a line of it asks for a default pause that is too
long. Otherwise what is wrong with it is reported line by line. -/
theorem map_load (t : Text) :
    (load t).map (·.2) =
      if (Text.lines t).any asksTooLong then .error .durationRange
      else .ok (((Text.lines t).zipIdx 1).filterMap mistake?) :=
  map_loadLines {} 1 (Text.lines t)

end Configuration

open Script (Library load)

/-- What is not survived: a line of which a word is cut within a character, a wait or a default
pause that is too long, and a moment past the end of the clock. All else that is wrong is data. -/
theorem fault_iff (library : Library) (name : Text) (globals : Store) (settings : Script.Settings)
    (accesses : List Script.Access) (reader : Stream) (inputs : List Stream.Input) (t : Text) :
    (∀ e, load library name globals settings = .error e ↔
      (e = .notFound name ∧ library name = none) ∨
        (e = .fault .cutCharacter ∧ ∃ source, library name = some source ∧
          ∃ line ∈ Script.sourceLines library name source, Script.isCut line.text = true)) ∧
    (∀ s, load library name globals settings = .ok s →
      ((∀ front, front <+: accesses → (s.afterAccess front).fault? = none) ↔
        ∀ front, front ++ [.request (.runFor 1)] <+: accesses.flatMap (·.singly) →
          (s.afterAccess front).waitsTooLong = false)) ∧
    (∀ f, Stream.Command.firstFault? (reader.handleAll inputs).2 = some f ↔
      f = .clockRange ∧ ∃ p ∈ reader.allPassages inputs, ∃ moment,
        Stream.moment? p.token = some moment ∧ Stream.Command.lastSecond < moment) ∧
    (Configuration.load t).map (·.2) =
      if (Text.lines t).any Configuration.asksTooLong then .error .durationRange
      else .ok (((Text.lines t).zipIdx 1).filterMap Configuration.mistake?) :=
  ⟨fun _ => Script.load_eq_error_iff,
    fun _ h => Script.forall_fault?_iff (Script.fault?_load h) accesses,
    fun _ => Stream.firstFault?_handleAll, Configuration.map_load t⟩

/-- A library with a script that rests as long as it is told, one that rests too long, and one with
a word that is cut within a character. -/
def restLibrary : Library :=
  fun name => List.lookup name
    [("rest", ["pause %1", "echo done", "waitfor goblin"]), ("slumber", ["pause 1e300"]),
      ("wave", ["🙂 waves"])]

/-- The script that rests as long as it is told. -/
def restScript : Script where
  listing := {
    name := "rest"
    lines := ["pause %1", "echo done", "waitfor goblin"].zipIdx.map fun (text, i) =>
      ⟨⟨text, "rest", i + 1⟩, .command text⟩
    labels := [] }

/-- A short rest, and a line that is waited for. -/
def restAccesses : List Script.Access :=
  [.request (.start ["0.5"]), .request (.runFor 9), .drainEvents, .request .resume,
    .setGlobals {}, .request (.runFor 9), .request (.feed "A goblin arrives."),
    .request (.runFor 9)]

/-- A script that rests for the time it was told survives all of its requests and ends. -/
theorem fault_iff_rest :
    load restLibrary "rest" {} {} = .ok restScript ∧
      (∀ front, front ++ [.request (.runFor 1)] <+: restAccesses.flatMap (·.singly) →
        (restScript.afterAccess front).waitsTooLong = false) ∧
      (∀ front, front <+: restAccesses → (restScript.afterAccess front).fault? = none) ∧
      (restScript.afterAccess restAccesses).status = .finished := by
  have hload : load restLibrary "rest" {} {} = .ok restScript := by rfl
  have hwaits : ∀ n < (restAccesses.flatMap (·.singly)).length,
      (restScript.afterAccess ((restAccesses.flatMap (·.singly)).take n)).waitsTooLong = false := by
    decide +kernel
  have hshort : ∀ front, front ++ [.request (.runFor 1)] <+: restAccesses.flatMap (·.singly) →
      (restScript.afterAccess front).waitsTooLong = false := by
    intro front hfront
    obtain ⟨hlength, htake, -⟩ := Script.getElem_of_append_prefix hfront
    rw [htake]
    exact hwaits front.length hlength
  have hruns := (fault_iff restLibrary "rest" {} {} restAccesses {} [] []).2.1 restScript hload
  exact ⟨hload, hshort, hruns.mpr hshort, by decide +kernel⟩

/-- Not everything that is wrong is data: a word can be cut within its first character, and numbers
can be too large for a wait, for a moment and for a default pause. -/
theorem not_always_survived :
    load restLibrary "wave" {} {} = .error (.fault .cutCharacter) ∧
      (∃ s, load restLibrary "slumber" {} {} = .ok s ∧
        (s.after [.start [], .runFor 1]).fault? = some .durationRange) ∧
      Stream.Command.firstFault?
          (({} : Stream).read "<roundTime value='9999999999999999999'/>").2 =
        some .clockRange ∧
      (Configuration.load "set pause_default 1e300").map (·.2) = .error .durationRange :=
  ⟨rfl, ⟨_, rfl, by decide +kernel⟩, by decide +kernel, by decide +kernel⟩

end Mudline
