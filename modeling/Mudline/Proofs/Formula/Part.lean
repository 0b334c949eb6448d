import Mudline.Formula.Function
import Mudline.Proofs.Text.Digits
import Mudline.Proofs.Text.Pieces

/-!
# Parts of texts

A part of a text is asked for by two integers, its start and its length, and both must lie within
the text. The integers may be written with any number of digits, but each is kept in one word of the
machine: one that does not fit is taken for zero, and zero as a start or as a length lies within the
text more often than what is asked for.
-/

namespace Mudline.Function

/-- Without quotes at the ends there are none to drop. -/
theorem trimQuotes_eq_self {t : Text} (hfirst : t.head? ≠ some '"')
    (hlast : t.getLast? ≠ some '"') :
    trimQuotes t = t := by
  have hdrop {u : Text} (hu : u.head? ≠ some '"') : u.dropWhile (· == '"') = u := by
    cases u with
    | nil => rfl
    | cons c u =>
      have hc : c ≠ '"' := by simpa using hu
      exact List.dropWhile_cons_of_neg (by simpa using hc)
  have hreverse : t.reverse.head? ≠ some '"' := by rwa [List.head?_reverse]
  rw [trimQuotes, Text.trimWhile, Text.dropEndWhile, hdrop hfirst, hdrop hreverse,
    List.reverse_reverse]

/-- What the machine keeps of an integer. -/
def keptIndex (z : Int) : Int :=
  if Text.FitsWord z then z else 0

/-- There are no quotes around an integer. -/
theorem trimQuotes_integer {t : Text} {z : Int} (h : Text.IsInteger t z) : trimQuotes t = t :=
  trimQuotes_eq_self (fun hc => (h.plain _ (List.mem_of_head? hc)).2 rfl)
    fun hc => (h.plain _ (List.mem_of_getLast? hc)).2 rfl

/-- A function that a name stands for is run on the arguments without the quotes at their ends. -/
theorem call_of_run? {known : Text → Bool} {name : Text} {f : Builtin} {args : List Text}
    {r : Except Error Output} (hfind : find? name = some f)
    (hrun : run? known f (args.map trimQuotes) = some r) : call known name args = r := by
  rw [call, hfind, Option.bind_some, hrun]

/-- An integer is read as an index as far as it can be kept. -/
theorem readIndex_integer {t : Text} {z : Int} (h : Text.IsInteger t z) :
    readIndex t = keptIndex z := by
  rw [readIndex, Text.trim_eq_self fun c hc => (h.plain c hc).1, h.readInt?, keptIndex]
  split <;> rfl

/-- That a result is what a part of a text is said to be: the bounds are checked, and within them
the part has the given start and length. -/
structure IsPart (t : Text) (start length : Int) (result : Except Error Output) : Prop where
  /-- There is a part exactly if the bounds lie within the text. -/
  ok_iff : (∃ out, result = .ok out) ↔
    0 ≤ start ∧ start ≤ t.length ∧ 0 ≤ length ∧ length ≤ t.length - start
  /-- The part is what stands in the text behind so many characters, and it is that long. -/
  cut : ∀ out, result = .ok out → out.groups = [] ∧ ∃ front back, t = front ++ out.text ++ back ∧
    (front.length : Int) = start ∧ (out.text.length : Int) = length
  /-- Otherwise it is told whether the start lies outside the text. -/
  start_error : ¬(0 ≤ start ∧ start ≤ t.length) → result = .error .startOutOfBounds
  /-- Where it does not, the end does. -/
  end_error : 0 ≤ start ∧ start ≤ t.length → ¬(0 ≤ length ∧ length ≤ t.length - start) →
    result = .error .endOutOfBounds

/-- A part that starts out of bounds is reported as such. -/
theorem part_of_start {t : Text} {start : Int} (h : ¬(0 ≤ start ∧ start ≤ t.length))
    (length : Int) :
    part t start length = .error .startOutOfBounds := by
  have houtside : start < 0 ∨ (t.length : Int) < start := by omega
  simp [part, houtside]

/-- A part that ends out of bounds is reported as such. -/
theorem part_of_end {t : Text} {start length : Int} (hstart : 0 ≤ start ∧ start ≤ t.length)
    (h : ¬(0 ≤ length ∧ length ≤ t.length - start)) :
    part t start length = .error .endOutOfBounds := by
  have hinside : ¬(start < 0 ∨ (t.length : Int) < start) := by omega
  have houtside : length < 0 ∨ (t.length : Int) - start < length := by omega
  simp [part, hinside, houtside]

/-- Within the bounds, the part is the characters from its start on. -/
theorem part_of_bounds {t : Text} {start length : Int} (hstart : 0 ≤ start ∧ start ≤ t.length)
    (hlength : 0 ≤ length ∧ length ≤ t.length - start) :
    part t start length = .ok ((t.drop start.toNat).take length.toNat) := by
  have hinside : ¬(start < 0 ∨ (t.length : Int) < start) := by omega
  have hinside' : ¬(length < 0 ∨ (t.length : Int) - start < length) := by omega
  simp [part, hinside, hinside']

/-- The bounds are checked of the numbers that are kept. -/
theorem isPart_part (t : Text) (start length : Int) :
    IsPart t start length ((part t start length).map ofText) := by
  by_cases hstart : 0 ≤ start ∧ start ≤ t.length
  · by_cases hlength : 0 ≤ length ∧ length ≤ t.length - start
    · rw [part_of_bounds hstart hlength]
      refine ⟨?_, ?_, fun h => absurd hstart h, fun _ h => absurd hlength h⟩
      · exact ⟨fun _ => ⟨hstart.1, hstart.2, hlength⟩, fun _ => ⟨_, rfl⟩⟩
      · intro out hout
        obtain rfl := Except.ok.inj hout
        refine ⟨rfl, t.take start.toNat, (t.drop start.toNat).drop length.toNat, ?_, ?_, ?_⟩
        · rw [ofText, List.append_assoc, List.take_append_drop, List.take_append_drop]
        · rw [List.length_take]
          omega
        · rw [ofText, List.length_take, List.length_drop]
          omega
    · rw [part_of_end hstart hlength]
      refine ⟨?_, by rintro _ ⟨⟩, fun h => absurd hstart h, fun _ _ => rfl⟩
      exact ⟨by rintro ⟨_, ⟨⟩⟩, fun h => absurd h.2.2 hlength⟩
  · rw [part_of_start hstart]
    refine ⟨?_, by rintro _ ⟨⟩, fun _ => rfl, fun h => absurd h hstart⟩
    exact ⟨by rintro ⟨_, ⟨⟩⟩, fun h => absurd ⟨h.1, h.2.1⟩ hstart⟩

/-- There is one result that is the part. -/
theorem isPart_iff {t : Text} {start length : Int} {result : Except Error Output} :
    IsPart t start length result ↔ result = (part t start length).map ofText := by
  constructor
  · intro h
    by_cases hstart : 0 ≤ start ∧ start ≤ t.length
    · by_cases hlength : 0 ≤ length ∧ length ≤ t.length - start
      · obtain ⟨out, rfl⟩ := h.ok_iff.mpr ⟨hstart.1, hstart.2, hlength⟩
        obtain ⟨hgroups, front, back, hcut, rfl, rfl⟩ := h.cut out rfl
        rw [part_of_bounds hstart hlength, hcut]
        obtain ⟨text, groups⟩ := out
        obtain rfl : groups = [] := hgroups
        simp [ofText, Except.map]
      · rw [h.end_error hstart hlength, part_of_end hstart hlength]
        rfl
    · rw [h.start_error hstart, part_of_start hstart]
      rfl
  · rintro rfl
    exact isPart_part t start length

/-- The names of the function that takes a part. -/
def partNames : List Text :=
  ["substring", "substr"]

/-- The function takes the part with the start and the length that are kept. -/
theorem call_part {name t startText lengthText : Text} {start length : Int}
    (hname : Unicode.lower name ∈ partNames) (hfirst : t.head? ≠ some '"')
    (hlast : t.getLast? ≠ some '"') (hstart : Text.IsInteger startText start)
    (hlength : Text.IsInteger lengthText length) (known : Text → Bool) :
    call known name [t, startText, lengthText] =
      (part t (keptIndex start) (keptIndex length)).map ofText := by
  have hfind : find? name = some .substring := by
    have hall : ∀ name ∈ partNames, table.lookup name = some .substring := by decide
    exact hall _ hname
  refine call_of_run? hfind ?_
  simp only [List.map_cons, List.map_nil, trimQuotes_eq_self hfirst hlast,
    trimQuotes_integer hstart, trimQuotes_integer hlength, run?, readIndex_integer hstart,
    readIndex_integer hlength]

/-- Outcomes are the same if they are the same as texts. -/
theorem map_ofText_inj {x y : Except Error Text} : x.map ofText = y.map ofText ↔ x = y := by
  cases x <;> cases y <;> simp [Except.map, ofText]

/-- The parts for the kept and for the given numbers are the same exactly if the start fits a word,
and the length does too or is not looked at. -/
theorem part_kept_iff {t : Text} (hsize : t.length ≤ Text.maxInt) {start length : Int} :
    part t (keptIndex start) (keptIndex length) = part t start length ↔
      Text.FitsWord start ∧ (Text.FitsWord length ∨ ¬(0 ≤ start ∧ start ≤ t.length)) := by
  have hzero : 0 ≤ (0 : Int) ∧ (0 : Int) ≤ t.length := by omega
  have hfar {z : Int} (hz : ¬Text.FitsWord z) : ¬(0 ≤ z ∧ z ≤ t.length) := by
    unfold Text.FitsWord Text.maxInt at hz
    unfold Text.maxInt at hsize
    omega
  by_cases hstart : Text.FitsWord start
  · by_cases hlength : Text.FitsWord length
    · simp [keptIndex, hstart, hlength]
    · by_cases hinside : 0 ≤ start ∧ start ≤ t.length
      -- A part of no length is taken where the length lies far outside.
      · have hend : ¬(0 ≤ length ∧ length ≤ t.length - start) := by
          have hlong := hfar hlength
          omega
        have hnone : 0 ≤ (0 : Int) ∧ (0 : Int) ≤ t.length - start := by omega
        simp [keptIndex, hstart, hlength, hinside, part_of_end hinside hend,
          part_of_bounds hinside hnone]
      · simp [keptIndex, hstart, hinside, part_of_start hinside]
  -- The first character is the start where the start lies far outside.
  · have hfirst (length : Int) : part t 0 length ≠ .error .startOutOfBounds := by
      by_cases hlength : 0 ≤ length ∧ length ≤ t.length - 0
      · rw [part_of_bounds hzero hlength]
        exact nofun
      · rw [part_of_end hzero hlength]
        exact nofun
    rw [part_of_start (hfar hstart), keptIndex, if_neg hstart]
    exact iff_of_false (hfirst _) fun h => hstart h.1

section Substring

variable {name t startText lengthText : Text} {start length : Int}
  (hname : Unicode.lower name ∈ partNames) (hfirst : t.head? ≠ some '"')
  (hlast : t.getLast? ≠ some '"') (hstart : Text.IsInteger startText start)
  (hlength : Text.IsInteger lengthText length)

include hname hfirst hlast hstart hlength

/-- The function takes the part that has the start and the length that are kept, checked against the
bounds. In a text of a size that fits a word this is the part that is asked for exactly if the start
fits a word, and the length does too or the start lies outside the text. -/
theorem part_asked_iff (hsize : t.length ≤ Text.maxInt) (known : Text → Bool) :
    IsPart t (keptIndex start) (keptIndex length)
        (call known name [t, startText, lengthText]) ∧
      (IsPart t start length (call known name [t, startText, lengthText]) ↔
        Text.FitsWord start ∧ (Text.FitsWord length ∨ ¬(0 ≤ start ∧ start ≤ t.length))) := by
  have hcall := call_part hname hfirst hlast hstart hlength known
  refine ⟨isPart_iff.mpr hcall, ?_⟩
  rw [isPart_iff, hcall, map_ofText_inj, part_kept_iff hsize]

end Substring

/-- Quotes inside the text belong to it, and zeros before a number make no difference. -/
theorem part_asked_iff_whisper :
    (Unicode.lower "SubStr" ∈ partNames ∧
      ("say \"hé\" twice".toList.head? ≠ some '"' ∧ "say \"hé\" twice".toList.getLast? ≠ some '"') ∧
      (Text.IsInteger "0004" 4 ∧ Text.IsInteger "-3" (-3)) ∧
      "say \"hé\" twice".toList.length ≤ Text.maxInt) ∧
    IsPart "say \"hé\" twice" (keptIndex 4) (keptIndex (-3))
        (call (fun _ => false) "SubStr" ["say \"hé\" twice", "0004", "-3"]) ∧
      (IsPart "say \"hé\" twice" 4 (-3)
          (call (fun _ => false) "SubStr" ["say \"hé\" twice", "0004", "-3"]) ↔
        Text.FitsWord 4 ∧ (Text.FitsWord (-3) ∨
          ¬(0 ≤ (4 : Int) ∧ (4 : Int) ≤ "say \"hé\" twice".toList.length))) := by
  have hname : Unicode.lower "SubStr" ∈ partNames := by decide
  have hfirst : "say \"hé\" twice".toList.head? ≠ some '"' := by decide
  have hlast : "say \"hé\" twice".toList.getLast? ≠ some '"' := by decide
  have hstart : Text.IsInteger "0004" 4 :=
    .unsigned (by decide) (Text.forall_mem_of_all (by decide))
  have hlength : Text.IsInteger "-3" (-3) :=
    .negative (by decide) (Text.forall_mem_of_all (by decide))
  have hsize : "say \"hé\" twice".toList.length ≤ Text.maxInt := by decide
  exact ⟨⟨hname, ⟨hfirst, hlast⟩, ⟨hstart, hlength⟩, hsize⟩,
    part_asked_iff hname hfirst hlast hstart hlength hsize _⟩

/-- The first length past the largest that fits a word yields a part of no length. -/
theorem not_always_part :
    ¬∀ (name t startText lengthText : Text) (start length : Int) (known : Text → Bool),
      Unicode.lower name ∈ partNames → t.head? ≠ some '"' → t.getLast? ≠ some '"' →
        Text.IsInteger startText start → Text.IsInteger lengthText length →
          t.length ≤ Text.maxInt →
            IsPart t start length (call known name [t, startText, lengthText]) := by
  intro hall
  have hname : Unicode.lower "substring" ∈ partNames := by decide
  have hfirst : "hello".toList.head? ≠ some '"' := by decide
  have hlast : "hello".toList.getLast? ≠ some '"' := by decide
  have hstart : Text.IsInteger "1" 1 := .unsigned (by decide) (Text.forall_mem_of_all (by decide))
  have hlength : Text.IsInteger "9223372036854775808" 9223372036854775808 :=
    .unsigned (by decide) (Text.forall_mem_of_all (by decide))
  have hpart := hall _ _ _ _ _ _ (fun _ => false) hname hfirst hlast hstart hlength (by decide)
  have herror := hpart.end_error (by decide) (by decide)
  rw [call_part hname hfirst hlast hstart hlength] at herror
  have hkept : part "hello" (keptIndex 1) (keptIndex 9223372036854775808) = .ok [] := by decide
  rw [hkept] at herror
  cases herror

end Mudline.Function
