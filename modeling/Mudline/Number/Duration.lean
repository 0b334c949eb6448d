import Mudline.Number.Binary
import Mudline.Text.Integer

/-!
# Durations

A duration is a whole number of nanoseconds, of less than `2 ^ 64` seconds.
-/

namespace Mudline

/-- A length of time. -/
structure Duration where
  /-- The nanoseconds. -/
  nanos : Nat
  deriving DecidableEq, Repr

namespace Duration

/-- The nanoseconds of a second. -/
def nanosPerSecond : Nat := 1000000000

/-- The nanoseconds of a millisecond. -/
def nanosPerMilli : Nat := 1000000

/-- A number of milliseconds. -/
def ofMillis (n : Nat) : Duration := ⟨n * nanosPerMilli⟩

/-- A whole number of seconds. -/
def ofWholeSeconds (n : Nat) : Duration := ⟨n * nanosPerSecond⟩

/-- A finite number of seconds, none below zero, rounded to the nearest nanosecond with ties to
even. There is no such duration from `2 ^ 64` seconds on. -/
def ofSeconds? (x : Float) : Option Duration :=
  let b := Number.Binary.ofFloat x
  if Text.maxWord < b.wholePart then none else some ⟨b.scaled nanosPerSecond⟩

/-- The whole seconds. -/
def seconds (d : Duration) : Nat :=
  d.nanos / nanosPerSecond

/-- Seconds, a point, and nine digits of nanoseconds. -/
def render (d : Duration) : Text :=
  let places := Text.ofNat (d.nanos % nanosPerSecond)
  Text.ofNat d.seconds ++ '.' :: (List.replicate (9 - places.length) '0' ++ places)

end Duration

end Mudline
