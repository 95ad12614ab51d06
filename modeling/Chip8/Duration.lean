/-!
# Durations

A duration is a whole number of nanoseconds below `2 ^ 64` seconds.  Sums,
differences and multiples that leave this range are errors, each with its own
cause.
-/

namespace Chip8

/-- How many nanoseconds make a second. -/
def nanosecondsPerSecond : Nat :=
  1000000000

/-- The longest duration: a nanosecond short of `2 ^ 64` seconds. -/
def greatestNanoseconds : Nat :=
  UInt64.size * nanosecondsPerSecond - 1

/-- A bounded count of nanoseconds. -/
structure Duration where
  nanoseconds : Nat
  nanoseconds_le : nanoseconds ≤ greatestNanoseconds
deriving DecidableEq, Repr

/-- Which operation left the range of durations. -/
inductive DurationError where
  | addition
  | subtraction
  | multiplication
deriving DecidableEq, Repr

/-- The text of an error names the operation. -/
def DurationError.message : DurationError → String
  | .addition => "overflow when adding durations"
  | .subtraction => "overflow when subtracting durations"
  | .multiplication => "overflow when multiplying duration by scalar"

namespace Duration

@[ext]
theorem ext {left right : Duration}
    (equal : left.nanoseconds = right.nanoseconds) : left = right := by
  cases left
  cases right
  simp_all

/-- No time at all. -/
def zero : Duration :=
  ⟨0, Nat.zero_le _⟩

/-- A duration in nanoseconds; counts beyond the greatest are cut to it. -/
def ofNanoseconds (count : Nat) : Duration :=
  ⟨min count greatestNanoseconds, Nat.min_le_right _ _⟩

/-- Whole seconds and nanoseconds taken together. -/
def ofParts (seconds nanoseconds : Nat) : Duration :=
  ofNanoseconds (seconds * nanosecondsPerSecond + nanoseconds)

/-- A duration with a count in range, or the error that is due instead. -/
def checked (count : Nat) (error : DurationError) :
    Except DurationError Duration :=
  if inRange : count ≤ greatestNanoseconds then
    .ok ⟨count, inRange⟩
  else
    .error error

/-- The sum of two durations, if it is one. -/
def add (left right : Duration) : Except DurationError Duration :=
  checked (left.nanoseconds + right.nanoseconds) .addition

/-- So many times a duration, if that is one. -/
def times (duration : Duration) (count : UInt32) :
    Except DurationError Duration :=
  checked (duration.nanoseconds * count.toNat) .multiplication

/-- The difference of two durations, the smaller taken from the greater. -/
def subtract (left right : Duration) : Except DurationError Duration :=
  if right.nanoseconds ≤ left.nanoseconds then
    checked (left.nanoseconds - right.nanoseconds) .subtraction
  else
    .error .subtraction

/-- The difference of two durations, or zero where there is none. -/
def subtractOrZero (left right : Duration) : Duration :=
  ⟨left.nanoseconds - right.nanoseconds,
    Nat.le_trans (Nat.sub_le _ _) left.nanoseconds_le⟩

end Duration

end Chip8
