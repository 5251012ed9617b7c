import SegmentSync.Number.Decimal
import SegmentSync.Number.Rounding
import SegmentSync.Number.Binary64

/-!
# `SegmentSync.Duration` — spans of time

A duration is a whole number of nanoseconds, less than `2 ^ 64` seconds. It is scaled through double
precision seconds: `ofSeconds?` takes the nanosecond nearest to the exact binary value, and gives nothing for
a value that is negative, not a number, or too large.
-/

namespace SegmentSync

/-- A span of time in nanoseconds. -/
structure Duration where
  nanos : Nat
  deriving DecidableEq, Repr, Inhabited, Ord

namespace Duration

instance : LE Duration := ⟨fun a b => a.nanos ≤ b.nanos⟩
instance : LT Duration := ⟨fun a b => a.nanos < b.nanos⟩
instance (a b : Duration) : Decidable (a ≤ b) := inferInstanceAs (Decidable (a.nanos ≤ b.nanos))
instance (a b : Duration) : Decidable (a < b) := inferInstanceAs (Decidable (a.nanos < b.nanos))

/-- The shorter of two durations. -/
instance : Min Duration := ⟨fun a b => if a ≤ b then a else b⟩

/-- The longer of two durations. -/
instance : Max Duration := ⟨fun a b => if a ≤ b then b else a⟩

/-- So many milliseconds. -/
def ofMillis (millis : UInt64) : Duration := ⟨millis.toNat * 1000000⟩

/-- The least number of whole milliseconds that covers the duration. -/
def millisCeil (d : Duration) : Nat := (d.nanos + 999999) / 1000000

/-- Whole seconds. -/
def seconds (d : Duration) : Nat := d.nanos / 1000000000

/-- Nanoseconds beyond the whole seconds. -/
def subsecNanos (d : Duration) : Nat := d.nanos % 1000000000

/-- The duration in seconds: the whole seconds and the billionths of the rest, each rounded to a double. -/
def toSeconds (d : Duration) : Float :=
  d.seconds.toUInt64.toFloat + d.subsecNanos.toUInt64.toFloat / 1e9

/-- The duration nearest to a number of seconds. -/
def ofSeconds? (x : Float) : Option Duration :=
  if x.isNaN || x.isInf then none
  else if Binary64.isNegative x && Binary64.mantissa x ≠ 0 then none
  else
    let nanos := roundDiv (Binary64.scaleNumerator (Binary64.mantissa x) (Binary64.exponent x) * 1000000000)
      (Binary64.scaleDenominator (Binary64.exponent x))
    if nanos < UInt64.size * 1000000000 then some ⟨nanos⟩ else none

/-- A number of units with a fraction of `places` digits, whose trailing zeros are left out. -/
def unitText (whole fraction places : Nat) (unit : String) : String :=
  let shown := (Binary64.stripZeros (Binary64.padDigits places (Decimal.digits fraction))).1
  if fraction = 0 then Decimal.text whole ++ unit
  else Decimal.text whole ++ "." ++ String.ofList shown ++ unit

/-- The duration in its largest unit with a whole part: `1.5ms`, `500ms`, `1s`, `0ns`. -/
def text (d : Duration) : String :=
  if 0 < d.seconds then unitText d.seconds d.subsecNanos 9 "s"
  else if 1000000 ≤ d.nanos then unitText (d.nanos / 1000000) (d.nanos % 1000000) 6 "ms"
  else if 1000 ≤ d.nanos then unitText (d.nanos / 1000) (d.nanos % 1000) 3 "µs"
  else unitText d.nanos 0 0 "ns"

@[simp] theorem le_iff {a b : Duration} : a ≤ b ↔ a.nanos ≤ b.nanos := Iff.rfl

theorem min_le_right (a b : Duration) : min a b ≤ b := by
  show (if a ≤ b then a else b) ≤ b
  split
  · assumption
  · exact Nat.le_refl _

end Duration

end SegmentSync
