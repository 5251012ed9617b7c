import SegmentSync.Number.Decimal

/-!
# `SegmentSync.Json.Number` — numbers as they are written

A number keeps its lexical form, because what it is worth depends on who reads it.

## Contents
- **The form.** `Number`: sign, digits before and after the point, exponent.
- **Whole numbers.** `natural?` takes digits alone: neither `1.0` nor `1e0` nor `-0` is whole.
- **Doubles.** `double?` takes as many leading digits as fit into 64 bits, drops the rest of a fraction,
  counts the rest of a whole part as powers of ten, and scales once by a power of ten from the table, in
  steps of `1e308` where the table ends. What becomes infinite is no double.
-/

namespace SegmentSync.Json

/-- A number as it is written. -/
structure Number where
  negative : Bool := false
  /-- The digits before the point. -/
  whole : List Char
  /-- The digits after the point, where there is a point. -/
  fraction : Option (List Char) := none
  /-- The sign and the digits of the exponent, where there is one. -/
  exponent : Option (Bool × List Char) := none
  deriving DecidableEq, Repr, Inhabited

namespace Number

/-- The characters of a number. -/
def chars (n : Number) : List Char :=
  (if n.negative then ['-'] else []) ++ n.whole ++
    (match n.fraction with
      | some digits => '.' :: digits
      | none => []) ++
    (match n.exponent with
      | some (negative, digits) => 'e' :: (if negative then ['-'] else []) ++ digits
      | none => [])

/-! ## Whole numbers -/

/-- The value of decimal digits. -/
def digitsValue (digits : List Char) : Nat :=
  digits.foldl (fun n c => n * 10 + (c.toNat - '0'.toNat)) 0

/-- A whole number below `bound`. -/
def natural? (bound : Nat) (n : Number) : Option Nat :=
  if n.negative || n.fraction.isSome || n.exponent.isSome then none
  else
    let value := digitsValue n.whole
    if value < bound then some value else none

/-! ## Doubles -/

/-- Digits that have been taken into 64 bits, and a power of ten. -/
structure Significand where
  value : Nat := 0
  power : Int := 0
  /-- A digit did not fit; no further digit is taken. -/
  full : Bool := false

/-- Takes a digit before the point. -/
def Significand.takeWhole (s : Significand) (c : Char) : Significand :=
  let next := s.value * 10 + (c.toNat - '0'.toNat)
  if s.full || UInt64.size ≤ next then { s with power := s.power + 1, full := true }
  else { s with value := next }

/-- Takes a digit after the point. -/
def Significand.takeFraction (s : Significand) (c : Char) : Significand :=
  let next := s.value * 10 + (c.toNat - '0'.toNat)
  if s.full || UInt64.size ≤ next then { s with full := true }
  else { s with value := next, power := s.power - 1 }

/-- The digits of a number without its exponent. -/
def significand (n : Number) : Significand :=
  let whole := n.whole.foldl Significand.takeWhole {}
  (n.fraction.getD []).foldl Significand.takeFraction { whole with full := false }

/-- The largest power of ten that is taken at once. -/
def largestPower : Nat := 308

/-- Ten to a power of at most `largestPower`, as a double. -/
def powerOfTen (n : Nat) : Float := Float.ofScientific 1 false n

/-- Divides by `10 ^ n`, at most `steps` times by the largest power. -/
def scaleDown : Nat → Float → Nat → Float
  | 0, x, _ => x
  | steps + 1, x, n =>
    if n ≤ largestPower then x / powerOfTen n
    else if x == 0 then x
    else scaleDown steps (x / powerOfTen largestPower) (n - largestPower)

/-- Multiplies by `10 ^ n`, unless that leaves the range of doubles. -/
def scaleUp? (x : Float) (n : Nat) : Option Float :=
  if n ≤ largestPower then
    let product := x * powerOfTen n
    if product.isInf then none else some product
  else if x == 0 then some x
  else none

/-- The exponent of a number: its sign, and its size unless that exceeds 31 bits. -/
def exponentValue (n : Number) : Bool × Option Nat :=
  match n.exponent with
  | none => (false, some 0)
  | some (negative, digits) =>
    let value := digitsValue digits
    (negative, if value < UInt32.size / 2 then some value else none)

/-- The double that a number without its sign stands for. -/
def magnitude? (n : Number) : Option Float :=
  let s := n.significand
  match n.exponentValue with
  -- An exponent out of all bounds makes everything but zero either infinite or zero.
  | (negative, none) => if s.value ≠ 0 && !negative then none else some 0
  | (negative, some e) =>
    let power := if negative then s.power - e else s.power + e
    let x := s.value.toUInt64.toFloat
    if 0 ≤ power then scaleUp? x power.toNat else some (scaleDown (power.natAbs + 1) x power.natAbs)

/-- The double that a number stands for. -/
def double? (n : Number) : Option Float :=
  n.magnitude?.map fun x => if n.negative then -x else x

end Number

end SegmentSync.Json
