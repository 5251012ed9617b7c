import SegmentSync.Number.Decimal
import SegmentSync.Number.Rounding

/-!
# `SegmentSync.Number.Binary64` — the text of double precision numbers

A finite double is `± mantissa · 2 ^ exponent`, read off its bits; all text is made from these two numbers by
exact arithmetic.

## Contents
- **The value.** `mantissa`, `exponent`, and the value as a fraction of natural numbers.
- **Fixed places.** `fixed places x`: rounded to so many digits after the point, a half going to the even
  neighbour.
- **Shortest digits.** `shortest x`: the fewest digits that read back as `x`, and of those the nearest to it.
  For each number of digits the two neighbours of the value on that decimal grid are tried.
- **Plain and marked text.** `plain` never uses an exponent and marks no whole number; `marked` writes
  `.0` behind a whole number and an exponent below `1e-4` and from `1e16` on.
-/

namespace SegmentSync.Binary64

/-! ## The value -/

/-- The sign bit is set. -/
def isNegative (x : Float) : Bool := x.toBits.toNat / twoTo 63 = 1

/-- The eleven bits of the exponent field. -/
def exponentField (x : Float) : Nat := x.toBits.toNat / twoTo 52 % twoTo 11

/-- The fifty-two bits of the fraction field. -/
def fractionField (x : Float) : Nat := x.toBits.toNat % twoTo 52

/-- The mantissa of a finite number, as a whole number. -/
def mantissa (x : Float) : Nat :=
  if exponentField x = 0 then fractionField x else twoTo 52 + fractionField x

/-- The power of two that the mantissa is multiplied with. -/
def exponent (x : Float) : Int :=
  if exponentField x = 0 then -1074 else (exponentField x : Int) - 1075

/-- The numerator of `m · 2 ^ e` over `2 ^ max(0, -e)`. -/
def scaleNumerator (m : Nat) (e : Int) : Nat := m * twoTo e.toNat

/-- The denominator of `m · 2 ^ e`. -/
def scaleDenominator (e : Int) : Nat := twoTo (-e).toNat

/-! ## Fixed places -/

/-- Text with at least `count` digits, zeros in front. -/
def padDigits (count : Nat) (chars : List Char) : List Char :=
  List.replicate (count - chars.length) '0' ++ chars

/-- A whole number of units of `10 ^ -places`, with a point where places are wanted. -/
def placeText (places n : Nat) : List Char :=
  if places = 0 then Decimal.digits n
  else Decimal.digits (n / tenTo places) ++
    '.' :: padDigits places (Decimal.digits (n % tenTo places))

/-- Text of what is no finite number. -/
def special? (x : Float) : Option String :=
  if x.isNaN then some "NaN"
  else if x.isInf then some (if isNegative x then "-inf" else "inf")
  else none

/-- The number rounded to `places` digits after the point. -/
def fixed (places : Nat) (x : Float) : String :=
  match special? x with
  | some text => text
  | none =>
    let units := roundDiv (scaleNumerator (mantissa x) (exponent x) * tenTo places)
      (scaleDenominator (exponent x))
    String.ofList ((if isNegative x then ['-'] else []) ++ placeText places units)

/-! ## Shortest digits -/

/-- Decimal digits with a power of ten: the number `digits · 10 ^ power`. -/
structure Scaled where
  digits : Nat
  power : Int
  deriving DecidableEq, Repr

/-- The numbers that read back as `m · 2 ^ e`, multiplied by four and divided by `2 ^ e`: from two units
    below, or one where the neighbour below is only half as far away, to two units above. -/
structure Interval where
  low : Nat
  high : Nat
  /-- The ends themselves read back as the number. -/
  closed : Bool

/-- The interval around a positive double. -/
def interval (x : Float) : Interval :=
  let m := mantissa x
  let narrow := fractionField x = 0 && 1 < exponentField x
  { low := if narrow then 4 * m - 1 else 4 * m - 2, high := 4 * m + 2, closed := m % 2 = 0 }

/-- The candidate `d · 10 ^ power` lies in the interval of `x`: both sides are brought over a common
    denominator. -/
def readsBack (x : Float) (d : Nat) (power : Int) : Bool :=
  let i := interval x
  let e := exponent x - 2
  let candidate := d * tenTo power.toNat * scaleDenominator e
  let unit := twoTo e.toNat * tenTo (-power).toNat
  if i.closed then i.low * unit ≤ candidate && candidate ≤ i.high * unit
  else i.low * unit < candidate && candidate < i.high * unit

/-- The least `k` with `n / d < 10 ^ k`, searched upward from `k`. -/
def magnitudeFrom (n d : Nat) : Nat → Int → Int
  | 0, k => k
  | fuel + 1, k =>
    if n * tenTo (-k).toNat < d * tenTo k.toNat then k else magnitudeFrom n d fuel (k + 1)

/-- The decimal magnitude of a positive double: the number lies below `10 ^ magnitude` and not below a tenth
    of that. No double lies outside of `10 ^ -324` and `10 ^ 309`. -/
def magnitude (x : Float) : Int :=
  magnitudeFrom (scaleNumerator (mantissa x) (exponent x)) (scaleDenominator (exponent x)) 700 (-340)

/-- The best candidate with `count` digits, if one reads back: the number's two neighbours on the grid of
    `10 ^ (magnitude - count)` are tried, and of two that read back the nearer is taken, in a tie the even. -/
def candidate? (x : Float) (count : Nat) : Option Scaled :=
  let power := magnitude x - count
  let n := scaleNumerator (mantissa x) (exponent x) * tenTo (-power).toNat
  let d := scaleDenominator (exponent x) * tenTo power.toNat
  let below := n / d
  let nearest := roundDiv n d
  -- Near a power of two the farther neighbour may read back where the nearer one does not.
  let other := if nearest = below then below + 1 else below
  if readsBack x nearest power then some ⟨nearest, power⟩
  else if readsBack x other power then some ⟨other, power⟩
  else none

/-- The first number of digits from `count` on that reads back. -/
def shortestFrom (x : Float) : Nat → Nat → Scaled
  | 0, count =>
    let power := magnitude x - count
    ⟨roundDiv (scaleNumerator (mantissa x) (exponent x) * tenTo (-power).toNat)
      (scaleDenominator (exponent x) * tenTo power.toNat), power⟩
  | fuel + 1, count =>
    match candidate? x count with
    | some scaled => scaled
    | none => shortestFrom x fuel (count + 1)

/-- The fewest digits that read back as a positive double; seventeen always do. -/
def shortest (x : Float) : Scaled := shortestFrom x 16 1

/-! ## Plain and marked text -/

/-- Digits without the zeros at their end, and how many there were. -/
def stripZeros (chars : List Char) : List Char × Nat :=
  let zeros := (chars.reverse.takeWhile (· = '0')).length
  (chars.take (chars.length - zeros), zeros)

/-- Digits and a power of ten without an exponent: zeros are filled in on either side of the point. -/
def positional (chars : List Char) (power : Int) : List Char :=
  if 0 ≤ power then chars ++ List.replicate power.toNat '0'
  else
    let places := (-power).toNat
    let padded := padDigits (places + 1) chars
    padded.take (padded.length - places) ++ '.' :: padded.drop (padded.length - places)

/-- The shortest digits of a finite number and their power of ten, without zeros at the end. -/
def significant (x : Float) : List Char × Int :=
  if mantissa x = 0 then (['0'], 0)
  else
    let s := shortest x
    let (chars, zeros) := stripZeros (Decimal.digits s.digits)
    (chars, s.power + zeros)

/-- Text without an exponent, as short as reads back: `100`, `0.99`, `-0`. -/
def plain (x : Float) : String :=
  match special? x with
  | some text => text
  | none =>
    let (chars, power) := significant x
    String.ofList ((if isNegative x then ['-'] else []) ++ positional chars power)

/-- Text that shows a number to be a double: `2.0`, `1.5`, `1e16`, `2.5e-7`. -/
def marked (x : Float) : String :=
  match special? x with
  | some text => text
  | none =>
    let (chars, power) := significant x
    let top := power + chars.length - 1
    let body :=
      if mantissa x ≠ 0 && (top < -4 || 16 ≤ top) then
        let lead := match chars with
          | [d] => [d]
          | d :: rest => d :: '.' :: rest
          | [] => []
        lead ++ 'e' :: (Decimal.signedText top).toList
      else if 0 ≤ power then positional chars power ++ ['.', '0']
      else positional chars power
    String.ofList ((if isNegative x then ['-'] else []) ++ body)

end SegmentSync.Binary64
