import SegmentSync.Number.Decimal
import SegmentSync.Number.Binary64

/-!
# `SegmentSync.Number.Lexical` — reading decimal fractions and numbers of other bases

## Contents
- **Doubles.** `Binary64.readRounded?`: an optional sign, digits with an optional point somewhere, an optional
  exponent. The double nearest to the written value; what is too large for one is infinite, and
  `Binary64.read?` does not read it.
- **Bases.** `Decimal.readBase?`: digits of a base up to sixteen.
-/

namespace SegmentSync

namespace Binary64

/-- The parts of a decimal fraction: its digits without the point, and a power of ten. -/
structure Decimals where
  digits : List Char
  power : Int
  deriving DecidableEq, Repr

/-- An integer with an optional sign. -/
def readExponent? (chars : List Char) : Option Int :=
  let value (digits : List Char) : Option Nat :=
    if digits.isEmpty || !digits.all Char.isDigit then none
    else some (digits.foldl (fun n c => n * 10 + (c.toNat - 48)) 0)
  match chars with
  | '-' :: digits => (value digits).map fun n => -(n : Int)
  | '+' :: digits => (value digits).map fun n => (n : Int)
  | digits => (value digits).map fun n => (n : Int)

/-- Reads a decimal fraction without its sign. -/
def readDecimals? (chars : List Char) : Option Decimals := do
  let whole := chars.takeWhile Char.isDigit
  let rest := chars.drop whole.length
  let fraction := if rest.head? = some '.' then (rest.drop 1).takeWhile Char.isDigit else []
  let rest := if rest.head? = some '.' then rest.drop (1 + fraction.length) else rest
  if whole.isEmpty && fraction.isEmpty then none
  let exponent ← match rest with
    | [] => some 0
    | c :: rest => if c = 'e' || c = 'E' then readExponent? rest else none
  return ⟨whole ++ fraction, exponent - fraction.length⟩

/-- A value of at least ten to this power is no double. -/
def overflowPower : Int := 310

/-- A value below ten to this power is zero as a double. -/
def underflowPower : Int := -330

/-- The double nearest to a decimal fraction. -/
def ofDecimals (d : Decimals) : Float :=
  let digits := d.digits.dropWhile (· = '0')
  let order := digits.length + d.power
  if digits.isEmpty || order < underflowPower then 0
  else if overflowPower < order then 1 / 0
  else
    let mantissa := digits.foldl (fun n c => n * 10 + (c.toNat - 48)) 0
    Float.ofScientific mantissa (d.power < 0) d.power.natAbs

/-- Reads a double, infinite where the written value is too large. -/
def readRounded? : List Char → Option Float
  | '-' :: chars => (readDecimals? chars).map fun d => -ofDecimals d
  | '+' :: chars => (readDecimals? chars).map ofDecimals
  | chars => (readDecimals? chars).map ofDecimals

/-- Reads a finite double. -/
def read? (chars : List Char) : Option Float := (readRounded? chars).filter fun x => !x.isInf

/-- The names of values that are no finite numbers. -/
def specialNames : List (String × Float) := [("inf", 1 / 0), ("infinity", 1 / 0), ("nan", 0 / 0)]

/-- Reads a double that may also be written by a name, in any case of letters. -/
def readNamed? (chars : List Char) : Option Float :=
  let named (chars : List Char) : Option Float :=
    specialNames.lookup (String.ofList (chars.map Char.toLower))
  let byName := match chars with
    | '-' :: rest => (named rest).map fun x => -x
    | '+' :: rest => named rest
    | chars => named chars
  byName.or (readRounded? chars)

end Binary64

namespace Decimal

/-- The value of a digit of a base up to sixteen. -/
def baseDigit? (base : Nat) (c : Char) : Option Nat :=
  let value? : Option Nat :=
    if '0' ≤ c && c ≤ '9' then some (c.toNat - 48)
    else if 'a' ≤ c && c ≤ 'f' then some (c.toNat - 87)
    else if 'A' ≤ c && c ≤ 'F' then some (c.toNat - 55)
    else none
  value?.filter (· < base)

/-- Reads digits of a base, of which there is at least one. -/
def readBase? (base : Nat) (chars : List Char) : Option Nat :=
  if chars.isEmpty then none
  else chars.foldlM (fun n c => (baseDigit? base c).map fun d => n * base + d) 0

end Decimal

end SegmentSync
