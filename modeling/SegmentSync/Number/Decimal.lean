/-!
# `SegmentSync.Number.Decimal` — natural numbers in decimal notation

## Contents
- **Writing.** `digits`: the decimal digits of a number, without leading zeros.
- **Reading.** `read bound`: an optional plus sign, then at least one ASCII digit, for a number below
  `bound`. Characters are judged from left to right, so that a number which has already grown too large
  hides whatever stands after it.
-/

namespace SegmentSync.Decimal

/-! ## Writing -/

/-- The decimal digits of a number, the most significant first. -/
def digits (n : Nat) : List Char :=
  if n < 10 then [Nat.digitChar n] else digits (n / 10) ++ [Nat.digitChar (n % 10)]
termination_by n
decreasing_by omega

/-- The number in decimal notation. -/
def text (n : Nat) : String := String.ofList (digits n)

/-- An integer in decimal notation, with a minus sign where it is negative. -/
def signedText (n : Int) : String :=
  if n < 0 then "-" ++ text n.natAbs else text n.natAbs

/-! ## Reading -/

/-- Why a text is no number. -/
inductive Fault where
  /-- There is nothing to read. -/
  | empty
  /-- A character is not a digit, or a sign stands alone. -/
  | invalidDigit
  /-- The number does not fit. -/
  | tooLarge
  deriving DecidableEq, Repr

/-- The fault in words. -/
def Fault.message : Fault → String
  | .empty => "cannot parse integer from empty string"
  | .invalidDigit => "invalid digit found in string"
  | .tooLarge => "number too large to fit in target type"

/-- The value of an ASCII digit. -/
def digit? (c : Char) : Option Nat :=
  if '0' ≤ c && c ≤ '9' then some (c.toNat - '0'.toNat) else none

/-- Reads digits behind a number `n` that has been read so far. -/
def accumulate (bound : Nat) : Nat → List Char → Except Fault Nat
  | n, [] => .ok n
  | n, c :: rest =>
    match digit? c with
    | none => .error .invalidDigit
    | some d => if n * 10 + d < bound then accumulate bound (n * 10 + d) rest else .error .tooLarge

/-- Reads a number below `bound`. -/
def read (bound : Nat) : List Char → Except Fault Nat
  | [] => .error .empty
  | ['+'] => .error .invalidDigit
  | '+' :: rest => accumulate bound 0 rest
  | chars => accumulate bound 0 chars

/-- Reads a signed 64-bit number: an optional sign, then digits. -/
def readSigned64 : List Char → Option Int
  | '-' :: rest =>
    match rest with
    | [] => none
    | _ => (accumulate (UInt64.size / 2 + 1) 0 rest).toOption.map fun n => -(n : Int)
  | chars => (read (UInt64.size / 2) chars).toOption.map fun n => (n : Int)

/-- Reads a 16-bit number. -/
def readUInt16 (chars : List Char) : Except Fault UInt16 := (read (UInt16.size) chars).map Nat.toUInt16

/-- Reads a 32-bit number. -/
def readUInt32 (chars : List Char) : Except Fault UInt32 := (read (UInt32.size) chars).map Nat.toUInt32

/-- Reads a 64-bit number. -/
def readUInt64 (chars : List Char) : Except Fault UInt64 := (read (UInt64.size) chars).map Nat.toUInt64

end SegmentSync.Decimal
