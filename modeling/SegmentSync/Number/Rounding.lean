/-!
# `SegmentSync.Number.Rounding` — powers and rounded quotients

`twoTo` and `tenTo` are the powers that numbers are scaled by. `roundDiv a b` is the whole number nearest to
`a / b`; a quotient that lies exactly between two of them goes to the even one.
-/

namespace SegmentSync

/-- A power of two. -/
def twoTo (n : Nat) : Nat := Nat.pow 2 n

/-- A power of ten. -/
def tenTo (n : Nat) : Nat := Nat.pow 10 n

/-- The whole number nearest to `a / b`, the even one where two are equally near. -/
def roundDiv (a b : Nat) : Nat :=
  let q := a / b
  let r := a % b
  if 2 * r < b then q else if b < 2 * r then q + 1 else if q % 2 = 0 then q else q + 1

end SegmentSync
