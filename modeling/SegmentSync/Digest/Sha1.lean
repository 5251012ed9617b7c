import SegmentSync.Bytes

/-!
# `SegmentSync.Digest.Sha1` — the SHA-1 digest

The message is padded to blocks of sixteen 32-bit words. Each block is stretched to eighty words by a
recurrence over the words before, and folded into a state of five words in eighty rounds.
-/

namespace SegmentSync.Sha1

/-- The chaining state. -/
structure State where
  a : UInt32
  b : UInt32
  c : UInt32
  d : UInt32
  e : UInt32

/-- The state before the first block. -/
def State.initial : State :=
  ⟨0x67452301, 0xEFCDAB89, 0x98BADCFE, 0x10325476, 0xC3D2E1F0⟩

/-- Rotation to the left. -/
def rotate (n : UInt32) (x : UInt32) : UInt32 := (x <<< n) ||| (x >>> (32 - n))

/-- The word made of four octets, the first the most significant. -/
def word (a b c d : UInt8) : UInt32 :=
  (a.toUInt32 <<< 24) ||| (b.toUInt32 <<< 16) ||| (c.toUInt32 <<< 8) ||| d.toUInt32

/-- The octets of a word, the most significant first. -/
def wordBytes (w : UInt32) : Bytes :=
  [(w >>> 24).toUInt8, (w >>> 16).toUInt8, (w >>> 8).toUInt8, w.toUInt8]

/-- The words of a message whose length is a multiple of four. -/
def words : Bytes → List UInt32
  | a :: b :: c :: d :: rest => word a b c d :: words rest
  | _ => []

/-- The message with a closing bit, zeros, and its length in bits. -/
def pad (message : Bytes) : Bytes :=
  let bits := 8 * message.length
  message ++ 0x80 :: List.replicate ((119 - message.length % 64) % 64) 0 ++
    wordBytes (bits / UInt32.size).toUInt32 ++ wordBytes bits.toUInt32

/-- The eighty words of a block, the latest first: each one after the sixteenth is a rotated sum of the
    words three, eight, fourteen and sixteen places before it. -/
def stretch : Nat → List UInt32 → List UInt32
  | 0, latest => latest
  | n + 1, latest =>
    let w := rotate 1 (latest.getD 2 0 ^^^ latest.getD 7 0 ^^^ latest.getD 13 0 ^^^ latest.getD 15 0)
    stretch n (w :: latest)

/-- The eighty words of a block of sixteen. -/
def schedule (block : List UInt32) : List UInt32 := (stretch 64 block.reverse).reverse

/-- The mixing function and the constant of round `t`. -/
def mix (t : Nat) (s : State) : UInt32 × UInt32 :=
  if t < 20 then ((s.b &&& s.c) ||| (~~~s.b &&& s.d), 0x5A827999)
  else if t < 40 then (s.b ^^^ s.c ^^^ s.d, 0x6ED9EBA1)
  else if t < 60 then ((s.b &&& s.c) ||| (s.b &&& s.d) ||| (s.c &&& s.d), 0x8F1BBCDC)
  else (s.b ^^^ s.c ^^^ s.d, 0xCA62C1D6)

/-- One round with the word `w`. -/
def round (s : State) (t : Nat) (w : UInt32) : State :=
  let (f, k) := mix t s
  ⟨rotate 5 s.a + f + s.e + k + w, s.a, rotate 30 s.b, s.c, s.d⟩

/-- Folds one block into the state. -/
def compress (s : State) (block : List UInt32) : State :=
  let r := (schedule block).zipIdx.foldl (fun state (w, t) => round state t w) s
  ⟨s.a + r.a, s.b + r.b, s.c + r.c, s.d + r.d, s.e + r.e⟩

/-- Folds `n` blocks into the state. -/
def absorb : Nat → State → List UInt32 → State
  | 0, s, _ => s
  | n + 1, s, message => absorb n (compress s (message.take 16)) (message.drop 16)

/-- The twenty octets of the digest. -/
def digest (message : Bytes) : Bytes :=
  let message := words (pad message)
  let s := absorb (message.length / 16) .initial message
  wordBytes s.a ++ wordBytes s.b ++ wordBytes s.c ++ wordBytes s.d ++ wordBytes s.e

/-- A digest has twenty octets. -/
@[simp] theorem digest_length (message : Bytes) : (digest message).length = 20 := rfl

end SegmentSync.Sha1
