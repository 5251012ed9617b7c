import SegmentSync.Digest.Sha1
import SegmentSync.Text.Utf8

/-!
# `SegmentSync.Digest.Challenge` — the answer to a login challenge

A store proves a client's password without seeing it: it hands out a challenge, and the client answers with
a digest of challenge and password.
-/

namespace SegmentSync

/-- The answer to `challenge`: the SHA-1 digest of `challenge:password`, in lowercase hexadecimal. -/
def challengeDigest (challenge password : String) : String :=
  (Sha1.digest (Utf8.encode challenge ++ Utf8.encode ":" ++ Utf8.encode password)).hex

/-- An answer has forty characters. -/
theorem challengeDigest_length (challenge password : String) :
    (challengeDigest challenge password).toList.length = 40 := by
  simp [challengeDigest, Bytes.hex_length]

end SegmentSync
