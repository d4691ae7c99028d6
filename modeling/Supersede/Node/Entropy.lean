import Supersede.Hash.Digest

/-!
# Randomness

Seeds and preimages come from a source of 32-byte draws. The source is a value: a stream and the
number of draws already taken.
-/

namespace Supersede

/-- A stream of draws and how many have been taken. -/
structure Entropy where
  stream : Nat → Hash256
  taken : Nat := 0

namespace Entropy

/-- The next draw and the source that is left. -/
def next (e : Entropy) : Hash256 × Entropy := (e.stream e.taken, { e with taken := e.taken + 1 })

/-- The stream that hashes a text, a colon and the number of the draw. -/
def ofText (text : String) : Entropy where
  stream i := sha256 (Bytes.ofText (text ++ ":" ++ toString i))

end Entropy

end Supersede
