import Supersede.Hash.Ripemd160
import Supersede.Hash.Sha256
import Supersede.Hash.Sha512

/-!
# Digests built from the basic hash functions

Transactions are hashed twice, keys and preimages through RIPEMD-160, taproot data under a tag,
and derivation seeds with a keyed hash.
-/

namespace Supersede

/-- A 256-bit digest. -/
abbrev Hash256 := FixedBytes 32

/-- A 160-bit digest. -/
abbrev Hash160 := FixedBytes 20

instance : Std.TransOrd Hash160 := inferInstanceAs (Std.TransOrd (FixedBytes 20))

instance : Std.LawfulEqOrd Hash160 := inferInstanceAs (Std.LawfulEqOrd (FixedBytes 20))

/-- SHA-256 of the SHA-256 digest. -/
def sha256d (m : Bytes) : Hash256 := sha256 (sha256 m).toBytes

/-- RIPEMD-160 of the SHA-256 digest. -/
def hash160 (m : Bytes) : Hash160 := ripemd160 (sha256 m).toBytes

/-- SHA-256 in the domain named by `tag`: the tag's digest is hashed twice before the message. -/
def taggedHash (tag : String) (m : Bytes) : Hash256 :=
  let t := (sha256 (Bytes.ofText tag)).toBytes
  sha256 (t ++ t ++ m)

/-- A key brought to the block length of the hash: hashed if longer, then filled with zeros. -/
def blockKey {n : Nat} (hash : Bytes → FixedBytes n) (block : Nat) (key : Bytes) : Bytes :=
  let k := if key.length ≤ block then key else (hash key).toBytes
  k ++ List.replicate (block - k.length) 0

/-- The keyed hash HMAC over a hash function with the given block length. -/
def hmac {n : Nat} (hash : Bytes → FixedBytes n) (block : Nat) (key m : Bytes) : FixedBytes n :=
  let k := blockKey hash block key
  let inner := hash (k.map (· ^^^ 0x36) ++ m)
  hash (k.map (· ^^^ 0x5c) ++ inner.toBytes)

/-- HMAC with SHA-256. -/
def hmacSha256 (key m : Bytes) : Hash256 := hmac sha256 64 key m

/-- HMAC with SHA-512. -/
def hmacSha512 (key m : Bytes) : FixedBytes 64 := hmac sha512 128 key m

end Supersede
