import Supersede.Signature.Ecdsa

/-!
# The signature scheme

Everything the channel needs from elliptic-curve cryptography: the public key of a secret key, the
shift of a public key by a multiple of the generator, and making and checking the two kinds of
signature. The rest of the library is written for any such scheme; `KeyScheme.secp256k1` is the
one that runs.

`LawfulKeyScheme` states the two facts the protocol relies on: honest signatures verify, and
shifting a public key by a number below the group order agrees with shifting its secret key.
-/

namespace Supersede

/-- A Schnorr signature: the abscissa of the nonce point and a number, 32 bytes each. -/
abbrev SchnorrSignature := FixedBytes 64

/-- The operations of a signature scheme. -/
class KeyScheme where
  /-- The public key of a secret key. -/
  publicKey : SecretKey → PublicKey
  /-- A public key plus a multiple of the generator, unless the sum is at infinity. -/
  shift? : PublicKey → Nat → Option PublicKey
  /-- An ECDSA signature of a digest. -/
  ecdsaSign : SecretKey → Hash256 → EcdsaSignature
  /-- Whether an ECDSA signature of a digest is valid for a key. -/
  ecdsaVerify : PublicKey → Hash256 → EcdsaSignature → Bool
  /-- A Schnorr signature of a digest. -/
  schnorrSign : SecretKey → Hash256 → SchnorrSignature
  /-- Whether a Schnorr signature of a digest is valid for a key. -/
  schnorrVerify : XOnlyKey → Hash256 → SchnorrSignature → Bool

/-- The public key of a secret key. -/
def SecretKey.publicKey [KeyScheme] (k : SecretKey) : PublicKey := KeyScheme.publicKey k

/-- The x-only public key of a secret key. -/
def SecretKey.xOnlyKey [KeyScheme] (k : SecretKey) : XOnlyKey := k.publicKey.toXOnly

/-- The facts about a signature scheme that the protocol relies on. -/
class LawfulKeyScheme [KeyScheme] : Prop where
  ecdsaVerify_sign (k : SecretKey) (m : Hash256) :
    KeyScheme.ecdsaVerify k.publicKey m (KeyScheme.ecdsaSign k m) = true
  schnorrVerify_sign (k : SecretKey) (m : Hash256) :
    KeyScheme.schnorrVerify k.xOnlyKey m (KeyScheme.schnorrSign k m) = true
  shift?_publicKey (k : SecretKey) (t : Nat) (ht : t < Secp256k1.groupOrder) :
    KeyScheme.shift? k.publicKey t = (k.add? t).map SecretKey.publicKey

end Supersede
