import Supersede.Secp256k1.Ecdsa
import Supersede.Secp256k1.Schnorr

/-!
# The scheme over secp256k1
-/

namespace Supersede

/-- ECDSA and Schnorr signatures over secp256k1. -/
@[reducible] def KeyScheme.secp256k1 : KeyScheme where
  publicKey := Secp256k1.publicKey
  shift? := Secp256k1.shift?
  ecdsaSign := Secp256k1.Ecdsa.sign
  ecdsaVerify := Secp256k1.Ecdsa.verify
  schnorrSign := Secp256k1.Schnorr.sign
  schnorrVerify := Secp256k1.Schnorr.verify

end Supersede
