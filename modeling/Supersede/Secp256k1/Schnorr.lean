import Supersede.Secp256k1.Group

/-!
# Schnorr signatures over secp256k1

Keys and nonce points are x-only: whichever secret gives an odd ordinate is replaced by its
opposite. The nonce is a tagged hash of the secret, masked with the hash of an all-zero auxiliary
value, the key and the digest.
-/

namespace Supersede.Secp256k1.Schnorr

/-- A secret and the abscissa of its point, the secret negated if the ordinate is odd. -/
def evenSecret (d : Nat) : Nat × Nat :=
  match (Point.mul d Point.generator).toAffine? with
  | none => (d, 0)
  | some (x, y) => (if y % 2 = 0 then d else groupOrder - d, x)

/-- The challenge that binds the nonce point, the key and the digest. -/
def challenge (rx px : Bytes) (m : Hash256) : Nat :=
  (taggedHash "BIP0340/challenge" (rx ++ px ++ m.toBytes)).toNat % groupOrder

/-- The bytes of a secret masked with the hash of an all-zero auxiliary value. -/
def masked (d : Nat) : Bytes :=
  List.zipWith (· ^^^ ·) (Bytes.be256 d).toBytes
    (taggedHash "BIP0340/aux" (List.replicate 32 0)).toBytes

/-- The nonce for a digest; a hash that vanishes is replaced by one. -/
def nonce (d : Nat) (px : Bytes) (m : Hash256) : Nat :=
  let k := (taggedHash "BIP0340/nonce" (masked d ++ px ++ m.toBytes)).toNat % groupOrder
  if k = 0 then 1 else k

/-- Signs a digest. -/
def sign (key : SecretKey) (m : Hash256) : SchnorrSignature :=
  let (d, x) := evenSecret key.val
  let px := (Bytes.be256 x).toBytes
  let (k, r) := evenSecret (nonce d px m)
  let rx := Bytes.be256 r
  let s := Bytes.be256 ((k + challenge rx.toBytes px m * d) % groupOrder)
  ⟨rx.toBytes ++ s.toBytes, by simp⟩

/-- Whether a signature of a digest is valid for a key. -/
def verify (key : XOnlyKey) (m : Hash256) (sig : SchnorrSignature) : Bool :=
  let rx := sig.toBytes.take 32
  let r := Bytes.toNatBE rx
  let s := Bytes.toNatBE (sig.toBytes.drop 32)
  if fieldPrime ≤ r ∨ groupOrder ≤ s then false
  else
    let e := challenge rx key.toBytes m
    let p := Point.ofPublicKey key.toEven
    match ((Point.mul s Point.generator).add (Point.mul e p).neg).toAffine? with
    | none => false
    | some (x, y) => x == r && y % 2 == 0

end Supersede.Secp256k1.Schnorr
