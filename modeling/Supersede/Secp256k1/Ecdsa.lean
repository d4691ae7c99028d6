import Supersede.Secp256k1.Group

/-!
# ECDSA over secp256k1

Nonces are drawn from a keyed hash of the secret key and the digest, so signing is deterministic.
Of the two numbers `s` and `-s` that would both do, a signature carries the smaller one, and
verification accepts only that one.
-/

namespace Supersede.Secp256k1.Ecdsa

/-- The larger half of the group starts above this number. -/
def halfOrder : Nat := groupOrder / 2

/-- Of a number and its opposite modulo the group order, the smaller. -/
def lowHalf (s : Nat) : Nat := if halfOrder < s then groupOrder - s else s

theorem lowHalf_mod_lt (s : Nat) : lowHalf (s % groupOrder) < groupOrder := by
  have h : s % groupOrder < groupOrder := Nat.mod_lt _ (by decide)
  unfold lowHalf
  split
  · have : 0 < halfOrder := by decide
    omega
  · exact h

/-- The signature of the number `z` with secret `d` and nonce `k`, unless one of its two numbers
vanishes. -/
def signWith? (d z k : Nat) : Option EcdsaSignature :=
  if 0 < k ∧ k < groupOrder then
    match (Point.mul k Point.generator).toAffine? with
    | none => none
    | some (x, _) =>
      let r := x % groupOrder
      let s := invMod groupOrder k * (z + r * d) % groupOrder
      if r = 0 ∨ s = 0 then none
      else some ⟨r, lowHalf s, Nat.mod_lt _ (by decide), lowHalf_mod_lt _⟩
  else none

/-! ## Deterministic nonces -/

/-- The state of the nonce generator: a key and the last value. -/
structure NonceSource where
  key : Hash256
  value : Hash256

namespace NonceSource

/-- Stirs the generator with a separator byte and data. -/
def stir (g : NonceSource) (separator : UInt8) (data : Bytes) : NonceSource :=
  let key := hmacSha256 g.key.toBytes (g.value.toBytes ++ separator :: data)
  ⟨key, hmacSha256 key.toBytes g.value.toBytes⟩

/-- The generator seeded with a secret key and a digest. -/
def seeded (k : SecretKey) (m : Hash256) : NonceSource :=
  let data := k.toBytes ++ m.toBytes
  let start : NonceSource := ⟨FixedBytes.zero 32, ⟨List.replicate 32 1, by simp⟩⟩
  (start.stir 0 data).stir 1 data

/-- Produces the next value. -/
def next (g : NonceSource) : NonceSource := ⟨g.key, hmacSha256 g.key.toBytes g.value.toBytes⟩

end NonceSource

/-- The signature with the first usable nonce among the next `attempts`. -/
def signFrom? (d z : Nat) : (attempts : Nat) → NonceSource → Option EcdsaSignature
  | 0, _ => none
  | attempts + 1, g =>
    let g := g.next
    match signWith? d z g.value.toNat with
    | some sig => some sig
    | none => signFrom? d z attempts (g.stir 0 [])

/-- Signs a digest. A generated nonce is unusable with negligible probability; should that happen
a hundred times over, one of the nonces 1 and 2 is taken. -/
def sign (k : SecretKey) (m : Hash256) : EcdsaSignature :=
  let z := m.toNat
  let sig? := signFrom? k.val z 100 (.seeded k m) <|> signWith? k.val z 1 <|> signWith? k.val z 2
  sig?.getD ⟨0, 0, by decide, by decide⟩

/-- Whether a signature of a digest is valid for a key. -/
def verify (key : PublicKey) (m : Hash256) (sig : EcdsaSignature) : Bool :=
  if sig.r = 0 ∨ sig.s = 0 ∨ halfOrder < sig.s then false
  else
    let w := invMod groupOrder sig.s
    let u₁ := m.toNat * w % groupOrder
    let u₂ := sig.r * w % groupOrder
    match ((Point.mul u₁ Point.generator).add (Point.mul u₂ (.ofPublicKey key))).toAffine? with
    | none => false
    | some (x, _) => x % groupOrder == sig.r

end Supersede.Secp256k1.Ecdsa
