import Mathlib
import Supersede.Secp256k1.Scheme
import Supersede.Proofs.Curve
import Supersede.Proofs.Encoding

/-!
# The scheme over secp256k1 is lawful

`KeyScheme.secp256k1` has the properties the protocol relies on: honest signatures verify, and
shifting a public key agrees with shifting its secret key.

All three are statements about multiples of the generator. A point computed from secret `d` is
`scalar d`, `scalar` is additive and depends on its argument modulo the group order only, so each
law comes down to an identity between numbers modulo the order:

* for ECDSA, `z / s + (r / s) * d = k` if `s = (z + r * d) / k`; where the signature carries the
  opposite of `s`, the point is opposite too and its abscissa is the same;
* for Schnorr, `s - e * d = k` if `s = k + e * d`.
-/

namespace Supersede.Secp256k1

theorem order_lt : groupOrder < 2 ^ 256 := by decide +kernel

theorem mod_order_lt (n : ℕ) : n % groupOrder < 2 ^ 256 :=
  (Nat.mod_lt _ (by decide)).trans order_lt

theorem nsmul_scalar (n : ℕ) (d : Fn) : n • scalar d = scalar (n * d) := by
  rw [← nsmul_eq_mul, map_nsmul]

/-! ## Shifted keys -/

/-- The secret key of a public key shifted by `t` is the secret key plus `t`. -/
theorem shift?_publicKey (k : SecretKey) {t : ℕ} (ht : t < groupOrder) :
    shift? (publicKey k) t = (k.add? t).map publicKey := by
  have hrep : ((Point.ofPublicKey (publicKey k)).add (Point.mul t Point.generator)).Represents
      (scalar ((k.val + t) % groupOrder : ℕ)) := by
    have hsum := (represents_ofPublicKey (publicKey k)).add
      (represents_mul_generator (ht.trans order_lt))
    rwa [keyPoint_publicKey, ← map_add, ← Nat.cast_add, ← ZMod.natCast_mod] at hsum
  rw [shift?, SecretKey.add?, SecretKey.ofNat?]
  split
  · next h =>
    rw [← keyPoint_publicKey ⟨_, h.1, h.2⟩] at hrep
    exact hrep.toPublicKey?
  · next h =>
    have hzero : (k.val + t) % groupOrder = 0 := by
      have := Nat.mod_lt (k.val + t) (show 0 < groupOrder by decide)
      omega
    rw [hzero, Nat.cast_zero, map_zero] at hrep
    exact hrep.toPublicKey?_eq_none

/-! ## ECDSA -/

namespace Ecdsa

theorem lowHalf_ne_zero {s : ℕ} (hpos : s ≠ 0) (hlt : s < groupOrder) : lowHalf s ≠ 0 := by
  unfold lowHalf
  split <;> omega

theorem lowHalf_le (s : ℕ) : lowHalf s ≤ halfOrder := by
  have : groupOrder = 2 * halfOrder + 1 := by decide +kernel
  unfold lowHalf
  split <;> omega

theorem cast_lowHalf {s : ℕ} (hlt : s < groupOrder) :
    (lowHalf s : Fn) = s ∨ (lowHalf s : Fn) = -s := by
  unfold lowHalf
  split
  · right
    rw [Nat.cast_sub hlt.le, ZMod.natCast_self, zero_sub]
  · exact .inl rfl

/-- The signature with nonce `k`, from the coordinates of the nonce point. -/
theorem signWith?_eq {d z k x y : ℕ} (hk : 0 < k ∧ k < groupOrder)
    (hxy : coordinates? (scalar k) = some (x, y)) :
    signWith? d z k =
      let r := x % groupOrder
      let s := invMod groupOrder k * (z + r * d) % groupOrder
      if r = 0 ∨ s = 0 then none
      else some ⟨r, lowHalf s, Nat.mod_lt _ (by decide), lowHalf_mod_lt _⟩ := by
  rw [signWith?, if_pos hk, (represents_mul_generator (hk.2.trans order_lt)).toAffine?, hxy]

theorem cast_signed {d z k x : ℕ} (hk : 0 < k ∧ k < groupOrder) :
    ((invMod groupOrder k * (z + x % groupOrder * d) % groupOrder : ℕ) : Fn) =
      (k : Fn)⁻¹ * (z + x * d) := by
  simp [cast_invMod order_lt (cast_order_ne_zero hk.1 hk.2)]

/-- What verification with the key of `d` looks at is the multiple of the generator by
`(z + r * d) / s`. -/
theorem verify_of_coordinates {d : SecretKey} {m : Hash256} {sig : EcdsaSignature} {x y : ℕ}
    (hr : sig.r ≠ 0) (hs : sig.s ≠ 0) (hlow : sig.s ≤ halfOrder)
    (hxy : coordinates? (scalar ((m.toNat + sig.r * d.val) * (sig.s : Fn)⁻¹)) = some (x, y))
    (hx : x % groupOrder = sig.r) : verify (publicKey d) m sig = true := by
  have hinv : (invMod groupOrder sig.s : Fn) = (sig.s : Fn)⁻¹ :=
    cast_invMod order_lt (cast_order_ne_zero (Nat.pos_of_ne_zero hs) sig.s_lt)
  have hsum := (represents_mul_generator (mod_order_lt (m.toNat * invMod groupOrder sig.s))).add
    ((represents_ofPublicKey (publicKey d)).mul (mod_order_lt (sig.r * invMod groupOrder sig.s)))
  rw [keyPoint_publicKey, nsmul_scalar, ← map_add, ZMod.natCast_mod, ZMod.natCast_mod,
    Nat.cast_mul, Nat.cast_mul, hinv] at hsum
  have hnumber : (m.toNat * (sig.s : Fn)⁻¹ + sig.r * (sig.s : Fn)⁻¹ * d.val : Fn) =
      (m.toNat + sig.r * d.val) * (sig.s : Fn)⁻¹ := by ring
  rw [hnumber] at hsum
  have hrange : ¬(sig.r = 0 ∨ sig.s = 0 ∨ halfOrder < sig.s) := by omega
  rw [verify, if_neg hrange]
  simp only [hsum.toAffine?, hxy, hx, beq_self_eq_true]

/-- A signature made with any nonce verifies. -/
theorem verify_of_signWith? {d : SecretKey} {m : Hash256} {k : ℕ} {sig : EcdsaSignature}
    (h : signWith? d.val m.toNat k = some sig) : verify (publicKey d) m sig = true := by
  have hk : 0 < k ∧ k < groupOrder := by
    by_contra hk
    rw [signWith?, if_neg hk] at h
    exact absurd h (by simp)
  obtain ⟨key, hkey⟩ := exists_keyPoint (scalar_ne_zero hk.1 hk.2)
  have hxy := coordinates?_keyPoint key
  rw [hkey] at hxy
  rw [signWith?_eq hk hxy] at h
  dsimp only at h
  split at h
  · exact absurd h (by simp)
  · next hne =>
    obtain ⟨hr, hsig⟩ : sig.r = key.x % groupOrder ∧ sig.s = lowHalf _ :=
      ⟨congrArg EcdsaSignature.r (Option.some.inj h).symm,
        congrArg EcdsaSignature.s (Option.some.inj h).symm⟩
    push Not at hne
    have hk0 := cast_order_ne_zero hk.1 hk.2
    have hsigned := cast_signed (d := d.val) (z := m.toNat) (x := key.x) hk
    generalize hs : invMod groupOrder k * (m.toNat + key.x % groupOrder * d.val) % groupOrder = s
      at hne hsigned hsig
    have hslt : s < groupOrder := hs ▸ Nat.mod_lt _ (by decide)
    have hs0 := cast_order_ne_zero (Nat.pos_of_ne_zero hne.2) hslt
    have hsum : (m.toNat + sig.r * d.val : Fn) = k * s := by
      rw [hsigned, hr, ZMod.natCast_mod]
      field_simp
    -- The point is that of the nonce or its opposite.
    have hpoint : ∃ y, coordinates? (scalar ((m.toNat + sig.r * d.val) * (sig.s : Fn)⁻¹)) =
        some (key.x, y) := by
      rw [hsum, hsig]
      rcases cast_lowHalf hslt with hlow | hlow
      · rw [hlow, mul_inv_cancel_right₀ hs0]
        exact ⟨_, hxy⟩
      · rw [hlow, inv_neg, mul_neg, mul_inv_cancel_right₀ hs0, map_neg]
        exact ⟨_, coordinates?_neg hxy⟩
    obtain ⟨y, hy⟩ := hpoint
    exact verify_of_coordinates (hr ▸ hne.1) (hsig ▸ lowHalf_ne_zero hne.2 hslt)
      (hsig ▸ lowHalf_le s) hy hr.symm

theorem signWith?_of_signFrom? {d z attempts : ℕ} {g : NonceSource} {sig : EcdsaSignature}
    (h : signFrom? d z attempts g = some sig) : ∃ k, signWith? d z k = some sig := by
  induction attempts generalizing g with
  | zero => exact absurd h (by simp [signFrom?])
  | succ attempts ih =>
    rw [signFrom?] at h
    split at h
    · next hsig =>
      obtain rfl := Option.some.inj h
      exact ⟨_, hsig⟩
    · exact ih h

/-- A nonce whose point has an abscissa other than zero modulo the order fails for one secret at
most. -/
theorem eq_zero_of_signWith?_eq_none {d z k x y : ℕ} (hk : 0 < k ∧ k < groupOrder)
    (hxy : (Point.mul k Point.generator).toAffine? = some (x, y)) (hx : x % groupOrder ≠ 0)
    (h : signWith? d z k = none) : (z + x * d : Fn) = 0 := by
  rw [(represents_mul_generator (hk.2.trans order_lt)).toAffine?] at hxy
  rw [signWith?_eq hk hxy] at h
  dsimp only at h
  split at h
  · next hzero =>
    have hsigned := cast_signed (d := d) (z := z) (x := x) hk
    rw [hzero.resolve_left hx, Nat.cast_zero] at hsigned
    exact (mul_eq_zero.1 hsigned.symm).resolve_left
      (inv_ne_zero (cast_order_ne_zero hk.1 hk.2))
  · exact absurd h (by simp)

/-- The points of the nonces 1 and 2 have different abscissas modulo the order, neither zero. -/
theorem exists_small_nonces : ∃ x₁ y₁ x₂ y₂,
    (Point.mul 1 Point.generator).toAffine? = some (x₁, y₁) ∧
    (Point.mul 2 Point.generator).toAffine? = some (x₂, y₂) ∧
    x₁ % groupOrder ≠ 0 ∧ x₂ % groupOrder ≠ 0 ∧ x₁ % groupOrder ≠ x₂ % groupOrder :=
  ⟨0x79be667ef9dcbbac55a06295ce870b07029bfcdb2dce28d959f2815b16f81798,
   0x483ada7726a3c4655da4fbfc0e1108a8fd17b448a68554199c47d08ffb10d4b8,
   0xc6047f9441ed7d6d3045406e95c07cd85c778e4b8cef3ca7abac09b95c709ee5,
   0x1ae168fea63dc339a3c58419466ceaeef7f632653266d0e1236431a950cfe52a, by decide +kernel⟩

/-- One of the nonces 1 and 2 is usable. -/
theorem exists_signWith? (d : SecretKey) (z : ℕ) :
    ∃ k sig, (signWith? d.val z 1 <|> signWith? d.val z 2) = some sig ∧
      signWith? d.val z k = some sig := by
  cases h₁ : signWith? d.val z 1 with
  | some sig => exact ⟨1, sig, rfl, h₁⟩
  | none =>
    cases h₂ : signWith? d.val z 2 with
    | some sig => exact ⟨2, sig, rfl, h₂⟩
    | none =>
      obtain ⟨x₁, _, x₂, _, hone, htwo, hx₁, hx₂, hne⟩ := exists_small_nonces
      have hz₁ := eq_zero_of_signWith?_eq_none (by decide +kernel) hone hx₁ h₁
      have hz₂ := eq_zero_of_signWith?_eq_none (by decide +kernel) htwo hx₂ h₂
      have hmul : (x₁ - x₂ : Fn) * d.val = 0 := by linear_combination hz₁ - hz₂
      have hsub := (mul_eq_zero.1 hmul).resolve_right (cast_order_ne_zero d.pos d.lt_order)
      rw [sub_eq_zero, ZMod.natCast_eq_natCast_iff'] at hsub
      exact absurd hsub hne

/-- Honest signatures verify. -/
theorem verify_sign (d : SecretKey) (m : Hash256) : verify (publicKey d) m (sign d m) = true := by
  have hsign : ∃ k, signWith? d.val m.toNat k = some (sign d m) := by
    rw [sign]
    cases hfrom : signFrom? d.val m.toNat 100 (.seeded d m) with
    | some sig => exact signWith?_of_signFrom? hfrom
    | none =>
      obtain ⟨k, sig, hsome, hk⟩ := exists_signWith? d m.toNat
      refine ⟨k, ?_⟩
      rw [hk]
      simp only [Option.orElse_eq_orElse, Option.orElse_none] at hsome ⊢
      rw [hsome]
      rfl
  obtain ⟨k, hk⟩ := hsign
  exact verify_of_signWith? hk

end Ecdsa

/-! ## Schnorr signatures -/

theorem toNatBE_be256 {n : ℕ} (h : n < 2 ^ 256) : Bytes.toNatBE (Bytes.be256 n).toBytes = n :=
  Bytes.toNatBE_ofNatBE (by simpa using h)

namespace Schnorr

/-- The secret that `evenSecret` picks has the same abscissa and an even ordinate. -/
theorem evenSecret_spec {d x y : ℕ} (hd : d < groupOrder)
    (h : coordinates? (scalar d) = some (x, y)) :
    (evenSecret d).2 = x ∧ ∃ y', coordinates? (scalar (evenSecret d).1) = some (x, y') ∧
      y' % 2 = 0 := by
  rw [evenSecret, (represents_mul_generator (hd.trans order_lt)).toAffine?, h]
  refine ⟨rfl, ?_⟩
  dsimp only
  split
  · next heven => exact ⟨y, h, heven⟩
  · next hodd =>
    have hlt := (coordinates?_lt h).2
    have hprime : fieldPrime % 2 = 1 := by decide +kernel
    rw [Nat.cast_sub hd.le, ZMod.natCast_self, zero_sub, map_neg]
    exact ⟨_, coordinates?_neg h, by omega⟩

theorem nonce_pos (d : ℕ) (px : Bytes) (m : Hash256) : 0 < nonce d px m := by
  unfold nonce
  dsimp only
  split <;> omega

theorem nonce_lt (d : ℕ) (px : Bytes) (m : Hash256) : nonce d px m < groupOrder := by
  unfold nonce
  dsimp only
  split
  · decide
  · exact Nat.mod_lt _ (by decide)

theorem challenge_lt (rx px : Bytes) (m : Hash256) : challenge rx px m < 2 ^ 256 :=
  mod_order_lt _

/-- A response `k + e * d` to the challenge `e` verifies for the key of `d`, if the nonce point has
an even ordinate. -/
theorem verify_response {key : XOnlyKey} {m : Hash256} {d k r y : ℕ}
    (hkey : keyPoint key.toEven = scalar d) (hr : coordinates? (scalar k) = some (r, y))
    (hy : y % 2 = 0) {sig : SchnorrSignature}
    (hsig : sig.toBytes = (Bytes.be256 r).toBytes ++ (Bytes.be256
      ((k + challenge (Bytes.be256 r).toBytes key.toBytes m * d) % groupOrder)).toBytes) :
    verify key m sig = true := by
  have hrlt := (coordinates?_lt hr).1
  have htake : sig.toBytes.take 32 = (Bytes.be256 r).toBytes := by
    rw [hsig, List.take_left' (FixedBytes.length_toBytes _)]
  have hdrop := congrArg (List.drop 32) hsig
  rw [List.drop_left' (FixedBytes.length_toBytes _)] at hdrop
  generalize he : challenge (Bytes.be256 r).toBytes key.toBytes m = e at hdrop
  have helt : e < 2 ^ 256 := he ▸ challenge_lt _ _ _
  have hrep := (represents_mul_generator (mod_order_lt (k + e * d))).add
    ((represents_ofPublicKey key.toEven).mul helt).neg
  rw [hkey, nsmul_scalar, ← map_neg, ← map_add, ZMod.natCast_mod] at hrep
  have hnumber : ((k + e * d : ℕ) : Fn) + -(e * d) = k := by
    push_cast
    ring
  rw [hnumber] at hrep
  have hrange : ¬(fieldPrime ≤ r ∨ groupOrder ≤ (k + e * d) % groupOrder) := by
    have := Nat.mod_lt (k + e * d) (show 0 < groupOrder by decide)
    omega
  have hr256 : r < 2 ^ 256 := hrlt.trans (by decide +kernel)
  simp only [verify, htake, hdrop, toNatBE_be256 hr256, toNatBE_be256 (mod_order_lt _), he,
    if_neg hrange, hrep.toAffine?, hr, hy, beq_self_eq_true, Bool.and_self]

/-- Honest signatures verify. -/
theorem verify_sign (key : SecretKey) (m : Hash256) :
    verify (publicKey key).toXOnly m (sign key m) = true := by
  have hkey := coordinates?_keyPoint (publicKey key)
  rw [keyPoint_publicKey] at hkey
  obtain ⟨hx, y, hxy, hy⟩ := evenSecret_spec key.lt_order hkey
  have heven : keyPoint (publicKey key).toXOnly.toEven = scalar (evenSecret key.val).1 :=
    keyPoint_of_coordinates hxy (by simp [XOnlyKey.toEven, hy])
  have hlt := nonce_lt (evenSecret key.val).1 (Bytes.be256 (publicKey key).x).toBytes m
  obtain ⟨nonceKey, hnonce⟩ := exists_keyPoint (scalar_ne_zero (nonce_pos _ _ _) hlt)
  have hr := coordinates?_keyPoint nonceKey
  rw [hnonce] at hr
  obtain ⟨hrx, y', hry, hy'⟩ := evenSecret_spec hlt hr
  refine verify_response heven hry hy' ?_
  simp only [sign, hx, hrx]
  rfl

end Schnorr

end Supersede.Secp256k1

namespace Supersede

/-- The scheme that runs has the properties the protocol relies on. -/
theorem lawful_secp256k1 : @LawfulKeyScheme .secp256k1 := by
  let _ := KeyScheme.secp256k1
  constructor
  · intro k m
    unfold SecretKey.publicKey
    exact Secp256k1.Ecdsa.verify_sign k m
  · intro k m
    unfold SecretKey.xOnlyKey SecretKey.publicKey
    exact Secp256k1.Schnorr.verify_sign k m
  · intro k t ht
    unfold SecretKey.publicKey
    exact Secp256k1.shift?_publicKey k ht

end Supersede
