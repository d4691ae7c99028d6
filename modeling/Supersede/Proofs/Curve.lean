import Mathlib
import Supersede.Secp256k1.Group
import Supersede.Proofs.Field

/-!
# Points in Jacobian coordinates and the group of the curve

The formulas for points compute in the group of the curve `y² = x³ + 7`. A triple *represents* a
point of the group (`Point.Represents`) when it has third coordinate zero and the point is the
neutral element, or its quotients by powers of the third coordinate are the point's coordinates.

* `Point.Represents.add`, `Point.Represents.mul`: sums and multiples of triples represent sums and
  multiples of points.
* `Point.Represents.toAffine?`: the affine coordinates are those of the represented point.
* `exists_keyPoint`, `Point.Represents.toPublicKey?`: the points of public keys are those other
  than the neutral element, and a key is found again from its point.
* `scalar_injective`: the generator has order `groupOrder`, so its multiples are the numbers
  modulo it.
-/

namespace Supersede.Secp256k1

open WeierstrassCurve

/-! ## The group -/

/-- The curve `y² = x³ + 7`. -/
def curve : Affine Fp := ⟨0, 0, 0, 0, 7⟩

/-- The group of the curve. -/
abbrev CurveGroup := curve.Point

theorem cast_ne_zero {n : ℕ} (h : n % fieldPrime ≠ 0) : (n : Fp) ≠ 0 := by
  rwa [Ne, ZMod.natCast_eq_zero_iff, Nat.dvd_iff_mod_eq_zero]

theorem two_ne_zero_Fp : (2 : Fp) ≠ 0 := by
  exact_mod_cast cast_ne_zero (n := 2) (by decide +kernel)

theorem curve_nonsingular_iff {x y : Fp} : curve.Nonsingular x y ↔ y ^ 2 = x ^ 3 + 7 := by
  have hΔ : curve.Δ ≠ 0 := by
    have h : ((21168 : ℕ) : Fp) ≠ 0 := cast_ne_zero (by decide +kernel)
    have hΔ : curve.Δ = -((21168 : ℕ) : Fp) := by
      simp only [WeierstrassCurve.Δ, WeierstrassCurve.b₂, WeierstrassCurve.b₄,
        WeierstrassCurve.b₆, WeierstrassCurve.b₈, curve]
      push_cast
      ring
    rw [hΔ]
    exact neg_ne_zero.2 h
  rw [← Affine.equation_iff_nonsingular_of_Δ_ne_zero hΔ, Affine.equation_iff]
  simp [curve]

theorem curve_negY (x y : Fp) : curve.negY x y = -y := by simp [Affine.negY, curve]

theorem curve_addX (x₁ x₂ ℓ : Fp) : curve.addX x₁ x₂ ℓ = ℓ ^ 2 - x₁ - x₂ := by
  simp [Affine.addX, curve]

theorem curve_addY (x₁ x₂ y₁ ℓ : Fp) :
    curve.addY x₁ x₂ y₁ ℓ = ℓ * (x₁ - (ℓ ^ 2 - x₁ - x₂)) - y₁ := by
  rw [Affine.addY, curve_negY, Affine.negAddY, curve_addX]
  ring

/-! ## Representation -/

namespace Point

/-- The point of the group that a triple stands for. -/
inductive Represents (a : Point) : CurveGroup → Prop
  | infinity (hz : a.z = 0) : Represents a 0
  | finite {x y : Fp} (h : curve.Nonsingular x y) (hz : (a.z : Fp) ≠ 0)
      (hx : (a.x : Fp) = x * (a.z : Fp) ^ 2) (hy : (a.y : Fp) = y * (a.z : Fp) ^ 3) :
      Represents a (.some x y h)

namespace Represents

theorem z_ne_zero {a : Point} (hz : (a.z : Fp) ≠ 0) : a.z ≠ 0 := fun h => hz (by simp [h])

/-- Numbers are congruent when their quotients by a common denominator are equal. -/
theorem mod_eq_iff {u v : ℕ} {x y w : Fp} (hw : w ≠ 0) (hu : (u : Fp) = x * w)
    (hv : (v : Fp) = y * w) : u % fieldPrime = v % fieldPrime ↔ x = y := by
  rw [← ZMod.natCast_eq_natCast_iff', hu, hv]
  exact mul_left_inj' hw

theorem double {a : Point} {P : CurveGroup} (ha : a.Represents P) :
    a.double.Represents (P + P) := by
  cases ha with
  | infinity hz =>
    rw [Point.double, if_pos (by simp [hz]), add_zero]
    exact infinity hz
  | @finite x y h hz hx hy =>
    rw [Point.double, if_neg (by simpa using z_ne_zero hz)]
    by_cases hy0 : y = 0
    · -- The tangent is vertical.
      have hneg : y = curve.negY x y := by rw [curve_negY, hy0, neg_zero]
      rw [Affine.Point.add_self_of_Y_eq hneg]
      refine infinity ?_
      have hcast : ((2 * a.y * a.z : ℕ) : Fp) = 0 := by simp [hy, hy0]
      rwa [ZMod.natCast_eq_zero_iff, Nat.dvd_iff_mod_eq_zero] at hcast
    · have hneg : y ≠ curve.negY x y := by
        rw [curve_negY, Ne, eq_neg_iff_add_eq_zero, ← two_mul]
        exact mul_ne_zero two_ne_zero_Fp hy0
      have hslope : curve.slope x x y y = 3 * x ^ 2 / (2 * y) := by
        rw [Affine.slope_of_Y_ne rfl hneg, curve_negY]
        simp only [curve]
        ring
      rw [Affine.Point.add_self_of_Y_ne hneg]
      have h2 := two_ne_zero_Fp
      refine finite _ ?_ ?_ ?_
      · simp [hy, h2, hy0, hz]
      · simp only [cast_subMod, ZMod.natCast_mod, Nat.cast_mul, Nat.cast_ofNat, curve_addX, hslope,
          hx, hy]
        field_simp
        ring
      · simp only [cast_subMod, ZMod.natCast_mod, Nat.cast_mul, Nat.cast_ofNat, curve_addY, hslope,
          hx, hy]
        field_simp
        ring

theorem add {a b : Point} {P Q : CurveGroup} (ha : a.Represents P) (hb : b.Represents Q) :
    (a.add b).Represents (P + Q) := by
  cases ha with
  | infinity hz =>
    rw [Point.add, if_pos (by simp [hz]), zero_add]
    exact hb
  | @finite x₁ y₁ h₁ hz₁ hx₁ hy₁ =>
    cases hb with
    | infinity hz =>
      rw [Point.add, if_neg (by simpa using z_ne_zero hz₁), if_pos (by simp [hz]), add_zero]
      exact finite h₁ hz₁ hx₁ hy₁
    | @finite x₂ y₂ h₂ hz₂ hx₂ hy₂ =>
      -- Abscissas and ordinates are compared over a common denominator.
      have hu : (a.x * (b.z * b.z % fieldPrime) % fieldPrime =
          b.x * (a.z * a.z % fieldPrime) % fieldPrime) ↔ x₁ = x₂ := by
        refine mod_eq_iff (mul_ne_zero (pow_ne_zero 2 hz₁) (pow_ne_zero 2 hz₂)) ?_ ?_
        · simp only [Nat.cast_mul, ZMod.natCast_mod, hx₁]
          ring
        · simp only [Nat.cast_mul, ZMod.natCast_mod, hx₂]
          ring
      have hs : (a.y * (b.z * b.z % fieldPrime * b.z % fieldPrime) % fieldPrime =
          b.y * (a.z * a.z % fieldPrime * a.z % fieldPrime) % fieldPrime) ↔ y₁ = y₂ := by
        refine mod_eq_iff (mul_ne_zero (pow_ne_zero 3 hz₁) (pow_ne_zero 3 hz₂)) ?_ ?_
        · simp only [Nat.cast_mul, ZMod.natCast_mod, hy₁]
          ring
        · simp only [Nat.cast_mul, ZMod.natCast_mod, hy₂]
          ring
      rw [Point.add, if_neg (by simpa using z_ne_zero hz₁), if_neg (by simpa using z_ne_zero hz₂)]
      simp only [beq_iff_eq, hu, hs]
      split_ifs with hxeq hyeq
      · subst hxeq hyeq
        exact double (finite h₁ hz₁ hx₁ hy₁)
      · -- Points with one abscissa that are not equal are opposite.
        have hneg : y₁ = curve.negY x₂ y₂ :=
          (Affine.Y_eq_of_X_eq h₁.left h₂.left hxeq).resolve_left hyeq
        rw [Affine.Point.add_of_Y_eq hxeq hneg]
        exact infinity rfl
      · have hdiff : x₁ - x₂ ≠ 0 := sub_ne_zero.2 hxeq
        have hz : (a.z * b.z % fieldPrime * subMod fieldPrime (b.x * (a.z * a.z % fieldPrime) %
            fieldPrime) (a.x * (b.z * b.z % fieldPrime) % fieldPrime) % fieldPrime : ℕ) =
            (a.z * b.z : Fp) ^ 3 * -(x₁ - x₂) := by
          simp only [cast_subMod, ZMod.natCast_mod, Nat.cast_mul, hx₁, hx₂]
          ring
        rw [Affine.Point.add_of_X_ne hxeq]
        refine finite _ ?_ ?_ ?_
        · rw [hz]
          exact mul_ne_zero (pow_ne_zero 3 (mul_ne_zero hz₁ hz₂)) (neg_ne_zero.2 hdiff)
        · simp only [cast_subMod, ZMod.natCast_mod, Nat.cast_mul, Nat.cast_add, Nat.cast_ofNat,
            curve_addX, Affine.slope_of_X_ne hxeq, hx₁, hx₂, hy₁, hy₂]
          field_simp
          ring
        · simp only [cast_subMod, ZMod.natCast_mod, Nat.cast_mul, Nat.cast_add, Nat.cast_ofNat,
            curve_addY, Affine.slope_of_X_ne hxeq, hx₁, hx₂, hy₁, hy₂]
          field_simp
          ring

theorem neg {a : Point} {P : CurveGroup} (ha : a.Represents P) : a.neg.Represents (-P) := by
  cases ha with
  | infinity hz =>
    rw [neg_zero]
    exact infinity hz
  | @finite x y h hz hx hy =>
    rw [Affine.Point.neg_some]
    refine finite _ hz hx ?_
    rw [curve_negY, Point.neg, cast_subMod, Nat.cast_zero, hy]
    ring

theorem mul {a : Point} {P : CurveGroup} (ha : a.Represents P) {k : ℕ} (hk : k < 2 ^ 256) :
    (Point.mul k a).Represents (k • P) := by
  unfold Point.mul
  refine bits_induction (R := fun (k : ℕ) (acc : Point) => acc.Represents (k • P)) ?_ ?_ hk
  · rw [zero_nsmul]
    exact infinity rfl
  · intro k acc bit hacc
    have htwice := hacc.double
    rw [← two_nsmul, smul_smul] at htwice
    cases bit
    · exact htwice
    · have hsum := htwice.add ha
      rwa [← succ_nsmul] at hsum

theorem eq_zero {a : Point} {P : CurveGroup} (ha : a.Represents P) (hz : a.z = 0) : P = 0 := by
  cases ha with
  | infinity => rfl
  | finite _ hz' => exact absurd hz (z_ne_zero hz')

end Represents

end Point

/-! ## Affine coordinates -/

/-- The coordinates of a point as numbers, unless it is the neutral element. -/
def coordinates? : CurveGroup → Option (ℕ × ℕ)
  | .zero => none
  | .some x y _ => some (x.val, y.val)

theorem Point.Represents.toAffine? {a : Point} {P : CurveGroup} (ha : a.Represents P) :
    a.toAffine? = coordinates? P := by
  cases ha with
  | infinity hz =>
    rw [Point.toAffine?, if_pos (by simp [hz])]
    rfl
  | @finite x y h hz hx hy =>
    have hinv : (invMod fieldPrime a.z : Fp) = (a.z : Fp)⁻¹ := cast_invMod (by decide +kernel) hz
    have hxval : a.x * (invMod fieldPrime a.z * invMod fieldPrime a.z % fieldPrime) % fieldPrime =
        x.val := by
      rw [← ZMod.val_natCast]
      simp only [Nat.cast_mul, ZMod.natCast_mod, hinv, hx]
      field_simp
    have hyval : a.y * (invMod fieldPrime a.z * invMod fieldPrime a.z % fieldPrime *
        invMod fieldPrime a.z % fieldPrime) % fieldPrime = y.val := by
      rw [← ZMod.val_natCast]
      simp only [Nat.cast_mul, ZMod.natCast_mod, hinv, hy]
      field_simp
    simp only [Point.toAffine?, beq_iff_eq, z_ne_zero hz, if_false, hxval, hyval, coordinates?]

theorem coordinates?_lt {P : CurveGroup} {x y : ℕ} (h : coordinates? P = some (x, y)) :
    x < fieldPrime ∧ y < fieldPrime := by
  match P with
  | .some a b _ =>
    obtain ⟨rfl, rfl⟩ : a.val = x ∧ b.val = y := by simpa [coordinates?] using h
    exact ⟨a.val_lt, b.val_lt⟩

/-- Minus seven is not a cube, so no point has ordinate zero. -/
theorem ordinate_ne_zero {x y : Fp} (h : y ^ 2 = x ^ 3 + 7) : y ≠ 0 := by
  rintro rfl
  have hcube : x ^ 3 = ((fieldPrime - 7 : ℕ) : Fp) := by
    rw [Nat.cast_sub (by decide +kernel), ZMod.natCast_self, zero_sub, eq_neg_iff_add_eq_zero]
    simpa using h.symm
  have hx : x ≠ 0 := by
    rintro rfl
    exact cast_ne_zero (n := fieldPrime - 7) (by decide +kernel) (by simpa using hcube.symm)
  -- The power that is one at every cube is not one here.
  have hexp : 3 * ((fieldPrime - 1) / 3) = fieldPrime - 1 := by decide +kernel
  have hone : (power fieldPrime 256 (fieldPrime - 7) ((fieldPrime - 1) / 3) : Fp) = (1 : ℕ) := by
    rw [cast_power _ (by decide +kernel), ← hcube, ← pow_mul, hexp, Nat.cast_one,
      ZMod.pow_card_sub_one_eq_one hx]
  rw [ZMod.natCast_eq_natCast_iff'] at hone
  exact absurd hone (by decide +kernel)

theorem coordinates?_neg {P : CurveGroup} {x y : ℕ} (h : coordinates? P = some (x, y)) :
    coordinates? (-P) = some (x, fieldPrime - y) := by
  match P with
  | .some a b hab =>
    obtain ⟨rfl, rfl⟩ : a.val = x ∧ b.val = y := by simpa [coordinates?] using h
    have hb : b ≠ 0 := ordinate_ne_zero (curve_nonsingular_iff.1 hab)
    have : NeZero b := ⟨hb⟩
    rw [Affine.Point.neg_some, coordinates?, curve_negY, ZMod.val_neg_of_ne_zero]

/-! ## Public keys -/

theorem sq_squareRoot {x : ℕ} (hx : isAbscissa x = true) :
    (squareRoot (curveRhs x) : Fp) ^ 2 = (x : Fp) ^ 3 + 7 := by
  simp only [isAbscissa, Bool.and_eq_true, beq_iff_eq] at hx
  rw [← cast_curveRhs, sq, ← Nat.cast_mul, ← ZMod.natCast_mod, hx.2]

theorem squareRoot_pos {x : ℕ} (hx : isAbscissa x = true) : 0 < squareRoot (curveRhs x) :=
  Nat.pos_of_ne_zero fun h => ordinate_ne_zero (sq_squareRoot hx) (by simp [h])

theorem ordinate_lt {x : ℕ} (hx : isAbscissa x = true) (odd : Bool) :
    ordinate x odd < fieldPrime := by
  have hpos := squareRoot_pos hx
  have hlt := squareRoot_lt (curveRhs x)
  simp only [ordinate]
  split <;> omega

theorem odd_ordinate {x : ℕ} (hx : isAbscissa x = true) (odd : Bool) :
    (ordinate x odd % 2 == 1) = odd := by
  have hpos := squareRoot_pos hx
  have hlt := squareRoot_lt (curveRhs x)
  have hprime : fieldPrime % 2 = 1 := by decide +kernel
  simp only [ordinate]
  split
  · simp_all
  · cases odd <;> simp_all <;> omega

theorem nonsingular_ordinate {x : ℕ} (hx : isAbscissa x = true) (odd : Bool) :
    curve.Nonsingular (x : Fp) (ordinate x odd : Fp) := by
  rw [curve_nonsingular_iff, ← sq_squareRoot hx]
  simp only [ordinate]
  split
  · rfl
  · rw [Nat.cast_sub (squareRoot_lt _).le, ZMod.natCast_self, zero_sub, neg_sq]

/-- The point of a public key. -/
def keyPoint (k : PublicKey) : CurveGroup :=
  .some k.x (ordinate k.x k.odd) (nonsingular_ordinate k.valid k.odd)

theorem coordinates?_keyPoint (k : PublicKey) :
    coordinates? (keyPoint k) = some (k.x, ordinate k.x k.odd) := by
  have hx : k.x < fieldPrime := by
    have := k.valid
    simp only [isAbscissa, Bool.and_eq_true, decide_eq_true_eq] at this
    exact this.1
  rw [keyPoint, coordinates?, ZMod.val_cast_of_lt hx, ZMod.val_cast_of_lt (ordinate_lt k.valid _)]

theorem represents_ofPublicKey (k : PublicKey) : (Point.ofPublicKey k).Represents (keyPoint k) :=
  .finite _ (by simp [Point.ofPublicKey]) (by simp [Point.ofPublicKey])
    (by simp [Point.ofPublicKey])

theorem Point.Represents.toPublicKey? {a : Point} {k : PublicKey}
    (ha : a.Represents (keyPoint k)) : a.toPublicKey? = some k := by
  simp only [Point.toPublicKey?, ha.toAffine?, coordinates?_keyPoint, odd_ordinate k.valid,
    PublicKey.ofAbscissa?, k.valid, dite_true]

theorem Point.Represents.toPublicKey?_eq_none {a : Point} (ha : a.Represents 0) :
    a.toPublicKey? = none := by
  rw [Point.toPublicKey?, ha.toAffine?]
  rfl

/-- Every point but the neutral element is the point of a key. -/
theorem exists_keyPoint {P : CurveGroup} (h : P ≠ 0) : ∃ k, keyPoint k = P := by
  match P with
  | .zero => exact absurd rfl h
  | .some x y hxy =>
    rw [curve_nonsingular_iff] at hxy
    have hx : isAbscissa x.val = true := isAbscissa_of_eq x.val_lt (by simpa using hxy)
    have hy : ordinate x.val (y.val % 2 == 1) = y.val := ordinate_eq y.val_lt (by simpa using hxy)
    refine ⟨⟨y.val % 2 == 1, x.val, hx⟩, ?_⟩
    simp only [keyPoint, hy, ZMod.natCast_zmod_val]

/-- A point is the point of the key with its abscissa and the parity of its ordinate. -/
theorem keyPoint_of_coordinates {P : CurveGroup} {k : PublicKey} {y : ℕ}
    (h : coordinates? P = some (k.x, y)) (hodd : k.odd = (y % 2 == 1)) : keyPoint k = P := by
  have hP : P ≠ 0 := by
    rintro rfl
    exact Option.some_ne_none _ h.symm
  obtain ⟨⟨odd, x, hx⟩, rfl⟩ := exists_keyPoint hP
  obtain ⟨hxeq, hyeq⟩ : x = k.x ∧ ordinate x odd = y := by
    simpa [coordinates?_keyPoint] using h
  obtain ⟨kodd, kx, hk⟩ := k
  dsimp only at hxeq hodd
  subst hxeq
  rw [hodd, ← hyeq, odd_ordinate hx]

/-! ## Multiples of the generator -/

/-- The numbers modulo the group order. -/
abbrev Fn := ZMod groupOrder

theorem represents_generator : Point.generator.Represents (keyPoint generatorKey) := by
  have hsq : (Point.generator.y : Fp) ^ 2 = (Point.generator.x : Fp) ^ 3 + 7 := by
    rw [← cast_curveRhs, sq, ← Nat.cast_mul, ZMod.natCast_eq_natCast_iff']
    decide +kernel
  have hodd : generatorKey.odd = (Point.generator.y % 2 == 1) := by decide +kernel
  have hy : ordinate generatorKey.x generatorKey.odd = Point.generator.y := by
    rw [hodd]
    exact ordinate_eq (by decide +kernel) hsq
  refine .finite _ (by simp [Point.generator]) ?_ ?_
  · simp [Point.generator, generatorKey]
  · rw [hy]
    simp [Point.generator]

theorem groupOrder_nsmul : groupOrder • keyPoint generatorKey = 0 :=
  (represents_generator.mul (by decide +kernel)).eq_zero (by decide +kernel)

/-- The multiples of the generator. -/
def scalar : Fn →+ CurveGroup :=
  ZMod.lift groupOrder ⟨zmultiplesHom _ (keyPoint generatorKey), by
    simpa using groupOrder_nsmul⟩

theorem scalar_natCast (k : ℕ) : scalar k = k • keyPoint generatorKey := by
  have h := ZMod.lift_coe groupOrder
    ⟨zmultiplesHom CurveGroup (keyPoint generatorKey), by simpa using groupOrder_nsmul⟩ (k : ℤ)
  simpa [scalar] using h

theorem scalar_injective : Function.Injective scalar := by
  have horder : addOrderOf (keyPoint generatorKey) = groupOrder :=
    addOrderOf_eq_prime groupOrder_nsmul (Affine.Point.some_ne_zero _)
  refine (ZMod.lift_injective _).2 fun m hm => ?_
  rw [ZMod.intCast_zmod_eq_zero_iff_dvd, ← horder, addOrderOf_dvd_iff_zsmul_eq_zero]
  simpa using hm

theorem represents_mul_generator {k : ℕ} (hk : k < 2 ^ 256) :
    (Point.mul k Point.generator).Represents (scalar k) := by
  rw [scalar_natCast]
  exact represents_generator.mul hk

theorem cast_order_ne_zero {k : ℕ} (hpos : 0 < k) (hlt : k < groupOrder) : (k : Fn) ≠ 0 := by
  rw [Ne, ZMod.natCast_eq_zero_iff]
  exact Nat.not_dvd_of_pos_of_lt hpos hlt

theorem scalar_ne_zero {k : ℕ} (hpos : 0 < k) (hlt : k < groupOrder) : scalar k ≠ 0 := by
  rw [← map_zero scalar, scalar_injective.ne_iff]
  exact cast_order_ne_zero hpos hlt

/-- The point of a secret key's public key. -/
theorem keyPoint_publicKey (k : SecretKey) : keyPoint (publicKey k) = scalar k.val := by
  obtain ⟨key, hkey⟩ := exists_keyPoint (scalar_ne_zero k.pos k.lt_order)
  have hlt : k.val < 2 ^ 256 := k.lt_order.trans (by decide +kernel)
  have hrep := represents_mul_generator hlt
  rw [← hkey] at hrep
  rw [publicKey, hrep.toPublicKey?, Option.getD_some, hkey]

end Supersede.Secp256k1
