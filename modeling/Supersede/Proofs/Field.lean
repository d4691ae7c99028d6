import Mathlib
import Supersede.Secp256k1.Field

/-!
# The coordinate field and the group order

Numbers below a modulus stand for elements of `ZMod`. This module says what the arithmetic on them
computes there, and that both moduli of the curve are prime.

* `cast_powMod`, `cast_invMod`, `cast_subMod`: powers, inverses and differences.
* `prime_fieldPrime`, `prime_groupOrder`: by Lucas' test. A number `p` is prime if some element has
  order `p - 1`, for which it is enough to look at its powers by `(p - 1) / q`, where `q` runs
  over the prime factors of `p - 1`. These are certified in the same way before it.
* `isAbscissa_of_eq`, `ordinate_eq`: a point of the curve is found again from its abscissa and the
  parity of its ordinate.
-/

namespace Supersede.Secp256k1

/-! ## Binary digits -/

/-- Reads one more binary digit. -/
def shiftIn (n : ℕ) (bit : Bool) : ℕ := 2 * n + bit.toNat

theorem foldl_shiftIn_bits (w n acc : ℕ) :
    ((List.range w).map fun i => n.testBit (w - 1 - i)).foldl shiftIn acc =
      acc * 2 ^ w + n % 2 ^ w := by
  induction w generalizing acc with
  | zero => simp [Nat.mod_one]
  | succ w ih =>
    have htail : (List.range w).map ((fun i => n.testBit (w + 1 - 1 - i)) ∘ Nat.succ) =
        (List.range w).map fun i => n.testBit (w - 1 - i) :=
      List.map_congr_left fun i _ => congrArg n.testBit (by simp; omega)
    have hdigit : n % 2 ^ (w + 1) = (n.testBit w).toNat * 2 ^ w + n % 2 ^ w := by
      rw [Nat.toNat_testBit, Nat.mod_pow_succ]
      ring
    rw [List.range_succ_eq_map, List.map_cons, List.map_map, htail, List.foldl_cons, ih, hdigit,
      shiftIn, Nat.add_sub_cancel, Nat.sub_zero]
    ring

theorem foldl_shiftIn (n : ℕ) (h : n < 2 ^ 256) : (bits n).foldl shiftIn 0 = n := by
  rw [bits, show (255 : ℕ) = 256 - 1 from rfl, foldl_shiftIn_bits, Nat.mod_eq_of_lt h]
  simp

/-- What holds at zero and is kept when a digit is read holds at a number of 256 digits. -/
theorem bits_induction {α : Type} {f : α → Bool → α} {R : ℕ → α → Prop} {a : α} (h0 : R 0 a)
    (hstep : ∀ n a bit, R n a → R (shiftIn n bit) (f a bit)) {n : ℕ} (hn : n < 2 ^ 256) :
    R n ((bits n).foldl f a) := by
  have hfold : ∀ (l : List Bool) m a, R m a → R (l.foldl shiftIn m) (l.foldl f a) := by
    intro l
    induction l with
    | nil => exact fun _ _ h => h
    | cons bit l ih => exact fun m a h => ih _ _ (hstep m a bit h)
  have := hfold (bits n) 0 a h0
  rwa [foldl_shiftIn n hn] at this

/-! ## Powers, inverses and differences -/

theorem cast_powMod (m base : ℕ) {e : ℕ} (he : e < 2 ^ 256) :
    (powMod m base e : ZMod m) = (base : ZMod m) ^ e := by
  unfold powMod
  refine bits_induction (R := fun (e acc : ℕ) => (acc : ZMod m) = (base : ZMod m) ^ e)
    (by rw [Nat.cast_one, pow_zero]) (fun n acc bit h => ?_) he
  cases bit
  · simp [shiftIn, h, two_mul, pow_add]
  · simp [shiftIn, h, two_mul, pow_add]

theorem powMod_lt {m : ℕ} (hm : 1 < m) (base e : ℕ) (he : e < 2 ^ 256) : powMod m base e < m := by
  unfold powMod
  refine bits_induction (R := fun _ acc => acc < m) hm (fun n acc bit _ => ?_) he
  cases bit
  · exact Nat.mod_lt _ (by omega)
  · exact Nat.mod_lt _ (by omega)

theorem cast_subMod (m a b : ℕ) [NeZero m] : (subMod m a b : ZMod m) = a - b := by
  have hle : b % m ≤ m := (Nat.mod_lt _ (NeZero.pos m)).le
  rw [subMod, ZMod.natCast_mod, Nat.cast_add, Nat.cast_sub hle, ZMod.natCast_self, ZMod.natCast_mod]
  ring

/-! ## Primality -/

/-- The power of `a` by `n`, with the exponent halved at most `fuel` times. -/
def power (m : ℕ) : (fuel a n : ℕ) → ℕ
  | 0, _, _ => 1
  | fuel + 1, a, n =>
    if n = 0 then 1
    else
      let rest := power m fuel (a * a % m) (n / 2)
      if n % 2 = 1 then rest * a % m else rest

theorem cast_power (m : ℕ) {fuel a n : ℕ} (hn : n < 2 ^ fuel) :
    (power m fuel a n : ZMod m) = (a : ZMod m) ^ n := by
  induction fuel generalizing a n with
  | zero => simp [power, Nat.lt_one_iff.1 hn]
  | succ fuel ih =>
    have hhalf : n / 2 < 2 ^ fuel := by omega
    have hrest : (power m fuel (a * a % m) (n / 2) : ZMod m) = (a : ZMod m) ^ (2 * (n / 2)) := by
      rw [ih hhalf, ZMod.natCast_mod, Nat.cast_mul, ← sq, ← pow_mul]
    rw [power]
    split_ifs with hzero hodd
    · simp [hzero]
    · rw [ZMod.natCast_mod, Nat.cast_mul, hrest, ← pow_succ]
      congr 1
      omega
    · rw [hrest]
      congr 1
      omega

theorem power_lt {m : ℕ} (hm : 1 < m) (fuel a n : ℕ) : power m fuel a n < m := by
  induction fuel generalizing a n with
  | zero => exact hm
  | succ fuel ih =>
    rw [power]
    split_ifs
    · exact hm
    · exact Nat.mod_lt _ (by omega)
    · exact ih _ _

/-- A number, an element said to generate the units modulo it, and the prime factors of the number
less one, each as often as it divides. -/
structure Certificate where
  number : ℕ
  generator : ℕ
  factors : List ℕ

/-- Lucas' test. -/
def Certificate.passes (c : Certificate) : Bool :=
  1 < c.number && c.number ≤ 2 ^ 256 && c.factors.prod == c.number - 1 &&
    power c.number 256 c.generator (c.number - 1) == 1 &&
    c.factors.all fun q => power c.number 256 c.generator ((c.number - 1) / q) != 1

theorem Certificate.prime {c : Certificate} (h : c.passes = true)
    (hfactors : ∀ q ∈ c.factors, q.Prime) : c.number.Prime := by
  simp only [passes, Bool.and_eq_true, decide_eq_true_eq, beq_iff_eq, List.all_eq_true,
    bne_iff_ne] at h
  obtain ⟨⟨⟨⟨hone, hle⟩, hprod⟩, hfull⟩, hpart⟩ := h
  have hlt : c.number - 1 < 2 ^ 256 := by omega
  refine lucas_primality c.number (c.generator : ZMod c.number) ?_ fun q hq hdvd heq => ?_
  · rw [← cast_power _ hlt, hfull, Nat.cast_one]
  · have hmem : q ∈ c.factors := by
      rw [← hprod] at hdvd
      exact mem_list_primes_of_dvd_prod hq.prime (fun q hq => (hfactors q hq).prime) hdvd
    have hlt' : (c.number - 1) / q < 2 ^ 256 := (Nat.div_le_self _ _).trans_lt hlt
    have hcast : (power c.number 256 c.generator ((c.number - 1) / q) : ZMod c.number) =
        (1 : ℕ) := by
      rw [cast_power _ hlt', heq, Nat.cast_one]
    rw [ZMod.natCast_eq_natCast_iff', Nat.mod_eq_of_lt (power_lt hone _ _ _),
      Nat.mod_eq_of_lt hone] at hcast
    exact hpart q hmem hcast

/-- Whether the factors of each certificate are known before it, and all certificates pass. -/
def passAll : (known : List ℕ) → List Certificate → Bool
  | _, [] => true
  | known, c :: cs =>
    c.factors.all (known.contains ·) && c.passes && passAll (c.number :: known) cs

theorem prime_of_passAll {known : List ℕ} {cs : List Certificate}
    (hknown : ∀ q ∈ known, q.Prime) (h : passAll known cs = true) :
    ∀ c ∈ cs, c.number.Prime := by
  induction cs generalizing known with
  | nil => exact fun c hc => absurd hc List.not_mem_nil
  | cons c cs ih =>
    simp only [passAll, Bool.and_eq_true, List.all_eq_true, List.contains_iff_mem] at h
    obtain ⟨⟨hfactors, hpasses⟩, hrest⟩ := h
    have hprime : c.number.Prime := Certificate.prime hpasses fun q hq => hknown q (hfactors q hq)
    have hknown' : ∀ q ∈ c.number :: known, q.Prime := by
      simpa using ⟨hprime, hknown⟩
    simpa using ⟨hprime, ih hknown' hrest⟩

/-- The factors that are small enough for trial division. -/
def smallPrimes : List ℕ :=
  [2, 3, 5, 7, 11, 17, 19, 29, 31, 41, 53, 59, 97, 109, 113, 149, 293, 461, 631, 797, 971, 1373,
    1627, 1871, 2011, 2621, 2657, 2731, 4051, 4423, 5323, 7723, 9349, 13441, 16699, 20113, 24809,
    28181, 41201, 85831, 96557]

theorem prime_of_mem_smallPrimes : ∀ q ∈ smallPrimes, q.Prime := by
  simp only [smallPrimes, List.forall_mem_cons]
  norm_num

/-- The certificates of the field prime and the group order, after those of their factors. -/
def certificates : List Certificate :=
  [⟨1206781, 10, [2, 2, 3, 5, 20113]⟩,
   ⟨7240687, 3, [2, 3, 1206781]⟩,
   ⟨107590001, 3, [2, 2, 2, 2, 5, 5, 5, 5, 7, 29, 53]⟩,
   ⟨255515944373312847190720520512484175977, 3, [2, 2, 2, 7, 7, 11, 1627, 2657, 4423, 41201,
     96557, 7240687, 107590001]⟩,
   ⟨13331831, 13, [2, 5, 971, 1373]⟩,
   ⟨173378833005251801, 6, [2, 2, 2, 5, 5, 2621, 24809, 13331831]⟩,
   ⟨22149492674086928081353, 5, [2, 2, 2, 3, 5323, 173378833005251801]⟩,
   ⟨132896956044521568488119, 6, [2, 3, 22149492674086928081353]⟩,
   ⟨205115282021455665897114700593932402728804164701536103180137503955397371, 10, [2, 3, 5, 29,
     29, 31, 7723, 132896956044521568488119, 255515944373312847190720520512484175977]⟩,
   ⟨fieldPrime, 3, [2, 3, 7, 13441,
     205115282021455665897114700593932402728804164701536103180137503955397371]⟩,
   ⟨44706919, 6, [2, 3, 797, 9349]⟩,
   ⟨120233, 3, [2, 2, 2, 7, 19, 113]⟩,
   ⟨174723607534414371449, 3, [2, 2, 2, 17, 59, 4051, 120233, 44706919]⟩,
   ⟨4681609, 23, [2, 2, 2, 3, 97, 2011]⟩,
   ⟨107361793816595537, 3, [2, 2, 2, 2, 16699, 85831, 4681609]⟩,
   ⟨305873, 3, [2, 2, 2, 2, 7, 2731]⟩,
   ⟨1627771, 3, [2, 3, 5, 29, 1871]⟩,
   ⟨297159362677, 2, [2, 2, 3, 3, 11, 461, 1627771]⟩,
   ⟨545358713, 5, [2, 2, 2, 41, 59, 28181]⟩,
   ⟨29047611873442575647497758179, 2, [2, 293, 305873, 545358713, 297159362677]⟩,
   ⟨341948486974166000522343609283189, 2, [2, 2, 3, 3, 3, 109, 29047611873442575647497758179]⟩,
   ⟨groupOrder, 7, [2, 2, 2, 2, 2, 2, 3, 149, 631, 107361793816595537, 174723607534414371449,
     341948486974166000522343609283189]⟩]

theorem prime_of_mem_certificates {p : ℕ} (h : p ∈ certificates.map (·.number)) : p.Prime := by
  have hpass : passAll smallPrimes certificates = true := by decide +kernel
  obtain ⟨c, hc, rfl⟩ := List.mem_map.1 h
  exact prime_of_passAll prime_of_mem_smallPrimes hpass c hc

theorem prime_fieldPrime : fieldPrime.Prime := prime_of_mem_certificates (by decide +kernel)

theorem prime_groupOrder : groupOrder.Prime := prime_of_mem_certificates (by decide +kernel)

instance : Fact fieldPrime.Prime := ⟨prime_fieldPrime⟩

instance : Fact groupOrder.Prime := ⟨prime_groupOrder⟩

/-! ## Inverses and roots -/

theorem cast_invMod {m : ℕ} [Fact m.Prime] (hm : m < 2 ^ 256) {a : ℕ} (ha : (a : ZMod m) ≠ 0) :
    (invMod m a : ZMod m) = (a : ZMod m)⁻¹ := by
  have htwo : 2 ≤ m := (Fact.out : m.Prime).two_le
  have hexp : m - 2 + 1 = m - 1 := by omega
  rw [invMod, cast_powMod m a (by omega)]
  refine eq_inv_of_mul_eq_one_left ?_
  rw [← pow_succ, hexp, ZMod.pow_card_sub_one_eq_one ha]

/-- The coordinate field. -/
abbrev Fp := ZMod fieldPrime

theorem cast_curveRhs (x : ℕ) : (curveRhs x : Fp) = (x : Fp) ^ 3 + 7 := by
  simp only [curveRhs, ZMod.natCast_mod, Nat.cast_add, Nat.cast_mul, Nat.cast_ofNat]
  ring

theorem squareRoot_lt (a : ℕ) : squareRoot a < fieldPrime :=
  powMod_lt (by decide +kernel) _ _ (by decide +kernel)

/-- The root of a square is one of its two roots. -/
theorem cast_squareRoot {a : ℕ} {y : Fp} (h : (a : Fp) = y ^ 2) :
    (squareRoot a : Fp) = y ∨ (squareRoot a : Fp) = -y := by
  have hexp : 2 * ((fieldPrime + 1) / 4 * 2) = fieldPrime + 1 := by decide +kernel
  refine sq_eq_sq_iff_eq_or_eq_neg.1 ?_
  rw [squareRoot, cast_powMod _ _ (by decide +kernel), h, ← pow_mul, ← pow_mul, hexp, pow_succ,
    ZMod.pow_card, sq]

/-- The abscissa of a point of the curve is recognised. -/
theorem isAbscissa_of_eq {x : ℕ} {y : Fp} (hx : x < fieldPrime) (h : y ^ 2 = (x : Fp) ^ 3 + 7) :
    isAbscissa x = true := by
  have hrhs : (curveRhs x : Fp) = y ^ 2 := by rw [cast_curveRhs, h]
  have hsq : ((squareRoot (curveRhs x) * squareRoot (curveRhs x) : ℕ) : Fp) = curveRhs x := by
    rw [Nat.cast_mul, hrhs]
    rcases cast_squareRoot hrhs with hroot | hroot <;> rw [hroot] <;> ring
  rw [ZMod.natCast_eq_natCast_iff', Nat.mod_eq_of_lt (a := curveRhs x)
    (Nat.mod_lt _ (by decide +kernel))] at hsq
  simp only [isAbscissa, hsq, hx, decide_true, beq_self_eq_true, Bool.and_self]

/-- A point of the curve is found again from its abscissa and the parity of its ordinate. -/
theorem ordinate_eq {x y : ℕ} (hy : y < fieldPrime) (h : (y : Fp) ^ 2 = (x : Fp) ^ 3 + 7) :
    ordinate x (y % 2 == 1) = y := by
  have hodd : fieldPrime % 2 = 1 := by decide +kernel
  have hlt := squareRoot_lt (curveRhs x)
  have hroot := cast_squareRoot (a := curveRhs x) (by rw [cast_curveRhs, h])
  unfold ordinate
  generalize squareRoot (curveRhs x) = root at hlt hroot
  -- The other root has the other parity, since the modulus is odd.
  have hcases : root = y ∨ root + y = fieldPrime := by
    rcases hroot with hroot | hroot
    · rw [ZMod.natCast_eq_natCast_iff', Nat.mod_eq_of_lt hlt, Nat.mod_eq_of_lt hy] at hroot
      exact .inl hroot
    · have hdvd : fieldPrime ∣ root + y := by
        rw [← ZMod.natCast_eq_zero_iff, Nat.cast_add, hroot, neg_add_cancel]
      obtain ⟨k, hk⟩ := hdvd
      have hk2 : k < 2 := by
        by_contra hge
        have : fieldPrime * 2 ≤ fieldPrime * k := Nat.mul_le_mul_left _ (by omega)
        omega
      interval_cases k <;> omega
  rcases hcases with rfl | hsum
  · simp
  · have hparity : (root % 2 == 1) ≠ (y % 2 == 1) := by
      rcases Nat.mod_two_eq_zero_or_one y with hy2 | hy2
      · have : root % 2 = 1 := by omega
        simp [hy2, this]
      · have : root % 2 = 0 := by omega
        simp [hy2, this]
    simp only [beq_iff_eq, hparity, if_false]
    omega

end Supersede.Secp256k1
