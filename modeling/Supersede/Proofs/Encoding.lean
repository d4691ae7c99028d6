import Mathlib
import Supersede.Signature.Mode

/-!
# Signatures read back from their bytes

A reader gets back what was written, with whatever follows it left over. For the numbers of a
signature this rests on the minimal form: a digit zero stands in front exactly where the number
would else look negative, and this is the one place where the reader allows it.

* `Bytes.toNatBE_ofNatBE`: a number and its base-256 digits.
* `EcdsaSignature.ofDer?_toDer`, `ChannelSignature.ofBytes_toBytes`,
  `TapscriptSignature.ofBytes_toBytes`: signatures.
-/

namespace Supersede

open Secp256k1 (groupOrder)

/-! ## Digits -/

namespace Bytes

theorem toNatBE_append (a b : Bytes) :
    toNatBE (a ++ b) = b.foldl (fun n b => 256 * n + b.toNat) (toNatBE a) :=
  List.foldl_append

/-- A number is found again from enough of its base-256 digits. -/
theorem toNatBE_ofNatBE {w n : Nat} (h : n < 256 ^ w) : toNatBE (ofNatBE w n) = n := by
  induction w generalizing n with
  | zero =>
    obtain rfl : n = 0 := by omega
    rfl
  | succ w ih =>
    rw [Nat.pow_succ] at h
    rw [ofNatBE, ofNatLE, List.reverse_cons, toNatBE_append, ← ofNatBE, ih (by omega),
      List.foldl_cons, List.foldl_nil, UInt8.toNat_ofNat']
    omega

/-- Zeros in front do not change a number. -/
theorem toNatBE_dropWhile (b : Bytes) : toNatBE (b.dropWhile (· == 0)) = toNatBE b := by
  induction b with
  | nil => rfl
  | cons x b ih =>
    rw [List.dropWhile_cons]
    split
    · rename_i hx
      rw [ih, beq_iff_eq.1 hx]
      rfl
    · rfl

end Bytes

namespace Der

/-! ## Integers -/

/-- What the digits of a number are good for: they give it back, and a zero in front stands
alone. -/
structure Digits (n : Nat) (digits : Bytes) : Prop where
  value : Bytes.toNatBE digits = n
  length_pos : 0 < digits.length
  length_le : digits.length ≤ 32
  minimal : ∀ rest, digits = 0 :: rest → rest = []

theorem digits_magnitude {n : Nat} (h : n < 256 ^ 32) : Digits n (magnitude n) := by
  have hvalue := Bytes.toNatBE_dropWhile (Bytes.ofNatBE 32 n)
  have hlength := (List.dropWhile_sublist (· == 0) (l := Bytes.ofNatBE 32 n)).length_le
  have hhead := List.head?_dropWhile_not (· == (0 : UInt8)) (Bytes.ofNatBE 32 n)
  rw [Bytes.toNatBE_ofNatBE h] at hvalue
  rw [Bytes.length_ofNatBE] at hlength
  unfold magnitude
  split
  · rename_i hnil
    rw [hnil] at hvalue
    exact ⟨hvalue, by decide, by decide, fun rest hrest => (List.cons.inj hrest).2.symm⟩
  · rename_i digits hne
    refine ⟨hvalue, ?_, hlength, fun rest hrest => ?_⟩
    · exact List.length_pos_iff.2 hne
    · rw [hrest] at hhead
      simp at hhead

/-- What the reader asks of the bytes of an integer. -/
structure Readable (n : Nat) (body : Bytes) : Prop where
  length_pos : 0 < body.length
  length_le : body.length ≤ 33
  not_padded : isPadded body = false
  value : integerValue body = n

theorem integerValue_eq {body : Bytes} {n : Nat} (hhead : body.headD 0 < 0x80)
    (hlength : (unsigned body).length ≤ 32) (hvalue : Bytes.toNatBE (unsigned body) = n)
    (hn : n < groupOrder) : integerValue body = n := by
  have hpass : ¬ (0x80 ≤ body.headD 0 ∨ 32 < (unsigned body).length ∨
      groupOrder ≤ Bytes.toNatBE (unsigned body)) := by
    rw [hvalue]
    rintro (h | h | h)
    · exact absurd hhead (UInt8.not_lt.2 h)
    · omega
    · omega
  rw [integerValue, if_neg hpass, hvalue]

theorem readable_integerBody {n : Nat} (hn : n < groupOrder) : Readable n (integerBody n) := by
  have hdigits : Digits n (magnitude n) := digits_magnitude (Nat.lt_trans hn (by decide +kernel))
  unfold integerBody
  obtain ⟨hvalue, hpos, hle, hminimal⟩ := hdigits
  match hm : magnitude n with
  | [] => simp [hm] at hpos
  | x :: rest =>
    rw [hm] at hvalue hle hminimal
    dsimp only
    by_cases hx : x < 0x80
    · rw [List.headD_cons, if_pos hx]
      have hff : (x == 0xff) = false := beq_false_of_ne fun h => absurd (h ▸ hx) (by decide)
      by_cases hzero : x = 0
      · -- The number is zero and has one digit.
        subst hzero
        obtain rfl := hminimal rest rfl
        exact ⟨by simp, by simp, rfl, integerValue_eq (by decide) (by decide) hvalue hn⟩
      · have hunsigned : unsigned (x :: rest) = x :: rest := by
          unfold unsigned
          split
          · rename_i h
            exact absurd (List.cons.inj h).1 hzero
          · rfl
        refine ⟨by simp, Nat.le_succ_of_le hle, ?_,
          integerValue_eq hx (by rwa [hunsigned]) (by rwa [hunsigned]) hn⟩
        cases rest with
        | nil => rfl
        | cons y rest => simp [isPadded, hff, beq_false_of_ne hzero]
    · rw [List.headD_cons, if_neg hx]
      have hpadded : isPadded (0 :: x :: rest) = false := by simp [isPadded, hx]
      exact ⟨by simp, Nat.succ_le_succ hle, hpadded,
        integerValue_eq (show (0 : UInt8) < 0x80 by decide) hle hvalue hn⟩

/-! ## Lengths -/

theorem readLength_short {n : Nat} (h : n < 128) (rest : Bytes) :
    readLength (UInt8.ofNat n :: rest) = some (n, rest) := by
  have hn : (UInt8.ofNat n).toNat = n := by
    rw [UInt8.toNat_ofNat']
    omega
  have hlt : UInt8.ofNat n < 0x80 := by
    rw [UInt8.lt_iff_toNat_lt, hn]
    exact h
  rw [readLength, if_pos hlt, hn]

/-- An integer is read back, and what follows it is left over. -/
theorem readInteger_integer {n : Nat} (hn : n < groupOrder) (rest : Bytes) :
    readInteger (integer n ++ rest) = some (⟨n, hn⟩, rest) := by
  obtain ⟨hpos, hle, hpadded, hvalue⟩ := readable_integerBody hn
  have hlength := readLength_short (n := (integerBody n).length) (by omega) (integerBody n ++ rest)
  simp only [integer, List.cons_append, readInteger, hlength, List.take_left, List.drop_left]
  rw [if_neg]
  · simp only [hvalue]
  · simp only [hpadded, List.length_append, Bool.false_eq_true, or_false]
    omega

theorem length_integer_le {n : Nat} (hn : n < groupOrder) : (integer n).length ≤ 35 := by
  have := (readable_integerBody hn).length_le
  simp only [integer, List.length_cons]
  omega

end Der

/-! ## Signatures -/

theorem EcdsaSignature.ofDer?_toDer (sig : EcdsaSignature) : ofDer? sig.toDer = some sig := by
  have hr := Der.length_integer_le sig.r_lt
  have hs := Der.length_integer_le sig.s_lt
  have hlength : (Der.integer sig.r ++ Der.integer sig.s).length < 128 := by
    rw [List.length_append]
    omega
  have hreadS := Der.readInteger_integer sig.s_lt []
  rw [List.append_nil] at hreadS
  simp only [toDer, ofDer?, Der.readLength_short hlength, ne_eq, not_true_eq_false, if_false,
    Der.readInteger_integer sig.r_lt, hreadS]

theorem SigningMode.ofFlag_flag (mode : SigningMode) : ofFlag mode.flag = .ok mode := by
  cases mode <;> rfl

theorem ChannelSignature.ofBytes_toBytes (sig : ChannelSignature) :
    ofBytes sig.toBytes = .ok sig := by
  simp only [ofBytes, toBytes, List.getLast?_concat, List.dropLast_concat,
    SigningMode.ofFlag_flag, EcdsaSignature.ofDer?_toDer]

theorem ChannelSignature.toBytes_ne_nil (sig : ChannelSignature) : sig.toBytes ≠ [] := by
  simp [toBytes]

theorem TapscriptSignature.ofBytes_toBytes (sig : TapscriptSignature) :
    ofBytes sig.toBytes = .ok sig := by
  have hlength : sig.toBytes.length = 65 := by simp [toBytes]
  have hlast : sig.toBytes.getLastD 0 = sig.mode.flag := by simp [toBytes]
  have hfirst : sig.toBytes.dropLast = sig.signature.toBytes := by simp [toBytes]
  rw [ofBytes, dif_pos hlength, hlast, SigningMode.ofFlag_flag]
  simp only [hfirst]

theorem TapscriptSignature.toBytes_ne_nil (sig : TapscriptSignature) : sig.toBytes ≠ [] := by
  simp [toBytes]

end Supersede
