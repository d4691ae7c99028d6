import Supersede.Proofs.Encoding
import Supersede.Proofs.Scheme
import Supersede.Script.Template

/-!
# Scripts are read as they were written

A script is a byte string, but it is written and run as a list of instructions.

* `ScriptNumber.value_encode`, `ScriptNumber.isTrue_iff`: the number of a written item, and which
  items are true.
* `Code.ofBytes_encode`: reading the bytes of instructions gives these instructions back. Each
  instruction is read in front of arbitrary further bytes, so the lemma for a list is an induction.
* `PublicKey.ofBytes?_toBytes`, `XOnlyKey.ofBytes?_toBytes`: a key in a script is read as that key.
-/

namespace Supersede

/-! ## Numbers -/

namespace Bytes

theorem toNatLE_append (a b : Bytes) :
    toNatLE (a ++ b) = toNatLE a + 256 ^ a.length * toNatLE b := by
  induction a with
  | nil => simp [toNatLE]
  | cons x a ih =>
    rw [List.cons_append, toNatLE, ih, toNatLE, List.length_cons, pow_succ]
    ring

end Bytes

namespace ScriptNumber

open Bytes (toNatLE)

theorem toNatLE_digits {width n : Nat} (h : n < 256 ^ width) : toNatLE (digits width n) = n := by
  induction width generalizing n with
  | zero =>
    obtain rfl : n = 0 := by simpa using h
    rfl
  | succ width ih =>
    unfold digits
    by_cases hn : n = 0
    · rw [if_pos hn, hn]
      rfl
    · have hdiv : n / 256 < 256 ^ width := Nat.div_lt_of_lt_mul (by rwa [← pow_succ'])
      rw [if_neg hn, toNatLE, ih hdiv, UInt8.toNat_ofNat', Nat.mod_add_div]

theorem length_digits_le_width (width n : Nat) : (digits width n).length ≤ width := by
  induction width generalizing n with
  | zero => exact Nat.le_refl 0
  | succ width ih =>
    unfold digits
    by_cases hn : n = 0
    · simp [hn]
    · rw [if_neg hn]
      exact Nat.succ_le_succ (ih _)

theorem length_digits_le {width n k : Nat} (h : n < 256 ^ k) : (digits width n).length ≤ k := by
  induction width generalizing n k with
  | zero => exact Nat.zero_le k
  | succ width ih =>
    unfold digits
    by_cases hn : n = 0
    · simp [hn]
    · cases k with
      | zero => exact absurd (by simpa using h) hn
      | succ k =>
        have hdiv : n / 256 < 256 ^ k := Nat.div_lt_of_lt_mul (by rwa [← pow_succ'])
        rw [if_neg hn]
        exact Nat.succ_le_succ (ih hdiv)

/-- A number takes at most one byte more than its digits. -/
theorem length_encode_le_digits (n : Nat) : (encode n).length ≤ (digits 8 n).length + 1 := by
  by_cases hlast : 0x80 ≤ (digits 8 n).getLastD 0
  · rw [show encode n = digits 8 n ++ [0] from if_pos hlast, List.length_append]
    exact Nat.le_refl _
  · rw [show encode n = digits 8 n from if_neg hlast]
    exact Nat.le_succ _

theorem length_encode_le (n : Nat) : (encode n).length ≤ 9 :=
  (length_encode_le_digits n).trans (Nat.succ_le_succ (length_digits_le_width 8 n))

theorem value_encode {n : Nat} (h : n < 2 ^ 64) : value (encode n) = n := by
  have hdigits : toNatLE (digits 8 n) = n := toNatLE_digits (by simpa using h)
  by_cases hlast : 0x80 ≤ (digits 8 n).getLastD 0
  · have hzero : ¬ 0x80 ≤ (digits 8 n ++ [0]).getLastD 0 := by simp
    have hvalue : toNatLE (digits 8 n ++ [0]) = n := by
      rw [Bytes.toNatLE_append, hdigits]
      rfl
    rw [show encode n = digits 8 n ++ [0] from if_pos hlast, value, if_neg hzero, hvalue]
  · rw [show encode n = digits 8 n from if_neg hlast, value, if_neg hlast, hdigits]

/-- Every word of 32 bits can be read back. -/
theorem decode?_encode (n : UInt32) : decode? (encode n.toNat) = some (n.toNat : Int) := by
  have hlt : n.toNat < 256 ^ 4 := n.toNat_lt
  have hlength : (encode n.toNat).length ≤ maxLength :=
    (length_encode_le_digits n.toNat).trans (Nat.succ_le_succ (length_digits_le hlt))
  rw [decode?, if_pos hlength, value_encode (hlt.trans (by decide))]

/-- The sign bit weighs no more than the digits that it is part of. -/
theorem sign_le_toNatLE {b : Bytes} (h : 0x80 ≤ b.getLastD 0) :
    0x80 * 256 ^ (b.length - 1) ≤ toNatLE b := by
  induction b with
  | nil => cases h
  | cons x b ih =>
    cases b with
    | nil => simpa [toNatLE, UInt8.le_iff_toNat_le] using h
    | cons y b =>
      have hrest := ih (by simpa using h)
      simp only [List.length_cons, Nat.add_sub_cancel] at hrest ⊢
      rw [toNatLE, pow_succ]
      omega

theorem natAbs_value_singleton (x : UInt8) : (value [x]).natAbs = x.toNat % 128 := by
  have hlt := x.toNat_lt
  have hx : toNatLE [x] = x.toNat := rfl
  unfold value
  rw [hx]
  by_cases h : 0x80 ≤ x
  · have hle : 128 ≤ x.toNat := UInt8.le_iff_toNat_le.1 h
    rw [if_pos (by simpa using h), Int.natAbs_neg, Int.natAbs_natCast]
    show x.toNat - 128 = _
    omega
  · have hgt : x.toNat < 128 := by simpa [UInt8.le_iff_toNat_le] using h
    rw [if_neg (by simpa using h), Int.natAbs_natCast]
    omega

/-- A further low byte shifts the number of an item away from zero. -/
theorem natAbs_value_cons (x y : UInt8) (b : Bytes) :
    (value (x :: y :: b)).natAbs = x.toNat + 256 * (value (y :: b)).natAbs := by
  have hlast : (x :: y :: b).getLastD 0 = (y :: b).getLastD 0 := by simp
  unfold value
  rw [hlast]
  by_cases h : 0x80 ≤ (y :: b).getLastD 0
  · have hle := sign_le_toNatLE h
    simp only [h, if_true, Int.natAbs_neg, Int.natAbs_natCast, List.length_cons,
      Nat.add_sub_cancel, Nat.pow_eq, pow_succ] at hle ⊢
    rw [toNatLE]
    omega
  · simp only [h, if_false, Int.natAbs_natCast]
    rw [toNatLE]

/-- An item is true exactly if its number is not zero. -/
theorem isTrue_iff (b : Bytes) : isTrue b = true ↔ value b ≠ 0 := by
  rw [← Int.natAbs_ne_zero]
  induction b with
  | nil => simp [isTrue, value, toNatLE]
  | cons x b ih =>
    cases b with
    | nil =>
      have hx : x ≠ 0 ∧ x ≠ 0x80 ↔ x.toNat ≠ 0 ∧ x.toNat ≠ 128 := by
        rw [ne_eq, ne_eq, ← UInt8.toNat_inj, ← UInt8.toNat_inj]
        rfl
      have hlt := x.toNat_lt
      rw [natAbs_value_singleton, isTrue, Bool.and_eq_true, bne_iff_ne, bne_iff_ne, hx]
      omega
    | cons y b =>
      have hx : x ≠ 0 ↔ x.toNat ≠ 0 := by
        rw [ne_eq, ← UInt8.toNat_inj]
        rfl
      rw [natAbs_value_cons, isTrue, Bool.or_eq_true, ih, bne_iff_ne, hx]
      · omega
      · nofun

theorem isTrue_encode {n : Nat} (h : n < 2 ^ 64) : isTrue (encode n) = true ↔ n ≠ 0 := by
  rw [isTrue_iff, value_encode h, ne_eq, Int.natCast_eq_zero]

theorem isTrue_encode_toNat (n : UInt32) : isTrue (encode n.toNat) = true ↔ n ≠ 0 := by
  rw [isTrue_encode (n.toNat_lt.trans (by decide)), ne_eq, ne_eq, ← UInt32.toNat_inj]
  rfl

theorem isTrue_encode_blocks (n : UInt16) : isTrue (encode n.toNat) = true ↔ n ≠ 0 := by
  rw [isTrue_encode (n.toNat_lt.trans (by decide)), ne_eq, ne_eq, ← UInt16.toNat_inj]
  rfl

end ScriptNumber

/-! ## Reading -/

namespace Instruction

/-- An instruction that can be written: the length of a push has a header, and an operation is the
one that its code stands for. -/
def Readable : Instruction → Prop
  | push data => data.length < 2 ^ 32
  | op o => 0x4e < o.code ∧ Op.ofCode o.code = o

instance : DecidablePred Readable
  | push data => inferInstanceAs (Decidable (data.length < 2 ^ 32))
  | op o => inferInstanceAs (Decidable (0x4e < o.code ∧ Op.ofCode o.code = o))

theorem readable_number (n : Nat) : (number n).Readable := by
  unfold number
  by_cases h : 1 ≤ n ∧ n ≤ 16
  · rw [dif_pos h]
    have hcodes : ∀ pred : Fin 16, (op (.number pred)).Readable := by decide
    exact hcodes _
  · rw [dif_neg h]
    exact (ScriptNumber.length_encode_le n).trans_lt (by decide)

end Instruction

namespace Code

/-- Reads on after a byte. -/
def resume : Option Instruction × Position → Bytes → Code
  | (some i, p), rest => (read p rest).cons i
  | (none, p), rest => read p rest

theorem read_cons (p : Position) (b : UInt8) (rest : Bytes) :
    read p (b :: rest) = resume (p.step b) rest := by
  rw [read]
  rcases p.step b with ⟨_ | i, q⟩ <;> rfl

theorem read_data (x : UInt8) (data seen rest : Bytes) :
    read (.data (data.length + 1) seen) (x :: data ++ rest) =
      (read .start rest).cons (.push (seen.reverse ++ x :: data)) := by
  induction data generalizing x seen with
  | nil =>
    rw [List.cons_append, read_cons]
    simp [Position.step, resume]
  | cons y data ih =>
    have hstep : Position.step (.data ((y :: data).length + 1) seen) x =
        (none, .data (data.length + 1) (x :: seen)) := by
      simp [Position.step]
    rw [List.cons_append, read_cons, hstep]
    show read (.data (data.length + 1) (x :: seen)) (y :: data ++ rest) = _
    rw [ih]
    simp

/-- The data of a push is read once its length is known. -/
theorem resume_announce (data rest : Bytes) :
    resume (Position.announce data.length) (data ++ rest) =
      (read .start rest).cons (.push data) := by
  cases data with
  | nil => rfl
  | cons x data => exact read_data x data [] rest

/-- The length of a push is read digit by digit. -/
theorem read_length {k n : Nat} (h : n < 256 ^ (k + 1)) (value weight : Nat) (rest : Bytes) :
    read (.length (k + 1) value weight) (Bytes.ofNatLE (k + 1) n ++ rest) =
      resume (Position.announce (value + weight * n)) rest := by
  induction k generalizing n value weight with
  | zero =>
    have hn : n % 256 = n := Nat.mod_eq_of_lt (by simpa using h)
    rw [Bytes.ofNatLE, List.cons_append, read_cons]
    simp [Position.step, Bytes.ofNatLE, hn]
  | succ k ih =>
    have hdiv : n / 256 < 256 ^ (k + 1) := Nat.div_lt_of_lt_mul (by rwa [← pow_succ'])
    have hvalue : value + weight * (n % 256) + 256 * weight * (n / 256) = value + weight * n := by
      conv_rhs => rw [← Nat.mod_add_div n 256]
      ring
    have hstep : Position.step (.length (k + 1 + 1) value weight) (UInt8.ofNat n) =
        (none, .length (k + 1) (value + weight * (n % 256)) (256 * weight)) := by
      simp [Position.step]
    rw [Bytes.ofNatLE, List.cons_append, read_cons, hstep]
    show read (.length (k + 1) (value + weight * (n % 256)) (256 * weight)) _ = _
    rw [ih hdiv, hvalue]

theorem read_pushHeader (data rest : Bytes) (h : data.length < 2 ^ 32) :
    read .start (Instruction.pushHeader data.length ++ (data ++ rest)) =
      (read .start rest).cons (.push data) := by
  rw [← resume_announce data rest]
  unfold Instruction.pushHeader
  by_cases h₀ : data.length ≤ 0x4b
  · have hle : UInt8.ofNat data.length ≤ 0x4b := by
      rw [UInt8.le_iff_toNat_le, UInt8.toNat_ofNat', Nat.mod_eq_of_lt (by omega)]
      exact h₀
    have hmod : data.length % 256 = data.length := Nat.mod_eq_of_lt (by omega)
    rw [if_pos h₀, List.cons_append, read_cons]
    simp [Position.step, hle, hmod]
  · rw [if_neg h₀]
    by_cases h₁ : data.length < 0x100
    · rw [if_pos h₁, List.cons_append, read_cons]
      show read (.length (0 + 1) 0 1) (Bytes.ofNatLE (0 + 1) data.length ++ (data ++ rest)) = _
      rw [read_length h₁, Nat.zero_add, Nat.one_mul]
    · rw [if_neg h₁]
      by_cases h₂ : data.length < 0x10000
      · rw [if_pos h₂, List.cons_append, read_cons]
        show read (.length (1 + 1) 0 1) (Bytes.ofNatLE (1 + 1) data.length ++ (data ++ rest)) = _
        rw [read_length h₂, Nat.zero_add, Nat.one_mul]
      · rw [if_neg h₂, List.cons_append, read_cons]
        show read (.length (3 + 1) 0 1) (Bytes.ofNatLE (3 + 1) data.length ++ (data ++ rest)) = _
        rw [read_length h, Nat.zero_add, Nat.one_mul]

/-- An instruction is read in front of whatever follows. -/
theorem read_encode {i : Instruction} (h : i.Readable) (rest : Bytes) :
    read .start (i.encode ++ rest) = (read .start rest).cons i := by
  cases i with
  | push data =>
    rw [Instruction.encode, List.append_assoc]
    exact read_pushHeader data rest h
  | op o =>
    obtain ⟨hcode, hop⟩ := h
    have hcode' : 0x4e < o.code.toNat := UInt8.lt_iff_toNat_lt.1 hcode
    have h₀ : ¬ o.code ≤ 0x4b := by
      rw [UInt8.le_iff_toNat_le]
      show ¬ o.code.toNat ≤ 75
      omega
    have hne {c : UInt8} (hc : c.toNat ≤ 0x4e) : o.code ≠ c := by
      rintro rfl
      omega
    rw [Instruction.encode, List.cons_append, read_cons]
    rw [Position.step, if_neg h₀, if_neg (hne (by decide)), if_neg (hne (by decide)),
      if_neg (hne (by decide)), hop]
    rfl

/-- **Reading gives back what was written.** -/
theorem ofBytes_encode {instructions : List Instruction} (h : ∀ i ∈ instructions, i.Readable) :
    ofBytes (Script.encode instructions) = ⟨instructions, false⟩ := by
  induction instructions with
  | nil => rfl
  | cons i instructions ih =>
    have hi := h i List.mem_cons_self
    have hrest := ih fun j hj => h j (List.mem_cons_of_mem i hj)
    rw [ofBytes] at hrest ⊢
    rw [Script.encode, List.flatMap_cons, read_encode hi]
    show (read .start (Script.encode instructions)).cons i = _
    rw [hrest]
    rfl

end Code

/-! ## Keys -/

namespace PublicKey

theorem length_toBytes (k : PublicKey) : k.toBytes.length = 33 := by
  rw [toBytes, List.length_cons, FixedBytes.length_toBytes]

theorem x_lt (k : PublicKey) : k.x < 2 ^ 256 := by
  have hvalid := k.valid
  have hprime : Secp256k1.fieldPrime < 2 ^ 256 := by decide +kernel
  simp only [Secp256k1.isAbscissa, Bool.and_eq_true, decide_eq_true_eq] at hvalid
  exact hvalid.1.trans hprime

theorem ofBytes?_toBytes (k : PublicKey) : ofBytes? k.toBytes = some k := by
  have hlength : (Bytes.be256 k.x).toBytes.length = 32 := FixedBytes.length_toBytes _
  have hx : Bytes.toNatBE (Bytes.be256 k.x).toBytes = k.x :=
    Secp256k1.toNatBE_be256 k.x_lt
  have habscissa (odd : Bool) : ofAbscissa? odd k.x = some ⟨odd, k.x, k.valid⟩ := dif_pos k.valid
  rw [toBytes, ofBytes?, if_pos hlength, hx, habscissa, habscissa]
  cases hodd : k.odd <;> cases k <;> simp_all

end PublicKey

namespace XOnlyKey

theorem length_toBytes (k : XOnlyKey) : k.toBytes.length = 32 := FixedBytes.length_toBytes _

theorem ofBytes?_toBytes (k : XOnlyKey) : ofBytes? k.toBytes = some k := by
  have hx : Bytes.toNatBE k.toBytes = k.x := Secp256k1.toNatBE_be256 k.toEven.x_lt
  rw [ofBytes?, if_pos k.length_toBytes]
  simp only [hx]
  exact dif_pos k.valid

end XOnlyKey

/-! ## The scripts of a channel -/

namespace Script

theorem lock_eq (script : Bytes) : lock script = 0x00 :: 0x20 :: (sha256 script).toBytes := by
  show _ ++ (Instruction.pushHeader (sha256 script).toBytes.length ++ _ ++ []) = _
  rw [FixedBytes.length_toBytes, List.append_nil]
  rfl

theorem kind_lock (script : Bytes) : OutputKind.of (lock script) = .scriptHash := by
  rw [lock_eq, OutputKind.of, if_neg (by simp), if_pos (by simp)]

theorem payout_eq (key : PublicKey) : payout key = 0x00 :: 0x14 :: key.hash.toBytes := by
  show _ ++ (Instruction.pushHeader key.hash.toBytes.length ++ _ ++ []) = _
  rw [FixedBytes.length_toBytes, List.append_nil]
  rfl

theorem kind_payout (key : PublicKey) : OutputKind.of (payout key) = .keyHash := by
  rw [payout_eq, OutputKind.of, if_pos (by simp)]

theorem taproot_eq (key : XOnlyKey) : taproot key = 0x51 :: 0x20 :: key.toBytes := by
  show _ ++ (Instruction.pushHeader key.toBytes.length ++ _ ++ []) = _
  rw [key.length_toBytes, List.append_nil]
  rfl

theorem kind_taproot (key : XOnlyKey) : OutputKind.of (taproot key) = .taproot := by
  rw [taproot_eq, OutputKind.of, if_neg (by simp), if_neg (by simp),
    if_pos (by simp [key.length_toBytes])]

theorem readable_push_fixed {n : Nat} (h : n < 2 ^ 32) (data : FixedBytes n) :
    (Instruction.push data.toBytes).Readable := by
  show data.toBytes.length < 2 ^ 32
  rw [data.length_toBytes]
  exact h

theorem readable_push_key (k : PublicKey) : (Instruction.push k.toBytes).Readable := by
  show k.toBytes.length < 2 ^ 32
  rw [k.length_toBytes]
  decide

theorem ofBytes_update (keys : UpdateKeys) (window : UInt16) (lockTime : UInt32) :
    Code.ofBytes (update keys window lockTime) = ⟨updateCode keys window lockTime, false⟩ := by
  apply Code.ofBytes_encode
  simp only [updateCode, List.forall_mem_cons, Instruction.readable_number, readable_push_key,
    true_and]
  decide

theorem ofBytes_payment (refundKey paymentKey : PublicKey) (hash : Hash160) (expiry : UInt32) :
    Code.ofBytes (payment refundKey paymentKey hash expiry) =
      ⟨paymentCode refundKey paymentKey hash expiry, false⟩ := by
  apply Code.ofBytes_encode
  have hhash : (Instruction.push hash.toBytes).Readable := readable_push_fixed (by decide) hash
  simp only [paymentCode, List.forall_mem_cons, Instruction.readable_number, readable_push_key,
    hhash, true_and]
  decide

end Script

end Supersede
