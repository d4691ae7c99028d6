import Supersede.Proofs.Encoding

/-!
# Signatures have one form

The reader of signatures is strict: lengths take the fewest bytes, integers have no byte that their
sign does not need, and nothing follows them. It is lenient in one point, since an integer that is
negative or not below the group order is read as zero.

* `Der.LengthForm`, `Der.IntegerForm`, `Der.PairForm`: the strict forms of a length, an integer and
  a pair of integers, stated without the reader.
* `EcdsaSignature.ofDer?_eq_some_iff`: the reader accepts exactly the strict forms of pairs.
* `Der.pairForm_iff`: the strict form of the two numbers of a signature is the one that the
  signature is written in.

**Theorem (`ChannelSignature.one_form`).** Signatures are read back from their bytes. Conversely,
bytes that are read as a signature are the ones it is written in, if their two integers are in
range; so no two such byte strings are read as one signature. For the signatures of taproot leaves
reading and writing are inverse to each other.
-/

namespace Supersede

open Secp256k1 (groupOrder)

/-! ## Digits -/

namespace Bytes

theorem foldl_digits (n : Nat) (b : Bytes) :
    b.foldl (fun n b => 256 * n + b.toNat) n = n * 256 ^ b.length + toNatBE b := by
  induction b generalizing n with
  | nil => simp [toNatBE]
  | cons x b ih =>
    have hx : toNatBE (x :: b) = x.toNat * 256 ^ b.length + toNatBE b := by
      rw [toNatBE, List.foldl_cons, ih, Nat.mul_zero, Nat.zero_add]
    rw [List.foldl_cons, ih, hx, List.length_cons, pow_succ]
    ring

theorem toNatBE_cons (x : UInt8) (b : Bytes) :
    toNatBE (x :: b) = x.toNat * 256 ^ b.length + toNatBE b := by
  rw [toNatBE, List.foldl_cons, foldl_digits, Nat.mul_zero, Nat.zero_add]

theorem toNatBE_lt (b : Bytes) : toNatBE b < 256 ^ b.length := by
  induction b with
  | nil => decide
  | cons x b ih =>
    have hx : x.toNat * 256 ^ b.length ≤ 255 * 256 ^ b.length :=
      Nat.mul_le_mul_right _ (Nat.le_of_lt_succ x.toNat_lt)
    rw [toNatBE_cons, List.length_cons, pow_succ]
    omega

/-- Without a zero in front, a number has no more digits than its size asks for. -/
theorem length_le_of_toNatBE_lt {w : Nat} {b : Bytes} (hlead : b.head? ≠ some 0)
    (h : toNatBE b < 256 ^ w) : b.length ≤ w := by
  cases b with
  | nil => exact Nat.zero_le w
  | cons x b =>
    have hx : 0 < x.toNat := Nat.pos_of_ne_zero fun h0 =>
      hlead (congrArg some (UInt8.toNat_inj.1 h0))
    have hpow : 256 ^ b.length < 256 ^ w := by
      rw [toNatBE_cons] at h
      exact ((Nat.le_mul_of_pos_left _ hx).trans (Nat.le_add_right _ _)).trans_lt h
    exact (Nat.pow_lt_pow_iff_right (by decide)).1 hpow

theorem ofNatBE_zero (w : Nat) : ofNatBE w 0 = List.replicate w 0 := by
  have hLE : ofNatLE w 0 = List.replicate w 0 := by
    induction w with
    | zero => rfl
    | succ w ih => rw [ofNatLE, Nat.zero_div, ih, List.replicate_succ]; rfl
  rw [ofNatBE, hLE, List.reverse_replicate]

/-- The digits of the number of a byte string are the string, with zeros in front. -/
theorem ofNatBE_toNatBE {w : Nat} {b : Bytes} (h : b.length ≤ w) :
    ofNatBE w (toNatBE b) = List.replicate (w - b.length) 0 ++ b := by
  induction b using List.reverseRecOn generalizing w with
  | nil => exact (ofNatBE_zero w).trans (List.append_nil _).symm
  | append_singleton b x ih =>
    cases w with
    | zero => simp at h
    | succ w =>
      have hlength : b.length ≤ w := by simpa using h
      have hx := x.toNat_lt
      have hvalue : toNatBE (b ++ [x]) = 256 * toNatBE b + x.toNat := toNatBE_append b [x]
      have hdiv : toNatBE (b ++ [x]) / 256 = toNatBE b := by omega
      have hmod : UInt8.ofNat (toNatBE (b ++ [x])) = x := by
        rw [← UInt8.toNat_inj, UInt8.toNat_ofNat']
        omega
      rw [ofNatBE, ofNatLE, List.reverse_cons, hdiv, hmod, ← ofNatBE, ih hlength,
        List.append_assoc, List.length_append, List.length_singleton, Nat.add_sub_add_right]

end Bytes

namespace Der

/-! ## Integers -/

/-- The number of an integer's bytes, in two's complement. -/
def signedValue (body : Bytes) : Int :=
  if 0x80 ≤ body.headD 0 then (Bytes.toNatBE body : Int) - (256 ^ body.length : Nat)
  else Bytes.toNatBE body

/-- The integer is one that a signature can hold. -/
def InRange (x : Int) : Prop := 0 ≤ x ∧ x < groupOrder

instance (x : Int) : Decidable (InRange x) := inferInstanceAs (Decidable (_ ∧ _))

/-- The number that a signature takes from an integer. -/
def scalar (x : Int) : Nat := if InRange x then x.toNat else 0

theorem inRange_of_scalar_ne_zero {x : Int} (h : scalar x ≠ 0) : InRange x := by
  by_contra hx
  exact h (if_neg hx)

theorem natCast_scalar {x : Int} (h : InRange x) : (scalar x : Int) = x := by
  rw [scalar, if_pos h, Int.toNat_of_nonneg h.1]

theorem signedValue_neg {body : Bytes} (h : 0x80 ≤ body.headD 0) : signedValue body < 0 := by
  have hlt := Bytes.toNatBE_lt body
  rw [signedValue, if_pos h]
  omega

theorem toNatBE_unsigned (body : Bytes) :
    Bytes.toNatBE (unsigned body) = Bytes.toNatBE body := by
  unfold unsigned
  split
  · rename_i digits
    rw [Bytes.toNatBE_cons]
    simp
  · rfl

theorem unsigned_cons_of_ne {x : UInt8} (h : x ≠ 0) (digits : Bytes) :
    unsigned (x :: digits) = x :: digits := by
  unfold unsigned
  split
  · rename_i heq
    exact absurd (List.cons.inj heq).1 h
  · rfl

/-- An integer without a needless byte has no zero in front of its digits. -/
theorem head?_unsigned {body : Bytes} (h : isPadded body = false) :
    (unsigned body).head? ≠ some 0 := by
  unfold unsigned
  split
  · rename_i digits
    cases digits with
    | nil => simp
    | cons second digits =>
      intro hsecond
      obtain rfl : second = 0 := by simpa using hsecond
      simp [isPadded] at h
  · rename_i hne
    intro hhead
    obtain ⟨digits, rfl⟩ := List.head?_eq_some_iff.1 hhead
    exact hne digits rfl

theorem signedValue_of_nonneg {body : Bytes} (h : ¬ 0x80 ≤ body.headD 0) :
    signedValue body = (Bytes.toNatBE (unsigned body) : Nat) := by
  rw [signedValue, if_neg h, toNatBE_unsigned]

/-- The digits of an integer in range fit into 32 bytes. -/
theorem length_unsigned_le {body : Bytes} (hpadded : isPadded body = false)
    (hlt : Bytes.toNatBE (unsigned body) < groupOrder) : (unsigned body).length ≤ 32 :=
  Bytes.length_le_of_toNatBE_lt (head?_unsigned hpadded) (hlt.trans (by decide +kernel))

/-- The value that is read is the number of the bytes, or zero if that is out of range. -/
theorem integerValue_eq_scalar {body : Bytes} (h : isPadded body = false) :
    integerValue body = scalar (signedValue body) := by
  unfold integerValue
  by_cases hneg : 0x80 ≤ body.headD 0
  · have hout : ¬ InRange (signedValue body) := fun hin =>
      absurd hin.1 (Int.not_le.2 (signedValue_neg hneg))
    rw [if_pos (.inl hneg), scalar, if_neg hout]
  · rw [signedValue_of_nonneg hneg]
    by_cases hlt : Bytes.toNatBE (unsigned body) < groupOrder
    · have hlength := length_unsigned_le h hlt
      have hin : InRange (Bytes.toNatBE (unsigned body) : Nat) :=
        ⟨Int.natCast_nonneg _, Int.ofNat_lt.2 hlt⟩
      rw [if_neg (not_or.2 ⟨hneg, by omega⟩), scalar, if_pos hin, Int.toNat_natCast]
    · have hout : ¬ InRange (Bytes.toNatBE (unsigned body) : Nat) := fun hin =>
        hlt (Int.ofNat_lt.1 hin.2)
      rw [if_pos (.inr (.inr (Nat.le_of_not_lt hlt))), scalar, if_neg hout]

theorem magnitude_toNatBE {digits : Bytes} (hne : digits ≠ []) (hlead : digits.head? ≠ some 0)
    (hlength : digits.length ≤ 32) : magnitude (Bytes.toNatBE digits) = digits := by
  have hdrop : (Bytes.ofNatBE 32 (Bytes.toNatBE digits)).dropWhile (· == 0) = digits := by
    rw [Bytes.ofNatBE_toNatBE hlength, List.dropWhile_append_of_pos]
    · cases digits with
      | nil => rfl
      | cons x digits =>
        have hx : (x == 0) = false := beq_false_of_ne fun h => hlead (congrArg some h)
        rw [List.dropWhile_cons, hx]
        rfl
    · intro x hx
      rw [List.eq_of_mem_replicate hx]
      rfl
  unfold magnitude
  rw [hdrop]
  cases digits with
  | nil => exact absurd rfl hne
  | cons x digits => rfl

/-- The bytes of an integer in range are those that its number is written in. -/
theorem integerBody_signedValue {body : Bytes} (hne : body ≠ []) (hpadded : isPadded body = false)
    (hin : InRange (signedValue body)) : integerBody (signedValue body).toNat = body := by
  have hnonneg : ¬ 0x80 ≤ body.headD 0 := fun h =>
    absurd hin.1 (Int.not_le.2 (signedValue_neg h))
  have hvalue := signedValue_of_nonneg hnonneg
  have hlt : Bytes.toNatBE (unsigned body) < groupOrder := Int.ofNat_lt.1 (hvalue ▸ hin.2)
  have hmagnitude (hdigits : unsigned body ≠ []) :=
    magnitude_toNatBE hdigits (head?_unsigned hpadded) (length_unsigned_le hpadded hlt)
  rw [hvalue, Int.toNat_natCast]
  unfold integerBody
  cases body with
  | nil => exact absurd rfl hne
  | cons x digits =>
    by_cases hx : x = 0
    · subst hx
      cases digits with
      | nil => decide
      | cons y digits =>
        -- The zero keeps the number from looking negative.
        have hy : ¬ y < 0x80 := by simpa [isPadded] using hpadded
        rw [hmagnitude (List.cons_ne_nil y digits)]
        exact if_neg hy
    · rw [unsigned_cons_of_ne hx] at hmagnitude ⊢
      rw [hmagnitude (List.cons_ne_nil x digits)]
      exact if_pos (UInt8.not_le.1 hnonneg)

/-! ## Strict forms -/

/-- The strict forms of a length: a byte below 128, else the number of its digits and the digits. -/
inductive LengthForm : Nat → Bytes → Prop
  | short {n : Nat} (h : n < 128) : LengthForm n [UInt8.ofNat n]
  | long {digits : Bytes} (hcount : digits.length ≤ 8) (hlead : digits.headD 0 ≠ 0)
      (hlong : 128 ≤ Bytes.toNatBE digits) :
      LengthForm (Bytes.toNatBE digits) (UInt8.ofNat (0x80 + digits.length) :: digits)

/-- The strict form of an element: its tag, the length of its content and the content. -/
def Element (tag : UInt8) (content bytes : Bytes) : Prop :=
  ∃ length, LengthForm content.length length ∧ bytes = tag :: (length ++ content)

/-- The strict form of an integer: its bytes in two's complement, none of them needless. -/
def IntegerForm (x : Int) (bytes : Bytes) : Prop :=
  ∃ body, Element 0x02 body bytes ∧ body ≠ [] ∧ isPadded body = false ∧ signedValue body = x

/-- The strict form of a pair of integers. -/
def PairForm (x y : Int) (bytes : Bytes) : Prop :=
  ∃ first second, IntegerForm x first ∧ IntegerForm y second ∧
    Element 0x30 (first ++ second) bytes

/-! ## What the reader accepts -/

theorem longLength?_eq_some_iff {digits : Bytes} {n : Nat} : longLength? digits = some n ↔
    digits.headD 0 ≠ 0 ∧ 128 ≤ Bytes.toNatBE digits ∧ Bytes.toNatBE digits = n := by
  rw [longLength?, Option.ite_none_left_eq_some, not_or, Nat.not_lt, Option.some.injEq, and_assoc]

/-- A length that is read is in a strict form. -/
theorem exists_lengthForm {bytes rest : Bytes} {n : Nat} (h : readLength bytes = some (n, rest)) :
    ∃ length, LengthForm n length ∧ bytes = length ++ rest := by
  cases bytes with
  | nil => cases h
  | cons b bytes =>
    rw [readLength] at h
    by_cases hshort : b < 0x80
    · rw [if_pos hshort] at h
      cases h
      have hb : UInt8.ofNat b.toNat = b := UInt8.ofNat_toNat
      exact ⟨_, .short (UInt8.lt_iff_toNat_lt.1 hshort), by rw [hb]; rfl⟩
    · rw [if_neg hshort, Option.ite_none_left_eq_some, Option.ite_none_left_eq_some] at h
      obtain ⟨-, hcount, h⟩ := h
      rw [not_or, Nat.not_lt, Nat.not_lt] at hcount
      cases hlong : longLength? (bytes.take (b.toNat - 0x80)) with
      | none => simp [hlong] at h
      | some m =>
        simp only [hlong, Option.ite_none_left_eq_some] at h
        obtain ⟨-, h⟩ := h
        cases h
        obtain ⟨hlead, hbound, rfl⟩ := longLength?_eq_some_iff.1 hlong
        have hlength : (bytes.take (b.toNat - 0x80)).length = b.toNat - 0x80 :=
          List.length_take_of_le hcount.1
        have hform := LengthForm.long (hlength.trans_le hcount.2) hlead hbound
        have hle : 0x80 ≤ b.toNat := UInt8.le_iff_toNat_le.1 (UInt8.not_lt.1 hshort)
        rw [hlength, Nat.add_sub_of_le hle, UInt8.ofNat_toNat] at hform
        exact ⟨_, hform, by rw [List.cons_append, List.take_append_drop]⟩

/-- A strict form of a length is read, if that much follows it. -/
theorem LengthForm.read {n : Nat} {length : Bytes} (h : LengthForm n length) {rest : Bytes}
    (hrest : n ≤ rest.length) : readLength (length ++ rest) = some (n, rest) := by
  cases h with
  | short h => exact readLength_short h rest
  | @long digits hcount hlead hlong =>
    have hpos : 0 < digits.length := by
      cases digits with
      | nil => exact absurd rfl hlead
      | cons x digits => exact Nat.succ_pos _
    have hb : (UInt8.ofNat (0x80 + digits.length)).toNat = 0x80 + digits.length := by
      rw [UInt8.toNat_ofNat']
      omega
    have hcount' : (UInt8.ofNat (0x80 + digits.length)).toNat - 0x80 = digits.length := by
      rw [hb, Nat.add_sub_cancel_left]
    have hshort : ¬ UInt8.ofNat (0x80 + digits.length) < 0x80 := by
      rw [UInt8.lt_iff_toNat_lt, hb]
      exact Nat.not_lt.2 (Nat.le_add_right _ _)
    have hmarker : ¬ (UInt8.ofNat (0x80 + digits.length) = 0x80 ∨
        UInt8.ofNat (0x80 + digits.length) = 0xff) := by
      rw [← UInt8.toNat_inj, ← UInt8.toNat_inj, hb]
      show ¬ (0x80 + digits.length = 0x80 ∨ 0x80 + digits.length = 0xff)
      omega
    have hvalue := longLength?_eq_some_iff.2 ⟨hlead, hlong, rfl⟩
    rw [List.cons_append, readLength, if_neg hshort, if_neg hmarker]
    simp only [hcount', List.take_left, List.drop_left, hvalue]
    rw [if_neg (by rw [List.length_append]; omega), if_neg (Nat.not_lt.2 hrest)]

/-- The reader of integers accepts exactly the strict forms, whatever follows them. -/
theorem readInteger_eq_some_iff {bytes rest : Bytes} {v : { n : Nat // n < groupOrder }} :
    readInteger bytes = some (v, rest) ↔
      ∃ x element, IntegerForm x element ∧ v.1 = scalar x ∧ bytes = element ++ rest := by
  constructor
  · intro h
    unfold readInteger at h
    split at h
    · rename_i bytes
      split at h
      · cases h
      · rename_i len content hlen
        rw [Option.ite_none_left_eq_some, not_or, not_or, Nat.not_lt, Bool.not_eq_true] at h
        obtain ⟨⟨hzero, hle, hpadded⟩, h⟩ := h
        cases h
        obtain ⟨length, hform, rfl⟩ := exists_lengthForm hlen
        have hbody : (content.take len).length = len := List.length_take_of_le hle
        refine ⟨_, _, ⟨content.take len, ⟨length, hbody.symm ▸ hform, rfl⟩, ?_, hpadded, rfl⟩,
          integerValue_eq_scalar hpadded, ?_⟩
        · intro hnil
          exact hzero (by rw [← hbody, hnil]; rfl)
        · rw [List.cons_append, List.append_assoc, List.take_append_drop]
    · cases h
  · rintro ⟨x, element, ⟨body, ⟨length, hform, rfl⟩, hne, hpadded, rfl⟩, hv, rfl⟩
    have hlength : readLength (length ++ (body ++ rest)) = some (body.length, body ++ rest) :=
      hform.read (by simp)
    have hpass : ¬ (body.length = 0 ∨ (body ++ rest).length < body.length ∨
        isPadded body = true) := by
      simp [hne, hpadded]
    rw [← integerValue_eq_scalar hpadded] at hv
    rw [List.cons_append, List.append_assoc]
    simp only [readInteger, hlength, List.take_left, List.drop_left, if_neg hpass, ← hv]

end Der

/-! ## Signatures -/

namespace EcdsaSignature

/-- The reader accepts exactly the strict forms of pairs. -/
theorem ofDer?_eq_some_iff {bytes : Bytes} {sig : EcdsaSignature} :
    ofDer? bytes = some sig ↔
      ∃ x y, Der.PairForm x y bytes ∧ sig.r = Der.scalar x ∧ sig.s = Der.scalar y := by
  constructor
  · intro h
    unfold ofDer? at h
    split at h
    · rename_i bytes
      split at h
      · cases h
      · rename_i len content hlen
        rw [Option.ite_none_left_eq_some, not_not] at h
        obtain ⟨rfl, h⟩ := h
        split at h
        · cases h
        · rename_i r afterR hr
          split at h
          · rename_i s hs
            cases h
            obtain ⟨length, hform, rfl⟩ := Der.exists_lengthForm hlen
            obtain ⟨x, first, hfirst, hx, rfl⟩ := Der.readInteger_eq_some_iff.1 hr
            obtain ⟨y, second, hsecond, hy, rfl⟩ := Der.readInteger_eq_some_iff.1 hs
            rw [List.append_nil] at hform ⊢
            exact ⟨x, y, ⟨first, second, hfirst, hsecond, length, hform, rfl⟩, hx, hy⟩
          · cases h
    · cases h
  · rintro ⟨x, y, ⟨first, second, hfirst, hsecond, length, hform, rfl⟩, hr, hs⟩
    have hlength := hform.read (Nat.le_refl _)
    have hreadR : Der.readInteger (first ++ second) = some (⟨sig.r, sig.r_lt⟩, second) :=
      Der.readInteger_eq_some_iff.2 ⟨x, first, hfirst, hr, rfl⟩
    have hreadS : Der.readInteger second = some (⟨sig.s, sig.s_lt⟩, []) :=
      Der.readInteger_eq_some_iff.2 ⟨y, second, hsecond, hs, (List.append_nil _).symm⟩
    simp only [ofDer?, hlength, ne_eq, not_true_eq_false, if_false, hreadR, hreadS]

end EcdsaSignature

namespace Der

/-- A length below 128 has one strict form. -/
theorem LengthForm.eq_short {n : Nat} {length : Bytes} (h : LengthForm n length) (hn : n < 128) :
    length = [UInt8.ofNat n] := by
  cases h with
  | short => rfl
  | long _ _ hlong => exact absurd hlong (Nat.not_le.2 hn)

/-- The strict form of an integer in range is the one that it is written in. -/
theorem IntegerForm.eq_integer {x : Int} {bytes : Bytes} (h : IntegerForm x bytes)
    (hin : InRange x) : bytes = integer x.toNat := by
  obtain ⟨body, ⟨length, hform, rfl⟩, hne, hpadded, rfl⟩ := h
  have hbody := integerBody_signedValue hne hpadded hin
  have hlt : (signedValue body).toNat < groupOrder := by
    have := hin.2
    have := hin.1
    omega
  have hle := (readable_integerBody hlt).length_le
  rw [hbody] at hle
  rw [integer, hbody, hform.eq_short (by omega)]
  rfl

/-- The form that a number is written in is strict. -/
theorem integerForm_integer {n : Nat} (hn : n < groupOrder) : IntegerForm n (integer n) := by
  obtain ⟨hpos, hle, hpadded, hvalue⟩ := readable_integerBody hn
  refine ⟨integerBody n, ⟨_, .short (by omega), rfl⟩, List.length_pos_iff.1 hpos, hpadded, ?_⟩
  rw [integerValue_eq_scalar hpadded] at hvalue
  by_cases hzero : n = 0
  · subst hzero
    decide
  · have hin := inRange_of_scalar_ne_zero (hvalue ▸ hzero)
    rw [← natCast_scalar hin, hvalue]

/-- The strict form of the two numbers of a signature is the one that it is written in. -/
theorem pairForm_iff (sig : EcdsaSignature) {bytes : Bytes} :
    PairForm sig.r sig.s bytes ↔ bytes = sig.toDer := by
  have hr : InRange sig.r := ⟨Int.natCast_nonneg _, Int.ofNat_lt.2 sig.r_lt⟩
  have hs : InRange sig.s := ⟨Int.natCast_nonneg _, Int.ofNat_lt.2 sig.s_lt⟩
  have hlength : (integer sig.r ++ integer sig.s).length < 128 := by
    have := length_integer_le sig.r_lt
    have := length_integer_le sig.s_lt
    rw [List.length_append]
    omega
  constructor
  · rintro ⟨first, second, hfirst, hsecond, length, hform, rfl⟩
    obtain rfl := hfirst.eq_integer hr
    obtain rfl := hsecond.eq_integer hs
    rw [Int.toNat_natCast, Int.toNat_natCast] at hform ⊢
    rw [hform.eq_short hlength]
    rfl
  · rintro rfl
    exact ⟨_, _, integerForm_integer sig.r_lt, integerForm_integer sig.s_lt, _, .short hlength, rfl⟩

/-- The bytes are the strict form of two integers in range. -/
def HoldsInRange (bytes : Bytes) : Prop := ∃ x y, PairForm x y bytes ∧ InRange x ∧ InRange y

end Der

namespace EcdsaSignature

/-- Two integers in range are read as what they are written from. -/
theorem toDer_of_holdsInRange {bytes : Bytes} {sig : EcdsaSignature}
    (h : ofDer? bytes = some sig) (hin : Der.HoldsInRange bytes) : sig.toDer = bytes := by
  obtain ⟨x, y, hpair, hx, hy⟩ := hin
  have hxlt : x.toNat < groupOrder := (Int.toNat_lt hx.1).2 hx.2
  have hylt : y.toNat < groupOrder := (Int.toNat_lt hy.1).2 hy.2
  rw [← Int.toNat_of_nonneg hx.1, ← Int.toNat_of_nonneg hy.1] at hpair
  have hbytes := (Der.pairForm_iff ⟨x.toNat, y.toNat, hxlt, hylt⟩).1 hpair
  rw [hbytes, ofDer?_toDer] at h
  rw [← Option.some.inj h, hbytes]

/-- Where neither number is zero, the integers were in range. -/
theorem holdsInRange_of_ne_zero {bytes : Bytes} {sig : EcdsaSignature}
    (h : ofDer? bytes = some sig) (hr : sig.r ≠ 0) (hs : sig.s ≠ 0) :
    Der.HoldsInRange bytes := by
  obtain ⟨x, y, hpair, hx, hy⟩ := ofDer?_eq_some_iff.1 h
  exact ⟨x, y, hpair, Der.inRange_of_scalar_ne_zero (hx ▸ hr),
    Der.inRange_of_scalar_ne_zero (hy ▸ hs)⟩

end EcdsaSignature

theorem SigningMode.ofFlag_eq_ok_iff {f : UInt8} {mode : SigningMode} :
    ofFlag f = .ok mode ↔ f = mode.flag := by
  constructor
  · intro h
    unfold ofFlag at h
    split_ifs at h with h₀ h₁ h₂ <;> cases h <;> assumption
  · rintro rfl
    exact ofFlag_flag mode

namespace ChannelSignature

/-- What is read as a signature is a strict form of two integers and the flag of its mode. -/
theorem ofBytes_eq_ok_iff {b : Bytes} {sig : ChannelSignature} : ofBytes b = .ok sig ↔
    ∃ der, b = der ++ [sig.mode.flag] ∧ EcdsaSignature.ofDer? der = some sig.signature := by
  constructor
  · intro h
    rcases List.eq_nil_or_concat b with rfl | ⟨der, f, rfl⟩
    · cases h
    · rw [List.concat_eq_append] at h ⊢
      simp only [ofBytes, List.getLast?_concat, List.dropLast_concat] at h
      split at h
      · cases h
      · rename_i mode hmode
        split at h
        · cases h
        · rename_i signature hder
          cases h
          exact ⟨der, by rw [SigningMode.ofFlag_eq_ok_iff.1 hmode], hder⟩
  · rintro ⟨der, rfl, hder⟩
    simp only [ofBytes, List.getLast?_concat, List.dropLast_concat, SigningMode.ofFlag_flag, hder]

/-- Bytes with integers in range are those that the signature read from them is written in. -/
theorem toBytes_of_holdsInRange {b : Bytes} {sig : ChannelSignature} (h : ofBytes b = .ok sig)
    (hin : Der.HoldsInRange b.dropLast) : sig.toBytes = b := by
  obtain ⟨der, rfl, hder⟩ := ofBytes_eq_ok_iff.1 h
  rw [List.dropLast_concat] at hin
  rw [toBytes, EcdsaSignature.toDer_of_holdsInRange hder hin]

theorem toBytes_of_ne_zero {b : Bytes} {sig : ChannelSignature} (h : ofBytes b = .ok sig)
    (hr : sig.signature.r ≠ 0) (hs : sig.signature.s ≠ 0) : sig.toBytes = b := by
  obtain ⟨der, rfl, hder⟩ := ofBytes_eq_ok_iff.1 h
  refine toBytes_of_holdsInRange h ?_
  rw [List.dropLast_concat]
  exact EcdsaSignature.holdsInRange_of_ne_zero hder hr hs

end ChannelSignature

theorem TapscriptSignature.toBytes_of_ofBytes {b : Bytes} {sig : TapscriptSignature}
    (h : ofBytes b = .ok sig) : sig.toBytes = b := by
  unfold ofBytes at h
  split at h
  · rename_i hlength
    split at h
    · cases h
    · rename_i mode hmode
      cases h
      have hne : b ≠ [] := List.ne_nil_of_length_eq_add_one hlength
      have hlast : b.getLastD 0 = b.getLast hne := by
        rw [List.getLastD_eq_getLast?, List.getLast?_eq_some_getLast hne]
        rfl
      rw [hlast] at hmode
      rw [toBytes, ← SigningMode.ofFlag_eq_ok_iff.1 hmode, List.dropLast_concat_getLast hne]
  · cases h

/-- **Signatures have one form.** A signature is read back from the bytes that it is written in.
What is read as a signature is a strict form of two integers and a known flag, and the numbers of
the signature are these integers, or zero where they are out of range. If they are in range, the
bytes are those that the signature is written in, so no two such byte strings are read as one
signature; none at all if neither number is zero. The signatures of taproot leaves are read from
no other bytes than those they are written in. -/
theorem ChannelSignature.one_form :
    (∀ sig, ofBytes sig.toBytes = .ok sig) ∧
    (∀ b sig, ofBytes b = .ok sig ↔ ∃ der x y, b = der ++ [sig.mode.flag] ∧
      Der.PairForm x y der ∧ sig.signature.r = Der.scalar x ∧
      sig.signature.s = Der.scalar y) ∧
    (∀ b sig, ofBytes b = .ok sig → Der.HoldsInRange b.dropLast → sig.toBytes = b) ∧
    (∀ b b' sig, ofBytes b = .ok sig → ofBytes b' = .ok sig →
      Der.HoldsInRange b.dropLast ∧ Der.HoldsInRange b'.dropLast ∨
        sig.signature.r ≠ 0 ∧ sig.signature.s ≠ 0 → b = b') ∧
    (∀ sig, TapscriptSignature.ofBytes sig.toBytes = .ok sig) ∧
    ∀ b sig, TapscriptSignature.ofBytes b = .ok sig → sig.toBytes = b := by
  refine ⟨ofBytes_toBytes, fun b sig => ?_, fun b sig => toBytes_of_holdsInRange,
    fun b b' sig h h' hone => ?_, TapscriptSignature.ofBytes_toBytes,
    fun b sig => TapscriptSignature.toBytes_of_ofBytes⟩
  · rw [ofBytes_eq_ok_iff]
    simp only [EcdsaSignature.ofDer?_eq_some_iff, exists_and_left]
  · rcases hone with ⟨hin, hin'⟩ | ⟨hr, hs⟩
    · rw [← toBytes_of_holdsInRange h hin, toBytes_of_holdsInRange h' hin']
    · rw [← toBytes_of_ne_zero h hr hs, toBytes_of_ne_zero h' hr hs]

/-- A negative integer is read as zero, so zero is read from more than one form. -/
example :
    (EcdsaSignature.ofDer? [0x30, 6, 2, 1, 0x00, 2, 1, 1]).map (·.r) = some 0 ∧
      (EcdsaSignature.ofDer? [0x30, 6, 2, 1, 0x80, 2, 1, 1]).map (·.r) = some 0 := by
  decide

end Supersede
