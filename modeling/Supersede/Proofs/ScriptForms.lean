import Supersede.Proofs.Binding
import Supersede.Proofs.Taproot

/-!
# Scripts tell what they were made of

A script is made of keys, hashes and numbers, and a number takes one to six bytes, by its size.
Still no two sets of arguments give the same bytes: a script is read back as its instructions, and
each argument stands in one of them.

* `WitnessScript`, `Leaf`: the scripts of a channel by their kind, with their arguments.
* `WitnessScript.ofBytes_script`, `Leaf.ofBytes_script`: the instructions that are read back.
* `WitnessScript.code_injective`, `Leaf.code_injective`: they determine the kind and the arguments.

**Theorem (`Script.arguments_unique`).** Every kind of script determines its arguments. An update
script is never a payment script, and leaves of different kinds are different.
-/

namespace Supersede

/-! ## Arguments of instructions -/

theorem Instruction.eq_of_number_blocks {n m : UInt16} (h : number n.toNat = number m.toNat) :
    n = m :=
  have hlt (n : UInt16) : n.toNat < 2 ^ 64 := n.toNat_lt.trans (by decide)
  UInt16.toNat_inj.1 (eq_of_number (hlt n) (hlt m) h)

theorem Instruction.eq_of_number_time {n m : UInt32} (h : number n.toNat = number m.toNat) :
    n = m :=
  have hlt (n : UInt32) : n.toNat < 2 ^ 64 := n.toNat_lt.trans (by decide)
  UInt32.toNat_inj.1 (eq_of_number (hlt n) (hlt m) h)

theorem PublicKey.toBytes_injective : Function.Injective toBytes := by
  intro k k' h
  have hread := congrArg ofBytes? h
  rw [ofBytes?_toBytes, ofBytes?_toBytes] at hread
  exact Option.some.inj hread

theorem XOnlyKey.toBytes_injective : Function.Injective toBytes := by
  intro k k' h
  have hread := congrArg ofBytes? h
  rw [ofBytes?_toBytes, ofBytes?_toBytes] at hread
  exact Option.some.inj hread

/-- A script that can be read back determines what it is written from, if the instructions do. -/
theorem Script.injective_of_code {α : Type} {script : α → Bytes} {code : α → List Instruction}
    (hread : ∀ a, Code.ofBytes (script a) = ⟨code a, false⟩) (hcode : Function.Injective code) :
    Function.Injective script := by
  intro a b h
  have hsame := congrArg Code.ofBytes h
  rw [hread, hread] at hsame
  exact hcode (Code.mk.inj hsame).1

/-! ## Witness scripts -/

/-- The witness scripts of a channel. -/
inductive WitnessScript where
  | update (keys : UpdateKeys) (window : UInt16) (lockTime : UInt32)
  | payment (refundKey paymentKey : PublicKey) (hash : Hash160) (expiry : UInt32)

namespace WitnessScript

/-- The bytes of the script. -/
def script : WitnessScript → Bytes
  | update keys window lockTime => Script.update keys window lockTime
  | payment refundKey paymentKey hash expiry => Script.payment refundKey paymentKey hash expiry

/-- The instructions of the script. -/
def code : WitnessScript → List Instruction
  | update keys window lockTime => Script.updateCode keys window lockTime
  | payment refundKey paymentKey hash expiry => Script.paymentCode refundKey paymentKey hash expiry

theorem ofBytes_script (s : WitnessScript) : Code.ofBytes s.script = ⟨s.code, false⟩ := by
  cases s with
  | update => exact Script.ofBytes_update ..
  | payment => exact Script.ofBytes_payment ..

theorem code_injective : Function.Injective code := by
  intro a b h
  cases a with
  | update keys window lockTime =>
    cases b with
    | update keys' window' lockTime' =>
      simp only [code, Script.updateCode, List.cons.injEq, Instruction.push.injEq, true_and,
        and_true] at h
      obtain ⟨hfunder, hother, hfunderSettle, hotherSettle, hwindow, hlockTime⟩ := h
      obtain rfl : keys = keys' := by
        cases keys
        cases keys'
        simp only [UpdateKeys.mk.injEq]
        exact ⟨PublicKey.toBytes_injective hfunder, PublicKey.toBytes_injective hother,
          PublicKey.toBytes_injective hfunderSettle, PublicKey.toBytes_injective hotherSettle⟩
      rw [Instruction.eq_of_number_blocks hwindow, Instruction.eq_of_number_time hlockTime]
    | payment => cases (List.cons.inj h).1
  | payment refundKey paymentKey hash expiry =>
    cases b with
    | update => cases (List.cons.inj h).1
    | payment refundKey' paymentKey' hash' expiry' =>
      simp only [code, Script.paymentCode, List.cons.injEq, Instruction.push.injEq, true_and,
        and_true] at h
      obtain ⟨hhash, hpayment, hexpiry, hrefund⟩ := h
      rw [FixedBytes.ext hhash, PublicKey.toBytes_injective hpayment,
        Instruction.eq_of_number_time hexpiry, PublicKey.toBytes_injective hrefund]

theorem script_injective : Function.Injective script :=
  Script.injective_of_code ofBytes_script code_injective

end WitnessScript

/-! ## Leaves -/

namespace Script

theorem timedCode_inj {n n' : Nat} {check check' : Op} {push push' : Instruction}
    (h : timedCode n check push = timedCode n' check' push') :
    Instruction.number n = .number n' ∧ check = check' ∧ push = push' := by
  simpa [timedCode] using h

/-- The second instruction of a leaf with a time lock is an operation, that of a claim a push. -/
theorem timedCode_ne_claimLeafCode {n : Nat} {check : Op} {push : Instruction} {hash : Hash160}
    {key : XOnlyKey} : timedCode n check push ≠ claimLeafCode hash key := by
  simp [timedCode, claimLeafCode]

end Script

/-- The leaves of the taproot outputs of a channel. -/
inductive Leaf where
  | update (lockTime : UInt32)
  | settle (window : UInt16)
  | claim (hash : Hash160) (key : XOnlyKey)
  | refund (expiry : UInt32) (key : XOnlyKey)

namespace Leaf

/-- The bytes of the script. -/
def script : Leaf → Bytes
  | update lockTime => Script.updateLeaf lockTime
  | settle window => Script.settleLeaf window
  | claim hash key => Script.claimLeaf hash key
  | refund expiry key => Script.refundLeaf expiry key

/-- The instructions of the script. -/
def code : Leaf → List Instruction
  | update lockTime => Script.timedCode lockTime.toNat .checkLockTime (.number 1)
  | settle window => Script.timedCode window.toNat .checkSequence (.number 1)
  | claim hash key => Script.claimLeafCode hash key
  | refund expiry key => Script.timedCode expiry.toNat .checkLockTime (.push key.toBytes)

theorem ofBytes_script (leaf : Leaf) : Code.ofBytes leaf.script = ⟨leaf.code, false⟩ := by
  have hnumber := Instruction.readable_number 1
  have hkey (key : XOnlyKey) : (Instruction.push key.toBytes).Readable :=
    Script.readable_push_fixed (by decide) _
  cases leaf with
  | update lockTime =>
    exact Code.ofBytes_encode (Script.readable_timedCode _ (.inl rfl) hnumber)
  | settle window =>
    exact Code.ofBytes_encode (Script.readable_timedCode _ (.inr rfl) hnumber)
  | claim hash key => exact Code.ofBytes_encode (Script.readable_claimLeafCode hash key)
  | refund expiry key =>
    exact Code.ofBytes_encode (Script.readable_timedCode _ (.inl rfl) (hkey key))

/-- The key of a refund takes 32 bytes, where the other leaves with a time lock push a number. -/
theorem number_one_ne_push (key : XOnlyKey) : Instruction.number 1 ≠ .push key.toBytes := by
  simp [Instruction.number]

theorem code_injective : Function.Injective code := by
  intro a b h
  cases a with
  | update lockTime =>
    cases b with
    | update => rw [Instruction.eq_of_number_time (Script.timedCode_inj h).1]
    | settle => cases (Script.timedCode_inj h).2.1
    | claim => exact absurd h Script.timedCode_ne_claimLeafCode
    | refund expiry key => exact absurd (Script.timedCode_inj h).2.2 (number_one_ne_push key)
  | settle window =>
    cases b with
    | update => cases (Script.timedCode_inj h).2.1
    | settle => rw [Instruction.eq_of_number_blocks (Script.timedCode_inj h).1]
    | claim => exact absurd h Script.timedCode_ne_claimLeafCode
    | refund => cases (Script.timedCode_inj h).2.1
  | claim hash key =>
    cases b with
    | update | settle | refund => exact absurd h.symm Script.timedCode_ne_claimLeafCode
    | claim hash' key' =>
      simp only [code, Script.claimLeafCode, List.cons.injEq, Instruction.push.injEq, true_and,
        and_true] at h
      rw [FixedBytes.ext h.1, XOnlyKey.toBytes_injective h.2]
  | refund expiry key =>
    cases b with
    | update => exact absurd (Script.timedCode_inj h).2.2.symm (number_one_ne_push key)
    | settle => cases (Script.timedCode_inj h).2.1
    | claim => exact absurd h Script.timedCode_ne_claimLeafCode
    | refund expiry' key' =>
      obtain ⟨hexpiry, -, hkey⟩ := Script.timedCode_inj h
      rw [Instruction.eq_of_number_time hexpiry,
        XOnlyKey.toBytes_injective (Instruction.push.inj hkey)]

theorem script_injective : Function.Injective script :=
  Script.injective_of_code ofBytes_script code_injective

end Leaf

/-- **Scripts tell what they were made of.** Equal update scripts have equal keys, windows and lock
times, equal payment scripts have equal keys, hashes and expiries, and equal leaves of one kind have
equal arguments. Whatever the arguments, an update script is not a payment script, and the four
kinds of leaves give four different scripts. -/
theorem Script.arguments_unique :
    (∀ keys keys' window window' lockTime lockTime',
      update keys window lockTime = update keys' window' lockTime' →
        keys = keys' ∧ window = window' ∧ lockTime = lockTime') ∧
    (∀ refundKey refundKey' paymentKey paymentKey' hash hash' expiry expiry',
      payment refundKey paymentKey hash expiry = payment refundKey' paymentKey' hash' expiry' →
        refundKey = refundKey' ∧ paymentKey = paymentKey' ∧ hash = hash' ∧ expiry = expiry') ∧
    (∀ lockTime lockTime', updateLeaf lockTime = updateLeaf lockTime' → lockTime = lockTime') ∧
    (∀ window window', settleLeaf window = settleLeaf window' → window = window') ∧
    (∀ hash hash' key key', claimLeaf hash key = claimLeaf hash' key' →
      hash = hash' ∧ key = key') ∧
    (∀ expiry expiry' key key', refundLeaf expiry key = refundLeaf expiry' key' →
      expiry = expiry' ∧ key = key') ∧
    (∀ keys window lockTime refundKey paymentKey hash expiry,
      update keys window lockTime ≠ payment refundKey paymentKey hash expiry) ∧
    ∀ lockTime window hash claimKey expiry refundKey,
      [updateLeaf lockTime, settleLeaf window, claimLeaf hash claimKey,
        refundLeaf expiry refundKey].Nodup := by
  have hscript {a b : WitnessScript} (h : a.script = b.script) : a = b :=
    WitnessScript.script_injective h
  have hleaf {a b : Leaf} (h : a.script = b.script) : a = b := Leaf.script_injective h
  refine ⟨?_, ?_, ?_, ?_, ?_, ?_, ?_, ?_⟩
  · intro keys keys' window window' lockTime lockTime' h
    exact WitnessScript.update.inj
      (hscript (a := .update keys window lockTime) (b := .update keys' window' lockTime') h)
  · intro refundKey refundKey' paymentKey paymentKey' hash hash' expiry expiry' h
    exact WitnessScript.payment.inj (hscript (a := .payment refundKey paymentKey hash expiry)
      (b := .payment refundKey' paymentKey' hash' expiry') h)
  · intro lockTime lockTime' h
    exact Leaf.update.inj (hleaf (a := .update lockTime) (b := .update lockTime') h)
  · intro window window' h
    exact Leaf.settle.inj (hleaf (a := .settle window) (b := .settle window') h)
  · intro hash hash' key key' h
    exact Leaf.claim.inj (hleaf (a := .claim hash key) (b := .claim hash' key') h)
  · intro expiry expiry' key key' h
    exact Leaf.refund.inj (hleaf (a := .refund expiry key) (b := .refund expiry' key') h)
  · intro keys window lockTime refundKey paymentKey hash expiry h
    cases hscript (a := .update keys window lockTime)
      (b := .payment refundKey paymentKey hash expiry) h
  · intro lockTime window hash claimKey expiry refundKey
    have hdistinct : [Leaf.update lockTime, .settle window, .claim hash claimKey,
        .refund expiry refundKey].Nodup := by
      simp
    exact hdistinct.map Leaf.script_injective

end Supersede
