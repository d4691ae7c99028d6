import Supersede.Ledger.FeeSplit

/-!
# The fee of a close is shared exactly

The smaller balance pays up to half of the fee and the larger one the rest. The rest can be more
than half: if the fee is odd, or if the smaller side has less than its half. The larger side can
still pay it whenever both balances together cover the fee (`rest_le_larger`), so the two
subtractions at the end of `splitFee` never fail.

* `Payouts.Shares`: what a fee leaves of two balances, in natural numbers.
* `exists_splitFee`, `splitFee_of_overflow`, `splitFee_of_below`: the three outcomes.
* `Payouts.Shares.unique`, `Payouts.Shares.swap`: the payouts are determined by the balances, and do
  not depend on which side is the funder unless the balances are equal.

**Theorem (`splitFee_exact`).** The fee can be split exactly if the sum of the balances fits in 64
bits and covers the fee. Then both sides together pay the fee, neither pays more than it has, and
the smaller side pays half of the fee or all that it has.
-/

namespace Supersede

theorem Amount.exists_sub? {a b : Amount} (h : b.toNat ≤ a.toNat) : ∃ d, a.sub? b = some d :=
  ⟨a - b, if_pos (UInt64.le_iff_toNat_le.2 h)⟩

/-! ## Shares -/

/-- What the smaller side pays, as a number. -/
def shareOfSmaller (balance fee : Nat) : Nat := min (fee / 2) balance

theorem shareOfSmaller_le_fee (balance fee : Nat) : shareOfSmaller balance fee ≤ fee :=
  Nat.le_trans (Nat.min_le_left _ _) (Nat.div_le_self fee 2)

theorem shareOfSmaller_le_balance (balance fee : Nat) : shareOfSmaller balance fee ≤ balance :=
  Nat.min_le_right _ _

/-- If both balances cover the fee, the larger one covers what the smaller one leaves of it. -/
theorem rest_le_larger {smaller larger fee : Nat} (hle : smaller ≤ larger)
    (hfee : fee ≤ smaller + larger) : fee - shareOfSmaller smaller fee ≤ larger := by
  unfold shareOfSmaller
  by_cases hhalf : fee / 2 ≤ smaller
  · -- Half of the fee is left, rounded up. If the fee is odd, the larger side has the odd unit, as
    -- two balances of half the fee would not cover it.
    rw [Nat.min_eq_left hhalf]
    omega
  · rw [Nat.min_eq_right (by omega)]
    omega

theorem toNat_smallerShare (balance fee : Amount) :
    (smallerShare balance fee).toNat = shareOfSmaller balance.toNat fee.toNat := by
  have hhalf : (fee / 2).toNat = fee.toNat / 2 := UInt64.toNat_div fee 2
  rw [smallerShare, shareOfSmaller, Nat.min_def, ← hhalf]
  simp only [← UInt64.le_iff_toNat_le]
  exact apply_ite UInt64.toNat _ _ _

theorem toNat_rest (balance fee : Amount) :
    (fee - smallerShare balance fee).toNat =
      fee.toNat - shareOfSmaller balance.toNat fee.toNat := by
  have hle : smallerShare balance fee ≤ fee := by
    rw [UInt64.le_iff_toNat_le, toNat_smallerShare]
    exact shareOfSmaller_le_fee _ _
  rw [UInt64.toNat_sub_of_le _ _ hle, toNat_smallerShare]

/-- What a fee leaves of a smaller and a larger balance. -/
structure FeeTaken (fee smaller larger smallerLeft largerLeft : Nat) : Prop where
  smaller_pays : smallerLeft + shareOfSmaller smaller fee = smaller
  larger_pays : largerLeft + (fee - shareOfSmaller smaller fee) = larger

theorem FeeTaken.total {fee smaller larger smallerLeft largerLeft : Nat}
    (h : FeeTaken fee smaller larger smallerLeft largerLeft) :
    smallerLeft + largerLeft + fee = smaller + larger := by
  have hshare := shareOfSmaller_le_fee smaller fee
  have hsmaller := h.smaller_pays
  have hlarger := h.larger_pays
  omega

namespace Payouts

/-- The payouts with the sides exchanged. -/
def swap (out : Payouts) : Payouts := ⟨out.counterparty, out.funder⟩

/-- What a fee leaves of two balances. On a tie the funder counts as the smaller side. -/
structure Shares (out : Payouts) (funder counterparty fee : Amount) : Prop where
  total : out.funder.toNat + out.counterparty.toNat + fee.toNat =
    funder.toNat + counterparty.toNat
  funder_le : out.funder ≤ funder
  counterparty_le : out.counterparty ≤ counterparty
  funder_smaller : funder ≤ counterparty → FeeTaken fee.toNat funder.toNat counterparty.toNat
    out.funder.toNat out.counterparty.toNat
  counterparty_smaller : counterparty < funder → FeeTaken fee.toNat counterparty.toNat funder.toNat
    out.counterparty.toNat out.funder.toNat

namespace Shares

variable {out out' : Payouts} {funder counterparty fee : Amount}

theorem of_funder_smaller (hle : funder ≤ counterparty)
    (h : FeeTaken fee.toNat funder.toNat counterparty.toNat out.funder.toNat
      out.counterparty.toNat) : out.Shares funder counterparty fee where
  total := h.total
  funder_le := by
    rw [UInt64.le_iff_toNat_le, ← h.smaller_pays]
    exact Nat.le_add_right _ _
  counterparty_le := by
    rw [UInt64.le_iff_toNat_le, ← h.larger_pays]
    exact Nat.le_add_right _ _
  funder_smaller _ := h
  counterparty_smaller hlt := absurd hle (UInt64.not_le.2 hlt)

theorem of_counterparty_smaller (hlt : counterparty < funder)
    (h : FeeTaken fee.toNat counterparty.toNat funder.toNat out.counterparty.toNat
      out.funder.toNat) : out.Shares funder counterparty fee where
  total := by
    have htotal := h.total
    omega
  funder_le := by
    rw [UInt64.le_iff_toNat_le, ← h.larger_pays]
    exact Nat.le_add_right _ _
  counterparty_le := by
    rw [UInt64.le_iff_toNat_le, ← h.smaller_pays]
    exact Nat.le_add_right _ _
  funder_smaller hle := absurd hle (UInt64.not_le.2 hlt)
  counterparty_smaller _ := h

/-- Only on a tie does it matter which side is the funder. -/
theorem swap (h : out.Shares funder counterparty fee) (hne : funder ≠ counterparty) :
    out.swap.Shares counterparty funder fee := by
  by_cases hle : counterparty ≤ funder
  · have hlt : counterparty < funder := UInt64.lt_of_le_of_ne hle (Ne.symm hne)
    exact of_funder_smaller hle (h.counterparty_smaller hlt)
  · have hlt : funder < counterparty := UInt64.not_le.1 hle
    exact of_counterparty_smaller hlt (h.funder_smaller (UInt64.le_of_lt hlt))

/-- The balances and the fee determine the payouts. -/
theorem unique (h : out.Shares funder counterparty fee)
    (h' : out'.Shares funder counterparty fee) : out = out' := by
  have hboth : out.funder.toNat = out'.funder.toNat ∧
      out.counterparty.toNat = out'.counterparty.toNat := by
    by_cases hle : funder ≤ counterparty
    · obtain ⟨hsmaller, hlarger⟩ := h.funder_smaller hle
      obtain ⟨hsmaller', hlarger'⟩ := h'.funder_smaller hle
      omega
    · obtain ⟨hsmaller, hlarger⟩ := h.counterparty_smaller (UInt64.not_le.1 hle)
      obtain ⟨hsmaller', hlarger'⟩ := h'.counterparty_smaller (UInt64.not_le.1 hle)
      omega
  have hfunder : out.funder = out'.funder := UInt64.toNat_inj.1 hboth.1
  have hcounterparty : out.counterparty = out'.counterparty := UInt64.toNat_inj.1 hboth.2
  cases out
  cases out'
  cases hfunder
  cases hcounterparty
  rfl

end Shares

end Payouts

/-! ## The three outcomes -/

section Outcomes

variable {funder counterparty fee : Amount} {out : Payouts}

theorem splitFee_of_overflow (fee : Amount) (h : UInt64.size ≤ funder.toNat + counterparty.toNat) :
    splitFee funder counterparty fee = .error (.ledger .balanceOverflow) := by
  have hnone : funder.add? counterparty = none := if_neg (Nat.not_lt.2 h)
  rw [splitFee, hnone]

theorem splitFee_of_below (hfit : funder.toNat + counterparty.toNat < UInt64.size)
    (hfee : funder.toNat + counterparty.toNat < fee.toNat) :
    splitFee funder counterparty fee =
      .error (.ledger (.closeBelowFee (funder + counterparty) fee)) := by
  have htotal : funder.add? counterparty = some (funder + counterparty) := if_pos hfit
  have hbelow : funder + counterparty < fee := by
    rw [UInt64.lt_iff_toNat_lt, Amount.toNat_add? htotal]
    exact hfee
  rw [splitFee, htotal]
  exact if_pos hbelow

/-- Balances that cover the fee can pay it, each side its share. -/
theorem exists_splitFee (hfit : funder.toNat + counterparty.toNat < UInt64.size)
    (hfee : fee.toNat ≤ funder.toNat + counterparty.toNat) :
    ∃ out, splitFee funder counterparty fee = .ok out ∧
      out.Shares funder counterparty fee := by
  have htotal : funder.add? counterparty = some (funder + counterparty) := if_pos hfit
  have hcovered : ¬ funder + counterparty < fee := by
    rw [UInt64.lt_iff_toNat_lt, Amount.toNat_add? htotal]
    exact Nat.not_lt.2 hfee
  simp only [splitFee, htotal, if_neg hcovered]
  by_cases hlt : counterparty < funder
  · have hrest := rest_le_larger (UInt64.le_iff_toNat_le.1 (UInt64.le_of_lt hlt))
      (Nat.add_comm funder.toNat _ ▸ hfee)
    rw [← toNat_rest] at hrest
    obtain ⟨f, hf⟩ := Amount.exists_sub? hrest
    obtain ⟨c, hc⟩ := Amount.exists_sub? (a := counterparty)
      (b := smallerShare counterparty fee)
      (by rw [toNat_smallerShare]; exact shareOfSmaller_le_balance _ _)
    simp only [if_pos hlt, hf, hc]
    refine ⟨⟨f, c⟩, rfl, .of_counterparty_smaller hlt ⟨?_, ?_⟩⟩
    · rw [← toNat_smallerShare]
      exact Amount.toNat_sub? hc
    · rw [← toNat_rest]
      exact Amount.toNat_sub? hf
  · have hle : funder ≤ counterparty := UInt64.not_lt.1 hlt
    have hrest := rest_le_larger (UInt64.le_iff_toNat_le.1 hle) hfee
    rw [← toNat_rest] at hrest
    obtain ⟨c, hc⟩ := Amount.exists_sub? hrest
    obtain ⟨f, hf⟩ := Amount.exists_sub? (a := funder) (b := smallerShare funder fee)
      (by rw [toNat_smallerShare]; exact shareOfSmaller_le_balance _ _)
    simp only [if_neg hlt, hf, hc]
    refine ⟨⟨f, c⟩, rfl, .of_funder_smaller hle ⟨?_, ?_⟩⟩
    · rw [← toNat_smallerShare]
      exact Amount.toNat_sub? hf
    · rw [← toNat_rest]
      exact Amount.toNat_sub? hc

/-- There are no other outcomes: what succeeds has passed both checks. -/
theorem splitFee_eq_ok_iff :
    splitFee funder counterparty fee = .ok out ↔
      funder.toNat + counterparty.toNat < UInt64.size ∧
        fee.toNat ≤ funder.toNat + counterparty.toNat ∧ out.Shares funder counterparty fee := by
  by_cases hfit : funder.toNat + counterparty.toNat < UInt64.size
  · by_cases hfee : fee.toNat ≤ funder.toNat + counterparty.toNat
    · obtain ⟨out', hsplit, hshares⟩ := exists_splitFee hfit hfee
      rw [hsplit]
      constructor
      · intro heq
        cases heq
        exact ⟨hfit, hfee, hshares⟩
      · rintro ⟨-, -, hout⟩
        rw [hout.unique hshares]
    · rw [splitFee_of_below hfit (Nat.not_le.1 hfee)]
      constructor
      · intro heq
        cases heq
      · rintro ⟨-, hcovered, -⟩
        exact absurd hcovered hfee
  · rw [splitFee_of_overflow fee (Nat.not_lt.1 hfit)]
    constructor
    · intro heq
      cases heq
    · rintro ⟨hfits, -⟩
      exact absurd hfits hfit

end Outcomes

/-- **The fee of a close is shared exactly.** -/
theorem splitFee_exact (funder counterparty fee : Amount) :
    ((∃ out, splitFee funder counterparty fee = .ok out) ↔
      funder.toNat + counterparty.toNat < UInt64.size ∧
        fee.toNat ≤ funder.toNat + counterparty.toNat) ∧
    (∀ e, splitFee funder counterparty fee = .error e →
      (UInt64.size ≤ funder.toNat + counterparty.toNat ∧ e = .ledger .balanceOverflow) ∨
        (funder.toNat + counterparty.toNat < fee.toNat ∧
          e = .ledger (.closeBelowFee (funder + counterparty) fee))) ∧
    ∀ out, splitFee funder counterparty fee = .ok out →
      out.Shares funder counterparty fee ∧
        (funder ≠ counterparty → splitFee counterparty funder fee = .ok out.swap) := by
  refine ⟨?_, ?_, ?_⟩
  · constructor
    · rintro ⟨out, hout⟩
      obtain ⟨hfit, hfee, -⟩ := splitFee_eq_ok_iff.1 hout
      exact ⟨hfit, hfee⟩
    · rintro ⟨hfit, hfee⟩
      obtain ⟨out, hout, -⟩ := exists_splitFee hfit hfee
      exact ⟨out, hout⟩
  · intro e he
    by_cases hfit : funder.toNat + counterparty.toNat < UInt64.size
    · by_cases hfee : fee.toNat ≤ funder.toNat + counterparty.toNat
      · obtain ⟨out, hout, -⟩ := exists_splitFee hfit hfee
        rw [hout] at he
        cases he
      · rw [splitFee_of_below hfit (Nat.not_le.1 hfee)] at he
        cases he
        exact .inr ⟨Nat.not_le.1 hfee, rfl⟩
    · rw [splitFee_of_overflow fee (Nat.not_lt.1 hfit)] at he
      cases he
      exact .inl ⟨Nat.not_lt.1 hfit, rfl⟩
  · intro out hout
    obtain ⟨hfit, hfee, hshares⟩ := splitFee_eq_ok_iff.1 hout
    refine ⟨hshares, ?_⟩
    intro hne
    rw [Nat.add_comm] at hfit hfee
    exact splitFee_eq_ok_iff.2 ⟨hfit, hfee, hshares.swap hne⟩

/-- A tie at an odd fee, and a smaller side that has less than half of the fee. -/
example : splitFee 501 501 1001 = .ok ⟨1, 0⟩ ∧ splitFee 1000000 200 1000 = .ok ⟨999200, 0⟩ :=
  ⟨rfl, rfl⟩

end Supersede
