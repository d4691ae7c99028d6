import Supersede.Error
import Supersede.Ledger.Amount

/-!
# Sharing the fee of a close

Both parties pay for a cooperative close. The smaller balance pays up to half of the fee, the larger
one the rest.
-/

namespace Supersede

/-- What each party gets from a close. -/
structure Payouts where
  funder : Amount
  counterparty : Amount
deriving DecidableEq

/-- What the smaller side pays: half of the fee, or all that it has. -/
def smallerShare (balance fee : Amount) : Amount := min (fee / 2) balance

/-- The balances less each side's share of the fee. On a tie the funder counts as the smaller
side. -/
def splitFee (funder counterparty fee : Amount) : Result Payouts :=
  match funder.add? counterparty with
  | none => .error (.ledger .balanceOverflow)
  | some total =>
    let belowFee : Result Payouts := .error (.ledger (.closeBelowFee total fee))
    if total < fee then belowFee
    else
      let (funderShare, counterpartyShare) :=
        if counterparty < funder then
          let share := smallerShare counterparty fee
          (fee - share, share)
        else
          let share := smallerShare funder fee
          (share, fee - share)
      match funder.sub? funderShare, counterparty.sub? counterpartyShare with
      | some f, some c => .ok ⟨f, c⟩
      | _, _ => belowFee

end Supersede
