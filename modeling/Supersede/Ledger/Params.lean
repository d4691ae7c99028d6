import Supersede.Address.Network
import Supersede.Error
import Supersede.Ledger.Amount

/-!
# Channel parameters

The numbers on which both parties of a channel must agree, since both build its scripts and
transactions on their own. Each state has a lock time, counted up from a base: a later state has
the later lock time.
-/

namespace Supersede

/-- The parameters of a channel. -/
structure Params where
  network : Network := .regtest
  /-- The amount that the channel holds. -/
  capacity : Amount := 1000000
  /-- How many blocks an update can be disputed. -/
  disputeWindow : UInt16 := 20
  /-- Outputs of at most this amount are left out. -/
  dustLimit : Amount := 600
  /-- The fee of a sweep or a cooperative close. -/
  fee : Amount := 1000
  /-- The lock time of state 0. -/
  lockTimeBase : UInt32 := 500000000
deriving DecidableEq

/-- The sum of two lock times or state numbers, if it fits. -/
def addState (a b : UInt32) : Result UInt32 :=
  if a.toNat + b.toNat < UInt32.size then .ok (a + b) else .error (.ledger .stateOverflow)

namespace Params

/-- Whether an amount is worth an output. -/
def aboveDust (p : Params) (amount : Amount) : Bool := p.dustLimit < amount

/-- The lock time of a state and of its update. -/
def stateLockTime (p : Params) (state : UInt32) : Result UInt32 := addState p.lockTimeBase state

/-- The lock time of a state's settlement: one more than the state's. -/
def settleLockTime (p : Params) (state : UInt32) : Result UInt32 := do
  addState (← p.stateLockTime state) 1

end Params

end Supersede
