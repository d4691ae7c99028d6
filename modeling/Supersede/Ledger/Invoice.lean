import Supersede.Error
import Supersede.Ledger.Amount
import Supersede.Transaction.LockTime

/-!
# Invoices

An invoice asks for an amount, to be paid to whoever shows the preimage of a hash before the
expiry.
-/

namespace Supersede

/-- The secret that releases a payment. -/
abbrev Preimage := FixedBytes 32

namespace Preimage

/-- The hash of the secret. -/
def paymentHash (p : Preimage) : PaymentHash := hash160 p.toBytes

/-- Whether the secret releases payments locked to a hash. -/
def unlocks (p : Preimage) (hash : PaymentHash) : Bool := p.paymentHash == hash

/-- The text shown for a secret: its hash, never the secret itself. -/
def display (p : Preimage) : String := "Preimage(" ++ p.paymentHash.toHex ++ ")"

end Preimage

/-- A request for a payment. -/
structure Invoice where
  id : UInt64
  hash : PaymentHash
  amount : Amount
  expiry : UInt32
deriving DecidableEq

namespace Invoice

/-- An invoice for an amount other than zero. -/
def create (id : UInt64) (hash : PaymentHash) (amount : Amount) (expiry : UInt32) :
    Result Invoice :=
  if amount = 0 then .error (.ledger .zeroPayment) else .ok ⟨id, hash, amount, expiry⟩

/-- Whether the expiry has been reached. -/
def isExpired (i : Invoice) (blockTime : UInt32) : Bool := LockTime.isExpired i.expiry blockTime

end Invoice

end Supersede
