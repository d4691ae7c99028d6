import Supersede.Transaction.Basic

/-!
# Errors

Every operation that can fail says why with a value of `Error`. A cause belongs to one of four
areas: the balances of a channel, the protocol between its parties, scripts and signatures, and
the chain's rules. `Error.message` is the text shown for a cause.
-/

namespace Supersede

/-- HASH160 of a payment's preimage. -/
abbrev PaymentHash := Hash160

/-- The name by which a node knows a partner. -/
structure PeerId where
  id : UInt64
deriving DecidableEq

namespace PeerId

/-- The identifier as shown in messages. -/
def display (p : PeerId) : String := "peer-" ++ toString p.id.toNat

instance : Ord PeerId := ⟨fun a b => compare a.id b.id⟩

instance : Std.TransOrd PeerId where
  eq_swap {a b} := @Std.OrientedCmp.eq_swap UInt64 compare _ a.id b.id
  isLE_trans {a b c} := @Std.TransCmp.isLE_trans UInt64 compare _ a.id b.id c.id

instance : Std.LawfulEqOrd PeerId where
  compare_self {a} := Std.ReflOrd.compare_self (α := UInt64)
  eq_of_compare {a b} h := by
    have := Std.LawfulEqOrd.eq_of_compare (α := UInt64) h
    cases a; cases b; simp_all

end PeerId

/-- Why balances cannot change or a transaction cannot be built from them. -/
inductive LedgerError where
  | zeroPayment
  | insufficientBalance (balance amount : UInt64)
  | balanceOverflow
  | stateOverflow
  | notConserved (expected actual : UInt64)
  | duplicateInvoice (hash : PaymentHash)
  | invoiceNotFound (hash : PaymentHash)
  | redeemBelowFee (amount fee : UInt64)
  | closeBelowFee (amount fee : UInt64)
deriving DecidableEq

/-- Why a step of the protocol is refused. -/
inductive ProtocolError where
  | invalidSignature (detail : String)
  | missingSignature (detail : String)
  | stateNotIncreasing (current proposed : UInt32)
  | paymentDecreased (current proposed : UInt64)
  | offeredNotIncreasing (current proposed : UInt64)
  | proposalMismatch (detail : String)
  | invalidSecret (hash : PaymentHash)
  | commitmentMismatch (detail : String)
  | unknownPeer (peer : PeerId)
  | channelExists (peer : PeerId)
  | proposalInFlight (peer : PeerId)
  | noPendingProposal (peer : PeerId)
  | notFunder (peer : PeerId)
  | notCounterparty (peer : PeerId)
  | channelClosed (peer : PeerId)
deriving DecidableEq

/-- Why a digest, signature, key or script cannot be made or read. -/
inductive SigningError where
  | digest (detail : String)
  | inputOutOfRange (index inputs : Nat)
  | malformedSignature (detail : String)
  | unknownMode (flag : UInt8)
  | keyDerivation (detail : String)
  | outputScript (detail : String)
  | taproot (detail : String)
deriving DecidableEq

/-- Why the chain refuses a transaction. -/
inductive Rejection where
  | nonFinal
  | relativeLockUnmet
  | scriptFailed (input : Nat) (reason : String)
  | missingInputs (outpoint : OutPoint)
  | conflict (outpoint : OutPoint)
  | insufficientValue
  | other (reason : String)
deriving DecidableEq

/-- Why an operation failed. -/
inductive Error where
  | ledger (cause : LedgerError)
  | protocol (cause : ProtocolError)
  | signing (cause : SigningError)
  | rejected (cause : Rejection)
deriving DecidableEq

/-! ## Texts -/

namespace LedgerError

/-- The text of a ledger error; amounts are whole satoshis. -/
def message : LedgerError → String
  | zeroPayment => "Payment amount cannot be zero"
  | insufficientBalance balance amount =>
    s!"Insufficient balance: {balance.toNat} < {amount.toNat}"
  | balanceOverflow => "Balance overflow: would exceed maximum value"
  | stateOverflow => "State overflow: cannot increment further"
  | notConserved expected actual =>
    s!"Balance not conserved: expected {expected.toNat}, got {actual.toNat}"
  | duplicateInvoice hash => "Invoice already offered: " ++ hash.toHex
  | invoiceNotFound hash => "Invoice not found: " ++ hash.toHex
  | redeemBelowFee amount fee =>
    s!"Redeem amount {amount.toNat} does not exceed fee {fee.toNat}"
  | closeBelowFee amount fee => s!"Close amount {amount.toNat} is below fee {fee.toNat}"

end LedgerError

namespace ProtocolError

/-- The text of a protocol error. -/
def message : ProtocolError → String
  | invalidSignature detail => "Signature verification failed: " ++ detail
  | missingSignature detail => "Missing signature: " ++ detail
  | stateNotIncreasing current proposed =>
    s!"State not increasing: current {current.toNat}, proposed {proposed.toNat}"
  | paymentDecreased current proposed =>
    s!"Payment balance decreased: current {current.toNat}, proposed {proposed.toNat}"
  | offeredNotIncreasing current proposed =>
    s!"Offered total not increasing: current {current.toNat}, proposed {proposed.toNat}"
  | proposalMismatch detail => "Proposal mismatch: " ++ detail
  | invalidSecret hash => "Invalid secret for payment hash " ++ hash.toHex
  | commitmentMismatch detail => "Commitment mismatch: " ++ detail
  | unknownPeer peer => "Unknown peer: " ++ peer.display
  | channelExists peer => "Channel with " ++ peer.display ++ " already exists"
  | proposalInFlight peer => "Proposal already in flight with " ++ peer.display
  | noPendingProposal peer => "No pending proposal with " ++ peer.display
  | notFunder peer => "Not the funder of the channel with " ++ peer.display
  | notCounterparty peer => "Not the counterparty of the channel with " ++ peer.display
  | channelClosed peer => "Channel with " ++ peer.display ++ " is closed"

end ProtocolError

namespace SigningError

/-- The text of a signing error; an unknown flag is shown as two hexadecimal digits. -/
def message : SigningError → String
  | digest detail => "Sighash computation failed: " ++ detail
  | inputOutOfRange index inputs => s!"Input index {index} out of range for {inputs} inputs"
  | malformedSignature detail => "Invalid signature encoding: " ++ detail
  | unknownMode flag => "Invalid signing mode flag: 0x" ++ Bytes.toHex [flag]
  | keyDerivation detail => "Key derivation failed: " ++ detail
  | outputScript detail => "Invalid scriptPubkey: " ++ detail
  | taproot detail => "Taproot construction failed: " ++ detail

end SigningError

namespace Rejection

/-- The text of a rejection. -/
def message : Rejection → String
  | nonFinal => "non-final: lock time not reached"
  | relativeLockUnmet => "non-BIP68-final: relative lock time not elapsed"
  | scriptFailed input reason => s!"script verification failed on input {input}: {reason}"
  | missingInputs outpoint => "missing inputs: " ++ outpoint.display
  | conflict outpoint => "mempool conflict on " ++ outpoint.display
  | insufficientValue => "insufficient input value"
  | other reason => "rejected: " ++ reason

end Rejection

/-- The text shown for a cause. -/
def Error.message : Error → String
  | ledger cause => cause.message
  | protocol cause => cause.message
  | signing cause => cause.message
  | rejected cause => cause.message

/-- The outcome of an operation that can fail. -/
abbrev Result (α : Type) := Except Error α

instance : Coe LedgerError Error := ⟨.ledger⟩
instance : Coe ProtocolError Error := ⟨.protocol⟩
instance : Coe SigningError Error := ⟨.signing⟩
instance : Coe Rejection Error := ⟨.rejected⟩

end Supersede
