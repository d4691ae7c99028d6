import Supersede.Ledger.Invoice
import Supersede.Ledger.Params
import Supersede.Ledger.Party
import Supersede.Script.Template
import Supersede.SortedMap

/-!
# Channel snapshots

A snapshot is one state of a channel: a number, the keys of both parties in that state, the two
settled balances and the payments on offer. Snapshots never change; offering or resolving payments
gives the snapshot of the next state.

In every snapshot that the protocol accepts the balances are conserved: the settled balances and
the offered payments add up to what the channel holds.
-/

namespace Supersede

/-- Secrets by the hash that they are said to match. -/
abbrev Secrets := SortedMap PaymentHash Preimage

/-- One state of a channel. -/
structure Snapshot where
  state : UInt32
  /-- The amount that the channel holds. -/
  capacity : Amount
  funder : PartyKeys
  counterparty : PartyKeys
  /-- What the funder gets back. -/
  refund : Amount
  /-- What the counterparty has earned. -/
  payment : Amount
  /-- The payments on offer, by their hash. -/
  offered : SortedMap PaymentHash Invoice
deriving DecidableEq

/-- The identifier of a channel. -/
structure ChannelId where
  bytes : Hash256
deriving DecidableEq

namespace ChannelId

/-- The identifier in hexadecimal. -/
def display (c : ChannelId) : String := c.bytes.toHex

/-- The first four bytes. -/
def short (c : ChannelId) : String := Bytes.toHex (c.bytes.toBytes.take 4)

/-- The domain in which identifiers are hashed. -/
def domain : String := "ELTOO_CH_v0"

end ChannelId

namespace Snapshot

/-- The keys of a side. -/
def party (c : Snapshot) : Role → PartyKeys
  | .funder => c.funder
  | .counterparty => c.counterparty

/-- The identifier: a hash of both update keys. -/
def channelId (c : Snapshot) : ChannelId :=
  ⟨sha256 (Bytes.ofText ChannelId.domain ++ c.funder.updateKey.toBytes ++
    c.counterparty.updateKey.toBytes)⟩

/-! ## Balances -/

/-- The sum of some invoices. -/
def invoiceTotal (invoices : List Invoice) : Result Amount :=
  match Amount.sum? (invoices.map (·.amount)) with
  | some total => .ok total
  | none => .error (.ledger .balanceOverflow)

/-- The sum of two balances. -/
def addBalance (a b : Amount) : Result Amount :=
  match a.add? b with
  | some sum => .ok sum
  | none => .error (.ledger .balanceOverflow)

/-- The sum of the payments on offer. -/
def offeredTotal (c : Snapshot) : Result Amount := invoiceTotal c.offered.values

/-- The sum of both settled balances and the payments on offer. -/
def total (c : Snapshot) : Result Amount := do
  addBalance (← addBalance c.refund c.payment) (← c.offeredTotal)

/-- Checks that the balances add up to what the channel holds. -/
def checkConservation (c : Snapshot) : Result Unit := do
  let actual ← c.total
  if actual = c.capacity then .ok () else .error (.ledger (.notConserved c.capacity actual))

/-- The update script of the state. -/
def updateScript (c : Snapshot) (p : Params) : Result Bytes := do
  let lockTime ← p.stateLockTime c.state
  return Script.update
    ⟨c.funder.updateKey, c.counterparty.updateKey, c.funder.settleKey, c.counterparty.settleKey⟩
    p.disputeWindow lockTime

/-! ## Secrets -/

/-- The known secrets of the payments on offer that have not expired. -/
def redeemableSecrets (c : Snapshot) (known : Secrets) (blockTime : UInt32) : Secrets :=
  c.offered.filterMap fun hash invoice =>
    if invoice.isExpired blockTime then none else known.get? hash

/-- Whether a payment can be credited to the counterparty: it has not expired and its secret is
among those given. -/
def isRedeemed (secrets : Secrets) (blockTime : UInt32) (hash : PaymentHash) (invoice : Invoice) :
    Bool :=
  !invoice.isExpired blockTime &&
    match secrets.get? hash with
    | some secret => secret.unlocks hash
    | none => false

/-! ## Next states -/

section Scheme

variable [KeyScheme]

/-- State 0 of a channel: the funder owns everything. -/
def opening (funder counterparty : PartyKeys) (capacity : Amount) : Result Snapshot := do
  let funder ← funder.atState 0
  let counterparty ← counterparty.atState 0
  return ⟨0, capacity, funder, counterparty, capacity, 0, ∅⟩

/-- The next state with unchanged balances. -/
def nextState (c : Snapshot) : Result Snapshot := do
  let state ← addState c.state 1
  let funder ← c.funder.atState state
  let counterparty ← c.counterparty.atState state
  return { c with state, funder, counterparty }

/-- The next state, in which the funder offers a payment. -/
def offer (c : Snapshot) (invoice : Invoice) : Result Snapshot := do
  if invoice.amount = 0 then
    .error (.ledger .zeroPayment)
  else if c.offered.contains invoice.hash then
    .error (.ledger (.duplicateInvoice invoice.hash))
  else
    match c.refund.sub? invoice.amount with
    | none => .error (.ledger (.insufficientBalance c.refund invoice.amount))
    | some refund =>
      let next ← c.nextState
      let next := { next with refund, offered := c.offered.insert invoice.hash invoice }
      next.checkConservation
      return next

/-- The next state, in which expired payments went back to the funder and payments whose secret is
given went to the counterparty. -/
def resolve (c : Snapshot) (secrets : Secrets) (blockTime : UInt32) : Result Snapshot := do
  let next ← c.nextState
  let expired := c.offered.filter fun _ invoice => invoice.isExpired blockTime
  let redeemed := c.offered.filter (isRedeemed secrets blockTime)
  let offered := c.offered.filter fun hash invoice =>
    !invoice.isExpired blockTime && !isRedeemed secrets blockTime hash invoice
  let refund ← addBalance c.refund (← invoiceTotal expired.values)
  let payment ← addBalance c.payment (← invoiceTotal redeemed.values)
  let next := { next with refund, payment, offered }
  next.checkConservation
  return next

end Scheme

end Snapshot

end Supersede
