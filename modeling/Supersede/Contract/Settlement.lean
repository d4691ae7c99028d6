import Supersede.Contract.Cosigned
import Supersede.Contract.Witness
import Supersede.Ledger.Snapshot

/-!
# Settlements

A settlement pays out the balances of one state. It spends the output of that state's update, once
the dispute window has gone by, and creates an output for each balance and each offered payment
that is above dust.
-/

namespace Supersede

/-- What an output of a settlement pays. -/
inductive SettlementPart where
  | refund
  | payment
  | offered (hash : PaymentHash)
deriving DecidableEq

/-- An amount that a settlement is to pay, with the script that its spender signs and the script
that locks it. -/
structure SettlementItem where
  part : SettlementPart
  value : Amount
  scriptCode : Bytes
  lock : Bytes
deriving DecidableEq

/-- An output of a settlement at its position. -/
structure SettlementOutput where
  part : SettlementPart
  vout : UInt32
  value : Amount
  scriptCode : Bytes
deriving DecidableEq

/-- The settlement of one state. -/
structure Settlement where
  snapshot : Snapshot
  updateScript : Bytes
  /-- The transaction, with no output named in its input yet. -/
  template : Transaction
  outputs : List SettlementOutput
deriving DecidableEq

/-- A settlement with signatures. -/
abbrev SettleTx := Cosigned Settlement

namespace Snapshot

/-- A balance paid to a key. -/
def balanceItem (part : SettlementPart) (value : Amount) (key : PublicKey) : SettlementItem :=
  ⟨part, value, Script.payoutCode key, Script.payout key⟩

/-- The script that locks an offered payment. -/
def paymentScript (c : Snapshot) (hash : PaymentHash) (invoice : Invoice) : Bytes :=
  Script.payment c.funder.paymentKey c.counterparty.paymentKey hash invoice.expiry

/-- An offered payment. -/
def offeredItem (c : Snapshot) (hash : PaymentHash) (invoice : Invoice) : SettlementItem :=
  let script := c.paymentScript hash invoice
  ⟨.offered hash, invoice.amount, script, Script.lock script⟩

/-- All amounts of a state: the refund, the payment, then the offered payments by their hash. -/
def settlementItems (c : Snapshot) : List SettlementItem :=
  balanceItem .refund c.refund c.funder.paymentKey ::
    balanceItem .payment c.payment c.counterparty.paymentKey ::
    c.offered.entries.map fun (hash, invoice) => c.offeredItem hash invoice

end Snapshot

namespace Settlement

/-- The items with their positions. -/
def layout (items : List SettlementItem) : List SettlementOutput :=
  items.mapIdx fun i item => ⟨item.part, UInt32.ofNat i, item.value, item.scriptCode⟩

/-- The settlement of a snapshot. -/
def build (c : Snapshot) (p : Params) : Result Settlement := do
  c.checkConservation
  let items := c.settlementItems.filter fun item => p.aboveDust item.value
  let updateScript ← c.updateScript p
  let lockTime ← p.settleLockTime c.state
  return {
    snapshot := c
    updateScript
    template := {
      version := 2
      lockTime
      inputs := [{ outpoint := .null, sequence := LockTime.sequenceForBlocks p.disputeWindow }]
      outputs := items.map fun item => ⟨item.value, item.lock⟩ }
    outputs := layout items }

/-- The state number. -/
def state (s : Settlement) : UInt32 := s.snapshot.state

/-- The output that pays a part, if it is above dust. -/
def output? (s : Settlement) (part : SettlementPart) : Option SettlementOutput :=
  s.outputs.find? (·.part == part)

/-- The sequence number of the template's input. -/
def sequence (s : Settlement) : UInt32 :=
  match s.template.inputs with
  | input :: _ => input.sequence
  | [] => LockTime.finalSequence

instance : Signable Settlement where
  subject s := {
    transaction := s.template
    scriptCode := s.updateScript
    value := s.snapshot.capacity
    mode := .anyPrevOut
    key := fun role => (s.snapshot.party role).settleKey
    describe := fun role => s!"settle signature of {role.name} at state {s.state.toNat}" }

end Settlement

namespace SettleTx

variable [KeyScheme]

/-- A settlement of a snapshot without signatures. -/
def build (c : Snapshot) (p : Params) : Result SettleTx :=
  (Settlement.build c p).map Cosigned.unsigned

/-- Adds the signature of a side. -/
def sign (s : SettleTx) (keys : ChannelKeys) (role : Role) : Result SettleTx := do
  let key ← keys.settleKey s.document.state
  if key.publicKey ≠ (s.document.snapshot.party role).settleKey then
    .error (.protocol (.commitmentMismatch
      s!"settle key for state {s.document.state.toNat} does not belong to {role.name}"))
  else
    let sig ← (Signable.subject s.document).sign key
    return s.withSignature role sig

/-- The transaction that spends the output of the state's update. -/
def spend (s : SettleTx) (outpoint : OutPoint) : Result Transaction := do
  let (funderSig, otherSig) ← s.verifiedSignatures
  return { s.document.template with
    inputs := [{
      outpoint
      sequence := s.document.sequence
      witness := Witness.settle funderSig otherSig s.document.updateScript }] }

end SettleTx

end Supersede
