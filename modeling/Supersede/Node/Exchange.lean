import Supersede.Node.Basic

/-!
# Moving to the next state

A state is advanced by a handshake of three steps. One party proposes the next state and signs it.
The other rebuilds that state from its own view, signs only what it has rebuilt, and takes it as
complete. The proposer then checks the answer against its own proposal.

The funder proposes payments; the counterparty proposes to resolve those that expired or whose
secret it knows.
-/

namespace Supersede

/-- A payment proposed by the funder. -/
structure PaymentProposal where
  txs : StateTxs

/-- A payment signed by both parties. -/
structure PaymentReceipt where
  txs : StateTxs
  /-- The preimage of the new payment, if the counterparty knows it. -/
  secret : Option Preimage

/-- A resolution of payments proposed by the counterparty. -/
structure UpdateProposal where
  txs : StateTxs
  /-- The secrets of the payments that the counterparty is to be credited with. -/
  secrets : Secrets

variable [KeyScheme]

/-! ## Signing -/

namespace StateTxs

/-- The transactions of a snapshot, signed by one side. -/
def propose (c : Snapshot) (p : Params) (keys : ChannelKeys) (role : Role) : Result StateTxs := do
  let update ← (← UpdateTx.build c p).sign keys role
  let settle ← (← SettleTx.build c p).sign keys role
  return ⟨update, settle⟩

/-- Whether both transactions commit to a snapshot. -/
def commitTo (t : StateTxs) (c : Snapshot) : Bool :=
  t.update.document.snapshot == c && t.settle.document.snapshot == c

/-- A side's signatures on the update and the settlement. -/
def signatures (t : StateTxs) (role : Role) : Result (ChannelSignature × ChannelSignature) :=
  match t.update.signature role, t.settle.signature role with
  | none, _ => .error (.protocol (.missingSignature ("update of " ++ role.name)))
  | _, none => .error (.protocol (.missingSignature ("settle of " ++ role.name)))
  | some update, some settle => .ok (update, settle)

/-- Signs the expected snapshot for one side, with the other side's signatures taken from its
message. Only transactions that were built here are signed. -/
def countersign (expected : Snapshot) (message : StateTxs) (keys : ChannelKeys) (role : Role)
    (p : Params) : Result StateTxs := do
  if !message.commitTo expected then
    .error (.protocol (.proposalMismatch
      s!"proposed state {message.update.document.state.toNat} differs from reconstruction"))
  else
    let (updateSig, settleSig) ← message.signatures role.other
    let update : UpdateTx := (← UpdateTx.build expected p).withSignature role.other updateSig
    update.verifySignature role.other
    let settle : SettleTx := (← SettleTx.build expected p).withSignature role.other settleSig
    settle.verifySignature role.other
    let update ← update.sign keys role
    let settle ← settle.sign keys role
    update.verify
    settle.verify
    return ⟨update, settle⟩

/-- Adds the other side's signatures to the proposal of one side. -/
def complete (pending message : StateTxs) (role : Role) : Result StateTxs := do
  if !message.commitTo pending.snapshot then
    .error (.protocol (.proposalMismatch
      (s!"response for state {message.update.document.state.toNat} does not match " ++
        s!"pending state {pending.snapshot.state.toNat}")))
  else
    let (updateSig, settleSig) ← message.signatures role.other
    let update := pending.update.withSignature role.other updateSig
    let settle := pending.settle.withSignature role.other settleSig
    update.verify
    settle.verify
    return ⟨update, settle⟩

end StateTxs

/-! ## Steps shared by both handshakes -/

namespace Channel

/-- The record with a proposal that awaits the partner. -/
def awaiting (c : Channel) (txs : StateTxs) : Channel :=
  { c with pending := some txs, status := .updating }

/-- The record with transactions that both sides signed as the complete state. -/
def withComplete (c : Channel) (txs : StateTxs) : Channel := { c with complete := txs }

/-- The record without a proposal. -/
def idle (c : Channel) : Channel := { c with pending := none, status := .active }

end Channel

namespace Node

/-- Checks that a proposed state is a later one. -/
def checkLater (current proposed : Snapshot) : Result Unit :=
  if proposed.state ≤ current.state then
    .error (.protocol (.stateNotIncreasing current.state proposed.state))
  else .ok ()

/-- Resolves our proposal with the partner's answer. The proposal is gone in either case: it becomes
the complete state, or it is dropped and the channel is open again. -/
def finishProposal (partner : PeerId) (role : Role) (answer : StateTxs) : Acting Unit := do
  let c ← (← get).channelAs partner role
  let pending ← expectProposal partner c.pending
  modify (·.setChannel partner c.idle)
  let txs ← pending.complete answer role
  modify (·.setChannel partner (c.idle.withComplete txs))

/-! ## Payments -/

/-- The funder offers a payment for an invoice. -/
def proposePayment (partner : PeerId) (invoice : Invoice) : Acting PaymentProposal := do
  let n ← get
  let c ← n.idleChannel partner .funder
  let next ← c.snapshot.offer invoice
  let txs ← StateTxs.propose next n.params c.keys .funder
  modifyChannel partner (·.awaiting txs)
  return ⟨txs⟩

/-- The invoices of a snapshot that another does not have. -/
def newInvoices (current proposed : Snapshot) : List Invoice :=
  (proposed.offered.filter fun hash _ => !current.offered.contains hash).values

/-- The one new payment of a proposal. It must be a later state with conserved balances, no smaller
payment balance and more on offer. -/
def offeredInvoice (current proposed : Snapshot) : Result Invoice := do
  checkLater current proposed
  proposed.checkConservation
  if proposed.payment < current.payment then
    .error (.protocol (.paymentDecreased current.payment proposed.payment))
  else
    let currentOffered ← current.offeredTotal
    let proposedOffered ← proposed.offeredTotal
    if proposedOffered ≤ currentOffered then
      .error (.protocol (.offeredNotIncreasing currentOffered proposedOffered))
    else
      match newInvoices current proposed with
      | [invoice] => return invoice
      | invoices =>
        .error (.protocol (.proposalMismatch
          s!"expected exactly one new payment, found {invoices.length}"))

/-- The counterparty takes a payment: it adds the offered invoice to its own view and signs that. -/
def receivePayment (partner : PeerId) (proposal : PaymentProposal) : Acting PaymentReceipt := do
  let n ← get
  let c ← n.idleChannel partner .counterparty
  let invoice ← offeredInvoice c.snapshot proposal.txs.snapshot
  let expected ← c.snapshot.offer invoice
  let txs ← StateTxs.countersign expected proposal.txs c.keys .counterparty n.params
  modifyChannel partner (·.withComplete txs)
  return ⟨txs, n.secrets.get? invoice.hash⟩

/-- Remembers the secret of a receipt, if it belongs to a payment on offer. -/
def learnOffered (partner : PeerId) (secret : Preimage) : Acting Unit := do
  let c ← (← get).channel partner
  if c.snapshot.offered.contains secret.paymentHash then modify (·.learnSecret secret)

/-- The funder completes its payment with the counterparty's receipt. -/
def confirmPayment (partner : PeerId) (receipt : PaymentReceipt) : Acting Unit := do
  finishProposal partner .funder receipt.txs
  match receipt.secret with
  | some secret => learnOffered partner secret
  | none => return

/-! ## Resolution -/

/-- The counterparty proposes to resolve all payments that it can. -/
def proposeUpdate (partner : PeerId) (blockTime : UInt32) : Acting UpdateProposal := do
  let n ← get
  let c ← n.idleChannel partner .counterparty
  let secrets := c.snapshot.redeemableSecrets n.secrets blockTime
  let next ← c.snapshot.resolve secrets blockTime
  let txs ← StateTxs.propose next n.params c.keys .counterparty
  modifyChannel partner (·.awaiting txs)
  return ⟨txs, secrets⟩

/-- Checks that every secret matches its hash. -/
def checkSecrets (secrets : Secrets) : Result Unit :=
  match secrets.entries.find? fun (hash, secret) => !secret.unlocks hash with
  | some (hash, _) => .error (.protocol (.invalidSecret hash))
  | none => .ok ()

/-- The funder accepts a resolution: it resolves its own view with the secrets shown and signs
that. -/
def acceptUpdate (partner : PeerId) (proposal : UpdateProposal) (blockTime : UInt32) :
    Acting StateTxs := do
  let n ← get
  let c ← n.idleChannel partner .funder
  checkSecrets proposal.secrets
  checkLater c.snapshot proposal.txs.snapshot
  let expected ← c.snapshot.resolve proposal.secrets blockTime
  let txs ← StateTxs.countersign expected proposal.txs c.keys .funder n.params
  modify (·.learnSecrets proposal.secrets)
  modifyChannel partner (·.withComplete txs)
  return txs

/-- The counterparty completes its resolution with the funder's answer. -/
def confirmUpdate (partner : PeerId) (answer : StateTxs) : Acting Unit :=
  finishProposal partner .counterparty answer

end Node

end Supersede
