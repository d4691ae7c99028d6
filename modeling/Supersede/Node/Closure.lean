import Supersede.Contract.Sweep
import Supersede.Node.Basic

/-!
# Closing a channel

On its own, a party sweeps its share of a confirmed settlement. Together, one party proposes a close
of the funding output, the other signs it after building it from its own view, and the proposer
confirms once it sees the signed transaction. Until then the proposer's channel stays open.
-/

namespace Supersede

variable [KeyScheme]

namespace Node

/-- Checks that a settlement belongs to a channel. -/
def checkSettles (settle : Settlement) (c : Channel) : Result Unit :=
  if settle.snapshot.channelId ≠ c.snapshot.channelId then
    .error (.protocol (.commitmentMismatch
      s!"settle of state {settle.state.toNat} belongs to another channel"))
  else .ok ()

/-- The sweep of a confirmed settlement; the channel counts as closing from here on. -/
def closeAlone (partner : PeerId) (settle : Settlement) (settleTxid : Txid)
    (options : SweepOptions) : Acting Sweep := do
  let n ← get
  let c ← n.channel partner
  checkSettles settle c
  let sweep ← Sweep.build settle settleTxid n.secrets c.role options n.params
  let sweep ← sweep.sign c.keys
  modifyChannel partner fun c =>
    { c with pending := none, proposedClose := none, status := .closing }
  return sweep

/-- The channel with a partner, if it can take a new proposal. -/
def closableChannel (n : Node) (partner : PeerId) : Result Channel := do
  let c ← n.channel partner
  n.idleChannel partner c.role

/-- Proposes to close a channel by spending its funding output. -/
def proposeClose (partner : PeerId) (funding : OutPoint) : Acting CloseTx := do
  let n ← get
  let c ← n.closableChannel partner
  let close ← CloseTx.build c.snapshot c.setup.document funding n.params
  let close ← close.sign c.keys c.role
  modifyChannel partner fun c => { c with proposedClose := some close }
  return close

/-- The signature of a side on a proposed close. -/
def closeSignature (close : CloseTx) (role : Role) : Result ChannelSignature :=
  match close.signature role with
  | some sig => .ok sig
  | none => .error (.protocol (.missingSignature ("close of " ++ role.name)))

/-- Checks that a proposed close is the one that was built here. -/
def checkSameClose (expected close : CloseTx) : Result Unit :=
  if expected.document.snapshot ≠ close.document.snapshot ∨
      expected.document.template ≠ close.document.template then
    .error (.protocol (.proposalMismatch
      (s!"close of state {close.document.snapshot.state.toNat} does not match our state " ++
        toString expected.document.snapshot.state.toNat)))
  else .ok ()

/-- Takes a channel as closed. -/
def markClosed (partner : PeerId) : Acting Unit :=
  modifyChannel partner fun c => { c with proposedClose := none, status := .closed }

/-- Signs a proposed close, if it is the close of our own complete state. -/
def acceptClose (partner : PeerId) (close : CloseTx) : Acting Transaction := do
  let n ← get
  let c ← n.closableChannel partner
  let expected ← CloseTx.build c.snapshot c.setup.document close.document.funding n.params
  checkSameClose expected close
  let sig ← closeSignature close c.role.other
  let signed : CloseTx := expected.withSignature c.role.other sig
  signed.verifySignature c.role.other
  let signed ← signed.sign c.keys c.role
  let tx ← signed.transaction
  markClosed partner
  return tx

/-- Takes a channel as closed by the signed transaction of our own proposal. -/
def confirmClose (partner : PeerId) (tx : Transaction) : Acting Unit := do
  let c ← (← get).channel partner
  let proposed ← expectProposal partner c.proposedClose
  let _ ← proposed.adopt tx
  markClosed partner

end Node

end Supersede
