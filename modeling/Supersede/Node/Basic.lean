import Supersede.Contract.Closing
import Supersede.Contract.Settlement
import Supersede.Contract.Update
import Supersede.Node.Entropy

/-!
# Nodes

A node takes part in channels with any number of partners. For each channel it keeps its secret
keys, the last state that both parties have signed in full (*complete*), and a proposal that awaits
the partner's answer (*pending*).

Operations are computations that read and write a node step by step (`Acting`). One that fails stops
where it is, and what it has written by then stays written. So each of them makes its checks before
its first write; only the two that resolve a proposal of our own drop the proposal first and then
look at the answer.
-/

namespace Supersede

/-- Where a channel stands in its life. -/
inductive ChannelStatus where
  /-- No proposal is in flight. -/
  | active
  /-- A proposal awaits the partner. -/
  | updating
  /-- A party has started to close on its own. -/
  | closing
  /-- The cooperative close is fully signed. -/
  | closed
deriving DecidableEq

/-- The name of a status. -/
def ChannelStatus.name : ChannelStatus → String
  | .active => "Open"
  | .updating => "Updating"
  | .closing => "Closing"
  | .closed => "Closed"

/-- The update and the settlement of one state. -/
structure StateTxs where
  update : UpdateTx
  settle : SettleTx
deriving DecidableEq

/-- The snapshot that both transactions commit to. -/
def StateTxs.snapshot (t : StateTxs) : Snapshot := t.update.document.snapshot

/-- A node's record of one channel. -/
structure Channel where
  keys : ChannelKeys
  role : Role
  status : ChannelStatus
  /-- The update of state 0, whose output funds the channel. -/
  setup : UpdateTx
  complete : StateTxs
  pending : Option StateTxs
  proposedClose : Option CloseTx
deriving DecidableEq

/-- The snapshot that both parties have signed in full. -/
def Channel.snapshot (c : Channel) : Snapshot := c.complete.snapshot

/-- A participant. -/
structure Node where
  id : PeerId
  params : Params
  /-- Known preimages by their hash. -/
  secrets : Secrets := ∅
  /-- Invoices that the node has issued, by their hash. -/
  issued : SortedMap PaymentHash Invoice := ∅
  /-- Keys of channels that were proposed and not yet created. -/
  proposed : SortedMap PeerId ChannelKeys := ∅
  channels : SortedMap PeerId Channel := ∅

/-- A computation that reads and writes a node and can fail. There is a node afterwards in either
case. -/
abbrev Acting (α : Type) := ExceptT Error (StateM Node) α

/-- A computation on a node that also draws. What was drawn is gone also where it fails. -/
abbrev Drawing (α : Type) := ExceptT Error (StateT Node (StateM Entropy)) α

namespace Drawing

/-- Takes one draw. -/
def draw : Drawing Hash256 := fun n e => let (d, e) := e.next; ((.ok d, n), e)

/-- A computation that needs no draw. -/
def ofActing {α : Type} (x : Acting α) : Drawing α := fun n e => (x n, e)

end Drawing

namespace Node

/-- A node without channels. -/
def create (id : PeerId) (params : Params) : Node := { id, params }

/-! ## Channels -/

/-- The channel with a partner. -/
def channel (n : Node) (partner : PeerId) : Result Channel :=
  match n.channels.get? partner with
  | some c => .ok c
  | none => .error (.protocol (.unknownPeer partner))

/-- The node with its record of a channel replaced. -/
def setChannel (n : Node) (partner : PeerId) (c : Channel) : Node :=
  { n with channels := n.channels.insert partner c }

/-- Changes the record of a channel. -/
def modifyChannel (partner : PeerId) (f : Channel → Channel) : Acting Unit := do
  let c ← (← get).channel partner
  modify (·.setChannel partner (f c))

/-- The error of an operation that is reserved for the other side. -/
def wrongRole (partner : PeerId) : Role → Error
  | .funder => .protocol (.notFunder partner)
  | .counterparty => .protocol (.notCounterparty partner)

/-- The channel with a partner, if the node has the given side in it. -/
def channelAs (n : Node) (partner : PeerId) (role : Role) : Result Channel := do
  let c ← n.channel partner
  if c.role = role then return c else .error (wrongRole partner role)

/-- Checks that a channel can take a new proposal. -/
def checkIdle (partner : PeerId) (c : Channel) : Result Unit :=
  match c.status with
  | .active => .ok ()
  | .updating => .error (.protocol (.proposalInFlight partner))
  | .closing | .closed => .error (.protocol (.channelClosed partner))

/-- The channel with a partner, if the node has the given side in it and it can take a new
proposal. -/
def idleChannel (n : Node) (partner : PeerId) (role : Role) : Result Channel := do
  let c ← n.channelAs partner role
  checkIdle partner c
  return c

/-- What was proposed to a partner, if there is such a proposal. -/
def expectProposal {α : Type} (partner : PeerId) : Option α → Result α
  | some proposal => .ok proposal
  | none => .error (.protocol (.noPendingProposal partner))

/-! ## Secrets and invoices -/

/-- Remembers a secret. -/
def learnSecret (n : Node) (secret : Preimage) : Node :=
  { n with secrets := n.secrets.insert secret.paymentHash secret }

/-- Remembers secrets that are listed by their hash. -/
def learnSecrets (n : Node) (secrets : Secrets) : Node :=
  { n with secrets := n.secrets.union secrets }

/-- Issues an invoice locked to the given secret. -/
def createInvoiceFrom (secret : Preimage) (id : UInt64) (amount : Amount) (expiry : UInt32) :
    Acting Invoice := do
  let invoice ← Invoice.create id secret.paymentHash amount expiry
  modify (·.learnSecret secret)
  modify fun n => { n with issued := n.issued.insert invoice.hash invoice }
  return invoice

/-- Issues an invoice locked to a fresh secret. The secret is drawn before the amount is checked. -/
def createInvoice (id : UInt64) (amount : Amount) (expiry : UInt32) : Drawing Invoice := do
  let secret ← Drawing.draw
  Drawing.ofActing (createInvoiceFrom secret id amount expiry)

end Node

end Supersede
