import Supersede.Node.Basic

/-!
# Opening a channel

The funder shows its keys (`proposeChannel`). The counterparty answers with its own keys and its
signature on the settlement of state 0, which refunds the funder (`joinChannel`). The funder checks
that signature and adds its own (`createChannel`); only then is it safe to fund the channel.
-/

namespace Supersede

variable [KeyScheme]

namespace Node

/-- Checks that there is no channel with a partner yet. -/
def checkNew (n : Node) (partner : PeerId) : Result Unit :=
  if n.channels.contains partner then .error (.protocol (.channelExists partner)) else .ok ()

/-- Checks that published keys are those of state 0. -/
def checkStateZero (keys : PartyKeys) (role : Role) : Result Unit :=
  if keys.settleKeyMatches 0 then .ok ()
  else
    .error (.protocol (.commitmentMismatch
      ("settle key of " ++ role.name ++ " is not derived for state 0")))

/-- A new record of a channel in state 0. -/
def openedChannel (keys : ChannelKeys) (role : Role) (setup : UpdateTx) (settle : SettleTx) :
    Channel :=
  { keys, role, status := .active, setup, complete := ⟨setup, settle⟩, pending := none,
    proposedClose := none }

/-! ## The funder proposes -/

/-- Proposes a channel with keys grown from the given seed. -/
def proposeChannelFrom (seed : Hash256) (partner : PeerId) : Acting Party := do
  let keys ← ChannelKeys.ofSeed (← get).params.network seed.toBytes
  let published ← keys.publish 0
  modify fun n => { n with proposed := n.proposed.insert partner keys }
  return { keys := published }

/-- Proposes a channel with fresh keys. -/
def proposeChannel (partner : PeerId) : Drawing Party := do
  Drawing.ofActing do (← get).checkNew partner
  let seed ← Drawing.draw
  Drawing.ofActing (proposeChannelFrom seed partner)

/-! ## The counterparty joins -/

/-- Joins a channel with keys grown from the given seed. -/
def joinChannelFrom (seed : Hash256) (partner : PeerId) (funder : PartyKeys) : Acting Party := do
  let n ← get
  let keys ← ChannelKeys.ofSeed n.params.network seed.toBytes
  let own ← keys.publish 0
  let snapshot ← Snapshot.opening funder own n.params.capacity
  let setup ← UpdateTx.build snapshot n.params
  let settle ← SettleTx.build snapshot n.params
  let settle ← settle.sign keys .counterparty
  modify (·.setChannel partner (openedChannel keys .counterparty setup settle))
  return { keys := own, signatures := { settle := settle.signature .counterparty } }

/-- Joins the channel that a funder proposed, with fresh keys. -/
def joinChannel (partner : PeerId) (funder : Party) : Drawing Party := do
  Drawing.ofActing do (← get).checkNew partner
  Drawing.ofActing (checkStateZero funder.keys .funder)
  let seed ← Drawing.draw
  Drawing.ofActing (joinChannelFrom seed partner funder.keys)

/-! ## The funder creates -/

/-- The keys proposed to a partner. -/
def proposedKeys (n : Node) (partner : PeerId) : Result ChannelKeys :=
  expectProposal partner (n.proposed.get? partner)

/-- Takes the keys proposed to a partner out of the proposals. -/
def takeProposed (partner : PeerId) : Acting ChannelKeys := do
  let keys ← (← get).proposedKeys partner
  modify fun n => { n with proposed := n.proposed.erase partner }
  return keys

/-- The counterparty's signature on the refund. -/
def refundSignature (other : Party) : Result ChannelSignature :=
  match other.signatures.settle with
  | some sig => .ok sig
  | none => .error (.protocol (.missingSignature "refund settle of Counterparty"))

/-- Creates the channel that a partner joined. -/
def createChannel (partner : PeerId) (other : Party) : Acting StateTxs := do
  let n ← get
  let keys ← n.proposedKeys partner
  checkStateZero other.keys .counterparty
  let otherSig ← refundSignature other
  let own ← keys.publish 0
  let snapshot ← Snapshot.opening own other.keys n.params.capacity
  let setup ← UpdateTx.build snapshot n.params
  let settle ← SettleTx.build snapshot n.params
  let settle : SettleTx := settle.withSignature .counterparty otherSig
  settle.verifySignature .counterparty
  let settle ← settle.sign keys .funder
  settle.verify
  let keys ← takeProposed partner
  modify (·.setChannel partner (openedChannel keys .funder setup settle))
  return ⟨setup, settle⟩

end Node

end Supersede
