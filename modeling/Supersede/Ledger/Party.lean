import Supersede.Key.Extended
import Supersede.Signature.Mode

/-!
# The parties of a channel

Each party holds three secrets: an update key, a payment key and an extended settle key. The settle
key of a state is the normal child of that number, so the other party can derive its public half
from the extended public key. `PartyKeys` is what a party publishes, for one state.
-/

namespace Supersede

/-- The side that a party takes in a channel. -/
inductive Role where
  | funder
  | counterparty
deriving DecidableEq

namespace Role

/-- The opposite side. -/
def other : Role → Role
  | funder => counterparty
  | counterparty => funder

/-- The name of the side in messages. -/
def name : Role → String
  | funder => "Funder"
  | counterparty => "Counterparty"

end Role

/-! ## Published keys -/

/-- The public keys of a party in one state. -/
structure PartyKeys where
  updateKey : PublicKey
  settleParent : ExtendedPublicKey
  settleKey : PublicKey
  paymentKey : PublicKey
deriving DecidableEq

/-- The signatures of a party on an update and a settlement. -/
structure PartySignatures where
  update : Option ChannelSignature := none
  settle : Option ChannelSignature := none
deriving DecidableEq

/-- What a party shows of itself: its keys and possibly signatures. -/
structure Party where
  keys : PartyKeys
  signatures : PartySignatures := {}
deriving DecidableEq

/-! ## Secret keys -/

/-- The secrets of a party in one channel. -/
structure ChannelKeys where
  updateKey : SecretKey
  settleParent : ExtendedSecretKey
  paymentKey : SecretKey
deriving DecidableEq

section Scheme

variable [KeyScheme]

/-- The same party's keys in another state. -/
def PartyKeys.atState (k : PartyKeys) (state : UInt32) : Result PartyKeys := do
  let child ← k.settleParent.child (← normalChild state)
  return { k with settleKey := child.key }

/-- Whether the settle key is the one of a state. -/
def PartyKeys.settleKeyMatches (k : PartyKeys) (state : UInt32) : Bool :=
  match k.atState state with
  | .ok k' => k'.settleKey == k.settleKey
  | .error _ => false

namespace ChannelKeys

/-- The secrets grown from a seed: the first three hardened children of its root. -/
def ofSeed (network : Network) (seed : Bytes) : Result ChannelKeys := do
  let master ← ExtendedSecretKey.master network seed
  let update ← master.child firstHardened
  let payment ← master.child (firstHardened + 1)
  let settle ← master.child (firstHardened + 2)
  return ⟨update.key, settle, payment.key⟩

/-- The settle key of a state. -/
def settleKey (k : ChannelKeys) (state : UInt32) : Result SecretKey := do
  let child ← k.settleParent.child (← normalChild state)
  return child.key

/-- The public keys for a state. -/
def publish (k : ChannelKeys) (state : UInt32) : Result PartyKeys := do
  let settle ← k.settleKey state
  return ⟨k.updateKey.publicKey, k.settleParent.toPublic, settle.publicKey,
    k.paymentKey.publicKey⟩

end ChannelKeys

end Scheme

end Supersede
