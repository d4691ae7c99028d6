import Supersede.Ledger.Invoice
import Supersede.Signature.Mode

/-!
# Witnesses of channel scripts

What is put on an input to spend an output of a channel, bottom of the stack first and the script
last. A multiple-signature check takes an extra empty item below the signatures.
-/

namespace Supersede.Witness

/-- Passes the funds of a state on to a later one. -/
def update (funderSig otherSig : ChannelSignature) (script : Bytes) : List Bytes :=
  [[], funderSig.toBytes, otherSig.toBytes, script]

/-- Settles a state: the update keys' check is made to fail with empty signatures. -/
def settle (funderSig otherSig : ChannelSignature) (script : Bytes) : List Bytes :=
  [[], funderSig.toBytes, otherSig.toBytes, [], [], [], script]

/-- Takes a payment with its preimage; a missing preimage leaves an empty item. -/
def claim (sig : ChannelSignature) (preimage : Option Preimage) (script : Bytes) : List Bytes :=
  [sig.toBytes, (preimage.map (·.toBytes)).getD [], [0x01], script]

/-- Takes an expired payment back. -/
def refund (sig : ChannelSignature) (script : Bytes) : List Bytes := [sig.toBytes, [], script]

/-- Spends an output that pays to a key. -/
def payout (sig : ChannelSignature) (key : PublicKey) : List Bytes := [sig.toBytes, key.toBytes]

end Supersede.Witness
