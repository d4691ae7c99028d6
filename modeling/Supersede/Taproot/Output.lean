import Supersede.Taproot.Tree

/-!
# Taproot outputs of a channel

A state output and a payment output are each a tree of two leaves over an internal key. The state
output has the leaves to update and to settle it; the payment output those to claim and to refund
it.
-/

namespace Supersede

open Taproot

/-- An output with two leaves. -/
structure TwoLeafOutput where
  internalKey : XOnlyKey
  outputKey : PublicKey
  first : Bytes
  second : Bytes
deriving DecidableEq

namespace TwoLeafOutput

/-- The output for an internal key and two leaves. -/
def build [KeyScheme] (internalKey : XOnlyKey) (first second : Bytes) : Result TwoLeafOutput :=
  let root := branchHash (Transaction.leafHash first) (Transaction.leafHash second)
  match outputKey? internalKey root with
  | some outputKey => .ok ⟨internalKey, outputKey, first, second⟩
  | none => .error (.signing (.taproot "tweak is out of range"))

/-- The output script. -/
def script (o : TwoLeafOutput) : Bytes := Script.taproot o.outputKey.toXOnly

/-- The address. -/
def address (o : TwoLeafOutput) (network : Network) : String :=
  Bech32.address network 1 o.outputKey.toXOnly.toBytes

/-- The control block of the leaf beside the given one. -/
def controlBlock (o : TwoLeafOutput) (sibling : Bytes) : ControlBlock :=
  ⟨Transaction.leafVersion, o.outputKey.odd, o.internalKey, [Transaction.leafHash sibling]⟩

/-- The witness that spends the first leaf. -/
def firstWitness (o : TwoLeafOutput) (stack : List Bytes) : List Bytes :=
  stack ++ [o.first, (o.controlBlock o.second).toBytes]

/-- The witness that spends the second leaf. -/
def secondWitness (o : TwoLeafOutput) (stack : List Bytes) : List Bytes :=
  stack ++ [o.second, (o.controlBlock o.first).toBytes]

end TwoLeafOutput

/-! ## State outputs -/

/-- A state of a channel as a taproot output. -/
structure TaprootState where
  output : TwoLeafOutput
deriving DecidableEq

namespace TaprootState

/-- The output that holds a state. -/
def build [KeyScheme] (internalKey : XOnlyKey) (stateLockTime : UInt32) (disputeWindow : UInt16) :
    Result TaprootState :=
  (TwoLeafOutput.build internalKey (Script.updateLeaf stateLockTime)
    (Script.settleLeaf disputeWindow)).map TaprootState.mk

/-- The leaf by which a later state spends the output. -/
def updateLeaf (s : TaprootState) : Bytes := s.output.first

/-- The leaf by which the state is settled. -/
def settleLeaf (s : TaprootState) : Bytes := s.output.second

/-- The witness of an update. -/
def updateWitness (s : TaprootState) (sig : TapscriptSignature) : List Bytes :=
  s.output.firstWitness [sig.toBytes]

/-- The witness of a settlement. -/
def settleWitness (s : TaprootState) (sig : TapscriptSignature) : List Bytes :=
  s.output.secondWitness [sig.toBytes]

end TaprootState

/-! ## Payment outputs -/

/-- An offered payment as a taproot output. -/
structure TaprootPayment where
  output : TwoLeafOutput
deriving DecidableEq

namespace TaprootPayment

/-- The output that holds a payment. -/
def build [KeyScheme] (internalKey : XOnlyKey) (hash : PaymentHash) (claimKey : XOnlyKey)
    (expiry : UInt32) (refundKey : XOnlyKey) : Result TaprootPayment :=
  (TwoLeafOutput.build internalKey (Script.claimLeaf hash claimKey)
    (Script.refundLeaf expiry refundKey)).map TaprootPayment.mk

/-- The leaf by which the receiver takes the payment. -/
def claimLeaf (p : TaprootPayment) : Bytes := p.output.first

/-- The leaf by which the sender takes the payment back. -/
def refundLeaf (p : TaprootPayment) : Bytes := p.output.second

/-- The witness of a claim; a missing preimage leaves an empty item. -/
def claimWitness (p : TaprootPayment) (sig : SchnorrSignature)
    (preimage : Option (FixedBytes 32)) : List Bytes :=
  p.output.firstWitness [sig.toBytes, (preimage.map (·.toBytes)).getD []]

/-- The witness of a refund. -/
def refundWitness (p : TaprootPayment) (sig : SchnorrSignature) : List Bytes :=
  p.output.secondWitness [sig.toBytes]

end TaprootPayment

end Supersede
