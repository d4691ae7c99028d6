import Supersede.Contract.Update
import Supersede.Ledger.FeeSplit

/-!
# Cooperative closes

A close spends the funding output directly and pays both final balances, without update, settlement
or dispute window. Payments still on offer go back to the funder.
-/

namespace Supersede

/-- The close of a channel in some state. -/
structure Closing where
  snapshot : Snapshot
  /-- The script that locks the funding output. -/
  setupScript : Bytes
  template : Transaction
deriving DecidableEq

/-- A close with signatures. -/
abbrev CloseTx := Cosigned Closing

namespace Closing

/-- The final balances: the payments on offer count for the funder, and both pay the fee. -/
def payouts (c : Snapshot) (p : Params) : Result Payouts := do
  let refund ← Snapshot.addBalance c.refund (← c.offeredTotal)
  splitFee refund c.payment p.fee

/-- The output that pays an amount to a key, unless it is dust. -/
def payoutOutput (p : Params) (value : Amount) (key : PublicKey) : List TxOut :=
  if p.aboveDust value then [⟨value, Script.payout key⟩] else []

/-- The close of a snapshot that spends a funding output. -/
def build (c : Snapshot) (setup : Update) (funding : OutPoint) (p : Params) : Result Closing := do
  c.checkConservation
  let out ← payouts c p
  let lockTime ← p.settleLockTime c.state
  return {
    snapshot := c
    setupScript := setup.script
    template := {
      version := 2
      lockTime
      inputs := [{ outpoint := funding, sequence := LockTime.enabledSequence }]
      outputs := payoutOutput p out.funder c.funder.paymentKey ++
        payoutOutput p out.counterparty c.counterparty.paymentKey } }

/-- The output that the close spends. -/
def funding (c : Closing) : OutPoint :=
  match c.template.inputs with
  | input :: _ => input.outpoint
  | [] => .null

instance : Signable Closing where
  subject c := {
    transaction := c.template
    scriptCode := c.setupScript
    value := c.snapshot.capacity
    mode := .all
    key := fun role => (c.snapshot.party role).updateKey
    describe := fun role => "close signature of " ++ role.name }

end Closing

namespace CloseTx

variable [KeyScheme]

/-- A close without signatures. -/
def build (c : Snapshot) (setup : Update) (funding : OutPoint) (p : Params) : Result CloseTx :=
  (Closing.build c setup funding p).map Cosigned.unsigned

/-- Adds the signature of a side. -/
def sign (c : CloseTx) (keys : ChannelKeys) (role : Role) : Result CloseTx := do
  if keys.updateKey.publicKey ≠ (c.document.snapshot.party role).updateKey then
    .error (.protocol (.commitmentMismatch ("update key does not belong to " ++ role.name)))
  else
    let sig ← (Signable.subject c.document).sign keys.updateKey
    return c.withSignature role sig

/-- The signed transaction. -/
def transaction (c : CloseTx) : Result Transaction := do
  let (funderSig, otherSig) ← c.verifiedSignatures
  let witness := Witness.update funderSig otherSig c.document.setupScript
  return { c.document.template with
    inputs := c.document.template.inputs.map fun i => { i with witness } }

/-! ## Adopting a signed transaction -/

/-- The witness of the first input. -/
def firstWitness (tx : Transaction) : List Bytes :=
  match tx.inputs with
  | input :: _ => input.witness
  | [] => []

/-- The signature of a side at a position of a witness. -/
def witnessSignature (witness : List Bytes) (index : Nat) (role : Role) :
    Result ChannelSignature :=
  let name := "close of " ++ role.name
  match witness[index]? with
  | none | some [] => .error (.protocol (.missingSignature name))
  | some bytes =>
    match ChannelSignature.ofBytes bytes with
    | .ok sig => .ok sig
    | .error e => .error (.protocol (.invalidSignature (name ++ ": " ++ e.message)))

/-- The close with the signatures of a transaction, if that is the close's own transaction and both
signatures are valid. -/
def adopt (c : CloseTx) (tx : Transaction) : Result CloseTx := do
  if tx.withWitness 0 [] ≠ c.document.template then
    .error (.protocol (.proposalMismatch
      ("transaction " ++ Txid.display tx.txid ++
        s!" is not the close of state {c.document.snapshot.state.toNat}")))
  else
    let funderSig ← witnessSignature (firstWitness tx) 1 .funder
    let otherSig ← witnessSignature (firstWitness tx) 2 .counterparty
    let signed := (c.withSignature .funder funderSig).withSignature .counterparty otherSig
    signed.verify
    return signed

end CloseTx

end Supersede
