import Supersede.Contract.Cosigned
import Supersede.Contract.Witness
import Supersede.Ledger.Snapshot

/-!
# Updates

An update locks the whole amount of a channel again, under the script of its state. Its signatures
commit neither to the output that it spends nor to that output's script, so one signed update can
spend the funding output and any update of an earlier state.
-/

namespace Supersede

/-- The update of one state. -/
structure Update where
  snapshot : Snapshot
  script : Bytes
  /-- The transaction, with no output named in its input yet. -/
  template : Transaction
deriving DecidableEq

/-- An update with signatures. -/
abbrev UpdateTx := Cosigned Update

namespace Update

/-- The update of a snapshot. -/
def build (c : Snapshot) (p : Params) : Result Update := do
  c.checkConservation
  let script ← c.updateScript p
  let lockTime ← p.stateLockTime c.state
  return {
    snapshot := c
    script
    template := {
      version := 2
      lockTime
      inputs := [{ outpoint := .null, sequence := LockTime.enabledSequence }]
      outputs := [⟨c.capacity, Script.lock script⟩] } }

/-- The state number. -/
def state (u : Update) : UInt32 := u.snapshot.state

/-- The output script. -/
def outputScript (u : Update) : Bytes := Script.lock u.script

/-- The transaction that funds the channel: the update's output first, then the change. -/
def setupTransaction (u : Update) (inputs : List TxIn) (change : List TxOut) : Transaction :=
  ⟨2, 0, inputs, ⟨u.snapshot.capacity, u.outputScript⟩ :: change⟩

instance : Signable Update where
  subject u := {
    transaction := u.template
    scriptCode := u.script
    value := u.snapshot.capacity
    mode := .anyPrevOutAnyScript
    key := fun role => (u.snapshot.party role).updateKey
    describe := fun role => s!"update signature of {role.name} at state {u.state.toNat}" }

end Update

namespace UpdateTx

variable [KeyScheme]

/-- An update of a snapshot without signatures. -/
def build (c : Snapshot) (p : Params) : Result UpdateTx := (Update.build c p).map Cosigned.unsigned

/-- Adds the signature of a side. -/
def sign (u : UpdateTx) (keys : ChannelKeys) (role : Role) : Result UpdateTx := do
  if keys.updateKey.publicKey ≠ (u.document.snapshot.party role).updateKey then
    .error (.protocol (.commitmentMismatch ("update key does not belong to " ++ role.name)))
  else
    let sig ← (Signable.subject u.document).sign keys.updateKey
    return u.withSignature role sig

/-- The transaction that spends an output locked by an update script. -/
def spend (u : UpdateTx) (spentScript : Bytes) (outpoint : OutPoint) : Result Transaction := do
  let (funderSig, otherSig) ← u.verifiedSignatures
  return { u.document.template with
    inputs := [{
      outpoint
      sequence := LockTime.enabledSequence
      witness := Witness.update funderSig otherSig spentScript }] }

end UpdateTx

end Supersede
