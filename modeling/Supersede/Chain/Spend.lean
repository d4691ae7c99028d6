import Supersede.Chain.Machine
import Supersede.Taproot.Tree

/-!
# Spending an output

What an input must show depends on the kind of the output that it spends: a signature and a key, a
witness script with its items, or a taproot leaf with its control block. An output of any other kind
is spent if its own script runs on an empty stack.
-/

namespace Supersede

/-- The context of each input of a transaction, given the outputs that they spend. -/
def Transaction.spendContexts (tx : Transaction) (prevouts : List TxOut) : List SpendContext :=
  (tx.inputs.zip prevouts).mapIdx fun index (input, spent) =>
    { tx, index, input, spent, prevouts, scriptCode := spent.script }

variable [KeyScheme]

namespace SpendContext

/-- An output that pays to a key. -/
def verifyKeyHash (ctx : SpendContext) : Except Fault Unit :=
  match ctx.input.witness with
  | [sig, keyBytes] =>
    match PublicKey.ofBytes? keyBytes with
    | none => .error .malformedKey
    | some key =>
      if Script.payout key ≠ ctx.spent.script then .error .keyMismatch
      else do
        let valid ← { ctx with scriptCode := Script.payoutCode key }.checkSig sig keyBytes
        if valid then return else .error .invalidKeySignature
  | _ => .error .keyWitness

/-- An output that is locked by the hash of a witness script. -/
def verifyScriptHash (ctx : SpendContext) : Except Fault Unit :=
  match ctx.input.witness.reverse with
  | [] => .error .emptyWitness
  | script :: stack =>
    if Script.lock script ≠ ctx.spent.script then .error .scriptMismatch
    else Machine.evaluate { ctx with scriptCode := script } script stack

/-- A taproot output, by one of its leaves. -/
def verifyTaproot (ctx : SpendContext) : Except Fault Unit :=
  match ctx.input.witness.reverse with
  | controlBytes :: leaf :: stack =>
    match Taproot.ControlBlock.ofBytes controlBytes with
    | .error detail => .error (.controlBlock detail)
    | .ok control =>
      match XOnlyKey.ofBytes? (ctx.spent.script.drop 2) with
      | none => .error .malformedKey
      | some outputKey =>
        if control.commits outputKey leaf then
          Machine.evaluate
            { ctx with scriptCode := leaf, internalKey := some control.internalKey } leaf stack
        else .error .notCommitted
  | _ => .error .keyPath

/-- Checks that the input may spend its output. -/
def verify (ctx : SpendContext) : Except Fault Unit :=
  match OutputKind.of ctx.spent.script with
  | .keyHash => ctx.verifyKeyHash
  | .scriptHash => ctx.verifyScriptHash
  | .taproot => ctx.verifyTaproot
  | .other => Machine.evaluate ctx ctx.spent.script []

end SpendContext

end Supersede
