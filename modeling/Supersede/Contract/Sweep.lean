import Supersede.Contract.Settlement

/-!
# Sweeps

After a settlement has confirmed, each party sweeps what is its own into one output: its settled
balance and the offered payments that it can unlock. The funder takes back those that expired, the
counterparty takes those whose secret it knows.
-/

namespace Supersede

/-- Which outputs a sweep takes. -/
structure SweepOptions where
  /-- Take the settled balance alone. -/
  settledOnly : Bool := false
  /-- Take offered payments that cannot be unlocked yet, too. -/
  includeInvalid : Bool := false
  blockTime : UInt32
deriving DecidableEq

/-- How an output of a settlement is unlocked. -/
inductive Unlock where
  | payout
  | claim (secret : Option Preimage)
  | refund
deriving DecidableEq

/-- An output of a settlement that is swept. -/
structure SweepInput where
  vout : UInt32
  value : Amount
  scriptCode : Bytes
  unlock : Unlock
deriving DecidableEq

/-- The sweep of a settlement by one party. -/
structure Sweep where
  template : Transaction
  inputs : List SweepInput
  paymentKey : PublicKey
  signatures : List ChannelSignature
deriving DecidableEq

namespace Sweep

/-- The part that is the settled balance of a side. -/
def settledPart : Role → SettlementPart
  | .funder => .refund
  | .counterparty => .payment

/-- An output to be unlocked in some way. -/
def input (o : SettlementOutput) (unlock : Unlock) : SweepInput :=
  ⟨o.vout, o.value, o.scriptCode, unlock⟩

/-- How a side unlocks an offered payment, if it takes it. -/
def unlock? (secrets : Secrets) (role : Role) (options : SweepOptions) (hash : PaymentHash)
    (invoice : Invoice) : Option Unlock :=
  match role with
  | .funder =>
    if options.includeInvalid || invoice.isExpired options.blockTime then some .refund else none
  | .counterparty =>
    let secret := secrets.get? hash
    if options.includeInvalid || secret.isSome then some (.claim secret) else none

/-- The offered payment that an output holds, as an input of a side's sweep. -/
def offeredInput? (c : Snapshot) (secrets : Secrets) (role : Role) (options : SweepOptions)
    (o : SettlementOutput) : Option SweepInput :=
  match o.part with
  | .offered hash => do
    let invoice ← c.offered.get? hash
    let unlock ← unlock? secrets role options hash invoice
    return input o unlock
  | _ => none

/-- The outputs of a settlement that a side sweeps. -/
def inputsOf (s : Settlement) (secrets : Secrets) (role : Role) (options : SweepOptions) :
    List SweepInput :=
  let settled := ((s.output? (settledPart role)).map (input · .payout)).toList
  let offered :=
    if options.settledOnly then []
    else s.outputs.filterMap (offeredInput? s.snapshot secrets role options)
  settled ++ offered

/-- The sweep's lock time: a funder who takes refunds waits for the given time. -/
def lockTime (role : Role) (options : SweepOptions) : UInt32 :=
  match role with
  | .funder => if options.settledOnly then 0 else options.blockTime
  | .counterparty => 0

/-- The sweep of a settlement that confirmed under the given identifier. -/
def build (s : Settlement) (settleTxid : Txid) (secrets : Secrets) (role : Role)
    (options : SweepOptions) (p : Params) : Result Sweep :=
  let inputs := inputsOf s secrets role options
  match Amount.sum? (inputs.map (·.value)) with
  | none => .error (.ledger .balanceOverflow)
  | some total =>
    let payout := total.minus p.fee
    if payout ≤ p.fee then .error (.ledger (.redeemBelowFee payout p.fee))
    else
      let paymentKey := (s.snapshot.party role).paymentKey
      .ok {
        template := {
          version := 2
          lockTime := lockTime role options
          inputs := inputs.map fun i =>
            { outpoint := ⟨settleTxid, i.vout⟩, sequence := LockTime.enabledSequence }
          outputs := [⟨payout, Script.payout paymentKey⟩] }
        inputs
        paymentKey
        signatures := [] }

/-- The amount that the sweep pays. -/
def payout (w : Sweep) : Amount := (w.template.outputs.map (·.value)).foldr (· + ·) 0

/-- The witness that unlocks an input with its signature. -/
def witness (key : PublicKey) (i : SweepInput) (sig : ChannelSignature) : List Bytes :=
  match i.unlock with
  | .payout => Witness.payout sig key
  | .claim secret => Witness.claim sig secret i.scriptCode
  | .refund => Witness.refund sig i.scriptCode

/-- The signed transaction. -/
def transaction (w : Sweep) : Result Transaction :=
  if w.signatures.length ≠ w.inputs.length then
    .error (.protocol (.missingSignature "redeem"))
  else
    let witnesses := List.zipWith (witness w.paymentKey) w.inputs w.signatures
    .ok { w.template with
      inputs := List.zipWith (fun (i : TxIn) w => { i with witness := w }) w.template.inputs
        witnesses }

/-- Signs all inputs. -/
def sign [KeyScheme] (w : Sweep) (keys : ChannelKeys) : Result Sweep := do
  if keys.paymentKey.publicKey ≠ w.paymentKey then
    .error (.protocol (.commitmentMismatch "payment key does not own the redeemed outputs"))
  else
    let signatures ← w.inputs.zipIdx.mapM fun (i, index) =>
      w.template.signInput index i.scriptCode i.value .all keys.paymentKey
    return { w with signatures }

end Sweep

end Supersede
