import Supersede.Chain.Spend
import Supersede.Ledger.Amount
import Supersede.SortedMap

/-!
# A chain with one miner

The chain keeps the unspent outputs, the transactions that wait for a block, and what these spend. It
accepts a transaction that spends unspent outputs, whose lock times have been reached, which creates
no more value than it spends, and whose inputs satisfy the scripts of what they spend.
-/

namespace Supersede

/-- An unspent output and the height at which it confirmed, if it has. -/
structure Coin where
  output : TxOut
  height : Option UInt32
deriving DecidableEq

/-- Gives a coin without a height the height of the block that confirms it. -/
def Coin.confirmAt (height : UInt32) (coin : Coin) : Coin :=
  { coin with height := some (coin.height.getD height) }

/-- The state of a chain. -/
structure Chain where
  height : UInt32 := 200
  time : UInt32 := 1500000000
  coins : SortedMap OutPoint Coin := ∅
  /-- Accepted transactions that no block holds yet, oldest first. -/
  mempool : List Txid := []
  /-- The outputs that these spend. -/
  mempoolSpends : List OutPoint := []
  /-- The height at which a transaction confirmed. -/
  confirmed : SortedMap Txid UInt32 := ∅
  /-- How many coins were made from nothing. -/
  funded : UInt32 := 0

namespace Chain

/-- The seconds between two blocks. -/
def blockInterval : UInt32 := 600

/-! ## Questions -/

/-- The number of blocks from the one that holds a transaction to the tip, or zero. -/
def confirmations (c : Chain) (txid : Txid) : UInt32 :=
  match c.confirmed.get? txid with
  | some height => c.height - height + 1
  | none => 0

/-- The unspent output at a reference. -/
def unspent? (c : Chain) (o : OutPoint) : Option TxOut := (c.coins.get? o).map (·.output)

/-! ## Blocks and coins -/

/-- The script that anyone can satisfy. -/
def anyoneScript : Bytes := Script.encode [.number 1]

/-- The transaction that makes the coin with the given number. -/
def fundingTransaction (number : UInt32) (value : Amount) : Transaction :=
  ⟨2, number, [], [⟨value, anyoneScript⟩]⟩

/-- Makes a confirmed coin that anyone can spend. -/
def fund (c : Chain) (value : Amount) : OutPoint × Chain :=
  let number := c.funded + 1
  let outpoint : OutPoint := ⟨(fundingTransaction number value).txid, 0⟩
  let coin : Coin := ⟨⟨value, anyoneScript⟩, some c.height⟩
  (outpoint, { c with funded := number, coins := c.coins.insert outpoint coin })

/-- Adds a block that holds all waiting transactions. -/
def mine (c : Chain) : Chain :=
  let height := c.height + 1
  { c with
    height
    time := c.time + blockInterval
    coins := c.coins.filterMap fun _ coin => some (Coin.confirmAt height coin)
    mempool := []
    mempoolSpends := []
    confirmed := c.mempool.foldl (fun m txid => m.insert txid height) c.confirmed }

/-- Adds some blocks. The first holds all waiting transactions, the others are empty. -/
def advance (c : Chain) (blocks : UInt32) : Chain :=
  if blocks = 0 then c
  else
    let c := c.mine
    let more := blocks - 1
    { c with height := c.height + more, time := c.time + more * blockInterval }

/-! ## Rules -/

/-- The coin that an input spends. -/
def spendable (c : Chain) (input : TxIn) : Except Rejection Coin :=
  if input.outpoint ∈ c.mempoolSpends then .error (.conflict input.outpoint)
  else
    match c.coins.get? input.outpoint with
    | some coin => .ok coin
    | none => .error (.missingInputs input.outpoint)

/-- Whether a transaction's lock time has been reached. It counts only if an input leaves it on. -/
def isFinal (c : Chain) (tx : Transaction) : Bool :=
  tx.lockTime == 0 || tx.inputs.all (·.sequence == LockTime.finalSequence) ||
    if tx.lockTime < LockTime.threshold then tx.lockTime ≤ c.height else tx.lockTime ≤ c.time

/-- Checks the relative lock of an input against the coin that it spends. An unconfirmed coin
satisfies a lock of zero blocks only. -/
def checkRelativeLock (c : Chain) (input : TxIn) (coin : Coin) : Except Rejection Unit :=
  let sequence := input.sequence
  if sequence &&& LockTime.disableFlag ≠ 0 then .ok ()
  else if sequence &&& LockTime.timeFlag ≠ 0 then
    .error (.other "time-based relative lock times are not simulated")
  else
    let mature := match coin.height with
      | some height => LockTime.isMature sequence (c.height + 1) height
      | none => sequence &&& LockTime.lengthMask == 0
    if mature then .ok () else .error .relativeLockUnmet

/-- Checks the relative locks of all inputs; transactions before version 2 have none. -/
def checkRelativeLocks (c : Chain) (tx : Transaction) (coins : List Coin) :
    Except Rejection Unit :=
  if tx.version < 2 then .ok ()
  else (tx.inputs.zip coins).forM fun (input, coin) => c.checkRelativeLock input coin

/-- The sum of the values of outputs, counted in 64 bits. -/
def totalValue (outputs : List TxOut) : Amount := (outputs.map (·.value)).foldr (· + ·) 0

/-- Checks the script of one input. -/
def checkScript [KeyScheme] (ctx : SpendContext) : Except Rejection Unit :=
  match ctx.verify with
  | .ok () => .ok ()
  | .error fault => .error (.scriptFailed ctx.index fault.message)

/-- Checks that a transaction may enter the mempool. -/
def validate [KeyScheme] (c : Chain) (tx : Transaction) : Except Rejection Unit := do
  if tx.inputs.isEmpty then .error (.other "no inputs")
  else
    let coins ← tx.inputs.mapM c.spendable
    if !c.isFinal tx then .error .nonFinal
    else
      c.checkRelativeLocks tx coins
      let prevouts := coins.map (·.output)
      if totalValue prevouts < totalValue tx.outputs then .error .insufficientValue
      else (tx.spendContexts prevouts).forM checkScript

/-! ## Acceptance -/

/-- Takes a transaction's inputs off the unspent outputs and adds its outputs. -/
def apply (c : Chain) (tx : Transaction) : Chain :=
  let txid := tx.txid
  let spent := tx.inputs.map (·.outpoint)
  let created := tx.outputs.mapIdx fun vout output =>
    ((⟨txid, UInt32.ofNat vout⟩ : OutPoint), (⟨output, none⟩ : Coin))
  let coins := spent.foldl SortedMap.erase c.coins
  { c with
    coins := created.foldl (fun m (o, coin) => m.insert o coin) coins
    mempool := c.mempool ++ [txid]
    mempoolSpends := spent ++ c.mempoolSpends }

/-- Submits a transaction. -/
def submit [KeyScheme] (c : Chain) (tx : Transaction) : Except Rejection (Txid × Chain) := do
  c.validate tx
  return (tx.txid, c.apply tx)

/-- Broadcasts a transaction. -/
def broadcast [KeyScheme] (c : Chain) (tx : Transaction) : Result (Txid × Chain) :=
  match c.submit tx with
  | .ok r => .ok r
  | .error rejection => .error (.rejected rejection)

end Chain

end Supersede
