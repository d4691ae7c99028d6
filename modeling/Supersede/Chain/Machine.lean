import Supersede.Script.Template
import Supersede.Transaction.Digest
import Supersede.Transaction.LockTime

/-!
# Running scripts

A script runs on a stack of byte strings, with a second stack that tells for each open conditional
whether its current branch is taken. Instructions are executed one by one from a flat list;
instructions in a branch that is not taken are skipped, except that conditionals inside it are still
counted. A script succeeds if it ends with all conditionals closed and exactly one item that is
true.
-/

namespace Supersede

/-- Why a script fails. -/
inductive Fault where
  | underflow
  | nonMinimalCondition
  | elseWithoutIf
  | endIfWithoutIf
  | unbalanced
  | truncated
  | unsupported (op : Op)
  | equalVerifyFailed
  | multisigVerifyFailed
  | tooManySignatures
  | nonEmptyDummy
  | negativeCount
  | numberTooLong (length : Nat)
  | negativeLockTime
  | lockTimeKind
  | lockTimeBelow (lockTime : UInt32) (required : Int)
  | finalSequence
  | negativeSequence
  | relativeLockVersion
  | relativeLockDisabled
  | relativeLockKind
  | sequenceBelow (sequence required : UInt32)
  | malformedKey
  | malformedSignature
  | leafKeyLength (length : Nat)
  | invalidLeafSignature
  | evaluatedFalse
  | notClean (items : Nat)
  | keyWitness
  | keyMismatch
  | invalidKeySignature
  | emptyWitness
  | scriptMismatch
  | keyPath
  | controlBlock (detail : String)
  | notCommitted
  | signing (cause : Error)
deriving DecidableEq

/-- The text shown for a failure. -/
def Fault.message : Fault → String
  | underflow => "stack underflow"
  | nonMinimalCondition => "non-minimal IF argument"
  | elseWithoutIf => "ELSE without IF"
  | endIfWithoutIf => "ENDIF without IF"
  | unbalanced => "unbalanced conditional"
  | truncated => "unexpected end of script"
  | unsupported op => "unsupported opcode " ++ op.name
  | equalVerifyFailed => "EQUALVERIFY failed"
  | multisigVerifyFailed => "CHECKMULTISIGVERIFY failed"
  | tooManySignatures => "more signatures than keys"
  | nonEmptyDummy => "CHECKMULTISIG dummy must be empty"
  | negativeCount => "number too small to fit in target type"
  | numberTooLong length => s!"script number too long: {length} bytes"
  | negativeLockTime => "negative lock time"
  | lockTimeKind => "lock time type mismatch"
  | lockTimeBelow lockTime required =>
    s!"lock time {lockTime.toNat} below required {required}"
  | finalSequence => "input sequence is final"
  | negativeSequence => "negative sequence"
  | relativeLockVersion => "relative lock time requires version 2"
  | relativeLockDisabled => "relative lock time disabled on input"
  | relativeLockKind => "relative lock time type mismatch"
  | sequenceBelow sequence required =>
    s!"sequence {sequence.toNat} below required {required.toNat}"
  | malformedKey => "malformed public key"
  | malformedSignature => "malformed signature"
  | leafKeyLength length => s!"unsupported tapscript key of {length} bytes"
  | invalidLeafSignature => "tapscript signature invalid"
  | evaluatedFalse => "script evaluated to false"
  | notClean items => s!"stack not clean: {items} items"
  | keyWitness => "P2WPKH witness must have two items"
  | keyMismatch => "public key does not match witness program"
  | invalidKeySignature => "P2WPKH signature invalid"
  | emptyWitness => "empty P2WSH witness"
  | scriptMismatch => "witness script does not match witness program"
  | keyPath => "P2TR key path spends are not simulated"
  | controlBlock detail => detail
  | notCommitted => "control block does not commit to the leaf"
  | signing cause => cause.message

/-- What a script can see of the spend that it guards. -/
structure SpendContext where
  tx : Transaction
  index : Nat
  /-- The input at the index. -/
  input : TxIn
  /-- The output that the input spends. -/
  spent : TxOut
  /-- The outputs that all inputs spend. -/
  prevouts : List TxOut
  /-- The script that signatures commit to. -/
  scriptCode : Bytes
  /-- The internal key, if the script is a taproot leaf. -/
  internalKey : Option XOnlyKey := none

/-- The state of a run. -/
structure Machine where
  /-- The items, top first. -/
  stack : List Bytes
  /-- For each open conditional, innermost first, whether its current branch is taken. -/
  branches : List Bool := []
deriving DecidableEq

namespace SpendContext

/-! ## Numbers -/

/-- Reads an item as a number. -/
def readNumber (item : Bytes) : Except Fault Int :=
  match ScriptNumber.decode? item with
  | some n => .ok n
  | none => .error (.numberTooLong item.length)

/-- Reads an item as a count. -/
def readCount (item : Bytes) : Except Fault Nat := do
  let n ← readNumber item
  if n < 0 then .error .negativeCount else return n.toNat

/-! ## Stack -/

/-- Takes some items off the stack, and returns them bottom first with the rest. -/
def take (count : Nat) (stack : List Bytes) : Except Fault (List Bytes × List Bytes) :=
  if count ≤ stack.length then .ok ((stack.take count).reverse, stack.drop count)
  else .error .underflow

/-- Takes the top item off the stack. -/
def pop : List Bytes → Except Fault (Bytes × List Bytes)
  | [] => .error .underflow
  | item :: stack => .ok (item, stack)

/-- Takes a condition off the stack: an empty item is false, the byte `1` is true, and nothing else
will do. -/
def popCondition (stack : List Bytes) : Except Fault (Bool × List Bytes) := do
  let (item, stack) ← pop stack
  if item = [] then return (false, stack)
  else if item = [0x01] then return (true, stack)
  else .error .nonMinimalCondition

/-! ## Time locks -/

/-- Checks that the transaction's lock time has reached a number, which must be of the same kind,
and that the input leaves the lock time on. -/
def checkLockTime (ctx : SpendContext) (item : Bytes) : Except Fault Unit := do
  let required ← readNumber item
  let lockTime : Int := ctx.tx.lockTime.toNat
  let threshold : Int := LockTime.threshold.toNat
  if required < 0 then .error .negativeLockTime
  else if decide (required < threshold) ≠ decide (lockTime < threshold) then .error .lockTimeKind
  else if lockTime < required then .error (.lockTimeBelow ctx.tx.lockTime required)
  else if ctx.input.sequence = LockTime.finalSequence then .error .finalSequence
  else .ok ()

/-- Checks that the input's relative lock is at least that of a sequence number; one with the
disabling bit asks for nothing. -/
def checkSequence (ctx : SpendContext) (item : Bytes) : Except Fault Unit := do
  let n ← readNumber item
  let required := UInt32.ofNat n.toNat
  let sequence := ctx.input.sequence
  if n < 0 then .error .negativeSequence
  else if required &&& LockTime.disableFlag ≠ 0 then .ok ()
  else if ctx.tx.version < 2 then .error .relativeLockVersion
  else if sequence &&& LockTime.disableFlag ≠ 0 then .error .relativeLockDisabled
  else if required &&& LockTime.timeFlag ≠ sequence &&& LockTime.timeFlag then
    .error .relativeLockKind
  else if sequence &&& LockTime.lengthMask < required &&& LockTime.lengthMask then
    .error (.sequenceBelow (sequence &&& LockTime.lengthMask) (required &&& LockTime.lengthMask))
  else .ok ()

/-! ## Signatures -/

/-- Turns a failed digest into a fault. -/
def liftResult {α : Type} : Result α → Except Fault α
  | .ok a => .ok a
  | .error e => .error (.signing e)

section Scheme

variable [KeyScheme]

/-- Whether a leaf signature is valid for an item that names a key: `1` for the internal key, or the
32 bytes of a key. Only the empty signature is invalid without being an error. -/
def checkLeafSig (ctx : SpendContext) (internalKey : XOnlyKey) (sig key : Bytes) :
    Except Fault Bool := do
  if sig = [] then return false
  let valid ←
    if key = [0x01] then do
      let sig ← liftResult (TapscriptSignature.ofBytes sig)
      liftResult (ctx.tx.verifyTapscript ctx.index ctx.spent ctx.scriptCode sig internalKey)
    else if key.length = 32 then do
      match XOnlyKey.ofBytes? key, FixedBytes.ofBytes? 64 sig with
      | none, _ => .error .malformedKey
      | some _, none => .error .malformedSignature
      | some key, some sig =>
        let digest ← liftResult (ctx.tx.leafSignatureHash ctx.index ctx.prevouts ctx.scriptCode)
        .ok (KeyScheme.schnorrVerify key digest sig)
    else .error (.leafKeyLength key.length)
  if valid then return true else .error .invalidLeafSignature

/-- Whether a channel signature is valid for a key. A signature that cannot be read is invalid; a key
that cannot be read is an error. -/
def checkChannelSig (ctx : SpendContext) (sig key : Bytes) : Except Fault Bool :=
  match ChannelSignature.ofBytes sig with
  | .error _ => .ok false
  | .ok sig =>
    match PublicKey.ofBytes? key with
    | none => .error .malformedKey
    | some key => liftResult (ctx.tx.verifyInput ctx.index ctx.scriptCode ctx.spent.value sig key)

/-- Whether a signature is valid for a key. -/
def checkSig (ctx : SpendContext) (sig key : Bytes) : Except Fault Bool :=
  match ctx.internalKey with
  | some internalKey => ctx.checkLeafSig internalKey sig key
  | none => ctx.checkChannelSig sig key

/-- Whether each signature is valid for a key, in the order of the keys: keys are passed over until
one fits, as long as enough are left. -/
def matchSignatures (ctx : SpendContext) : (sigs keys : List Bytes) → Except Fault Bool
  | [], _ => .ok true
  | _ :: _, [] => .ok false
  | sig :: sigs, key :: keys => do
    if keys.length < sigs.length then return false
    else if ← ctx.checkSig sig key then ctx.matchSignatures sigs keys
    else ctx.matchSignatures (sig :: sigs) keys

/-- The multiple-signature check: takes a count and keys, a count and signatures, and an empty item
off the stack. Returns the outcome and the rest. -/
def checkMultisig (ctx : SpendContext) (stack : List Bytes) :
    Except Fault (Bool × List Bytes) := do
  let (item, stack) ← pop stack
  let keyCount ← readCount item
  let (keys, stack) ← take keyCount stack
  let (item, stack) ← pop stack
  let sigCount ← readCount item
  if keyCount < sigCount then .error .tooManySignatures
  else
    let (sigs, stack) ← take sigCount stack
    let (dummy, stack) ← pop stack
    if dummy ≠ [] then .error .nonEmptyDummy
    else
      let valid ← ctx.matchSignatures sigs keys
      return (valid, stack)

/-! ## Instructions -/

/-- Executes an operation that is not a conditional. -/
def execute (ctx : SpendContext) (stack : List Bytes) : Op → Except Fault (List Bytes)
  | .number pred => .ok ([UInt8.ofNat (pred.val + 1)] :: stack)
  | .drop => do
    let (_, stack) ← pop stack
    return stack
  | .hash160 => do
    let (item, stack) ← pop stack
    return (Supersede.hash160 item).toBytes :: stack
  | .equalVerify => do
    let (a, stack) ← pop stack
    let (b, stack) ← pop stack
    if a = b then return stack else .error .equalVerifyFailed
  | .checkSig => do
    let (key, stack) ← pop stack
    let (sig, stack) ← pop stack
    let valid ← ctx.checkSig sig key
    return ScriptNumber.ofBool valid :: stack
  | .checkMultisig => do
    let (valid, stack) ← ctx.checkMultisig stack
    return ScriptNumber.ofBool valid :: stack
  | .checkMultisigVerify => do
    let (valid, stack) ← ctx.checkMultisig stack
    if valid then return stack else .error .multisigVerifyFailed
  | .checkLockTime => do
    let (item, _) ← pop stack
    ctx.checkLockTime item
    return stack
  | .checkSequence => do
    let (item, _) ← pop stack
    ctx.checkSequence item
    return stack
  | op => .error (.unsupported op)

end Scheme

end SpendContext

namespace Machine

/-- Whether all branches that are open are taken. -/
def executing (m : Machine) : Bool := m.branches.all id

/-- Opens a conditional whose first branch is taken on the given condition. -/
def openBranch (m : Machine) (wanted : Bool) : Except Fault Machine :=
  if m.executing then do
    let (condition, stack) ← SpendContext.popCondition m.stack
    return ⟨stack, (condition == wanted) :: m.branches⟩
  else .ok { m with branches := false :: m.branches }

/-- Passes to the other branch of the innermost conditional. -/
def otherBranch (m : Machine) : Except Fault Machine :=
  match m.branches with
  | taken :: outer => .ok { m with branches := (!taken) :: outer }
  | [] => .error .elseWithoutIf

/-- Closes the innermost conditional. -/
def closeBranch (m : Machine) : Except Fault Machine :=
  match m.branches with
  | _ :: outer => .ok { m with branches := outer }
  | [] => .error .endIfWithoutIf

/-- Checks that a run ended as it should. -/
def finish (m : Machine) : Except Fault Unit :=
  if m.branches ≠ [] then .error .unbalanced
  else
    match m.stack with
    | [item] => if ScriptNumber.isTrue item then .ok () else .error .evaluatedFalse
    | items => .error (.notClean items.length)

variable [KeyScheme]

/-- One instruction. -/
def step (ctx : SpendContext) (m : Machine) : Instruction → Except Fault Machine
  | .push data => .ok (if m.executing then { m with stack := data :: m.stack } else m)
  | .op .ifTrue => m.openBranch true
  | .op .ifFalse => m.openBranch false
  | .op .otherwise => m.otherBranch
  | .op .endIf => m.closeBranch
  | .op op =>
    if m.executing then do
      let stack ← ctx.execute m.stack op
      return { m with stack }
    else .ok m

/-- A list of instructions. -/
def run (ctx : SpendContext) (m : Machine) (instructions : List Instruction) :
    Except Fault Machine :=
  instructions.foldlM (step ctx) m

/-- Runs a script on a stack, top first. -/
def evaluate (ctx : SpendContext) (script : Bytes) (stack : List Bytes) : Except Fault Unit := do
  let code := Code.ofBytes script
  let m ← run ctx { stack } code.instructions
  if code.truncated then .error .truncated else m.finish

end Machine

end Supersede
