import Supersede.Chain.Machine
import Supersede.Proofs.Ledger
import Supersede.Proofs.Script

/-!
# Running a script piece by piece

The machine runs a flat list of instructions and skips what stands in a branch that is not taken.
The scripts of a channel have one conditional each, and no conditional inside it. Such a script is a
few *blocks*: lists of instructions without conditionals, which work on the stack alone
(`SpendContext.block`). `Machine.run_conditional` says that of two branches the machine runs the
chosen block and skips the other.

What the blocks check is said without the machine:

* `SpendContext.LockTimePasses`, `SpendContext.SequencePasses`: what a time lock asks of a
  transaction and its input.
* `SpendContext.ForScript.checkMultisig_two`: two signatures for two keys are checked key by key.
* `SpendContext.Carries.accepts`: a signature that does not commit to the spent output is valid
  wherever the signed transaction is put.
-/

namespace Supersede

open Result

/-! ## Time locks -/

namespace SpendContext

/-- The transaction's lock time is of the kind of the given one and has reached it, and the input
leaves it on. -/
@[mk_iff] structure LockTimePasses (ctx : SpendContext) (lockTime : UInt32) : Prop where
  kind : lockTime < LockTime.threshold ↔ ctx.tx.lockTime < LockTime.threshold
  reached : lockTime ≤ ctx.tx.lockTime
  enabled : ctx.input.sequence ≠ LockTime.finalSequence

/-- The input has a relative lock of at least the given number of blocks, and the transaction's
version gives it force. -/
@[mk_iff] structure SequencePasses (ctx : SpendContext) (blocks : UInt16) : Prop where
  version : 2 ≤ ctx.tx.version
  enabled : ctx.input.sequence &&& LockTime.disableFlag = 0
  kind : ctx.input.sequence &&& LockTime.timeFlag = 0
  elapsed : blocks.toUInt32 ≤ ctx.input.sequence &&& LockTime.lengthMask

theorem readNumber_encode (n : UInt32) :
    readNumber (ScriptNumber.encode n.toNat) = .ok (n.toNat : Int) := by
  rw [readNumber, ScriptNumber.decode?_encode]

theorem checkLockTime_encode (ctx : SpendContext) (lockTime : UInt32) :
    ctx.checkLockTime (ScriptNumber.encode lockTime.toNat) = .ok () ↔
      ctx.LockTimePasses lockTime := by
  have hnonneg : ¬ (lockTime.toNat : Int) < 0 := by omega
  have hkind (n threshold : UInt32) : (n.toNat : Int) < threshold.toNat ↔ n < threshold := by
    rw [UInt32.lt_iff_toNat_lt, Int.ofNat_lt]
  rw [lockTimePasses_iff, checkLockTime, readNumber_encode, ok_bind]
  -- The threshold is kept as a name: its value plays no part.
  generalize LockTime.threshold = threshold
  simp only [if_neg hnonneg, ite_error_eq_ok, hkind, ne_eq, decide_eq_decide, not_not,
    UInt32.not_lt, and_true]

/-- A number of blocks does not reach the flags of a sequence number. -/
theorem blocks_and_flag (blocks : UInt16) {flag : UInt32} {i : Nat} (hflag : flag.toNat = 2 ^ i)
    (hi : 16 ≤ i) : blocks.toUInt32 &&& flag = 0 := by
  have hlt : blocks.toNat < 2 ^ i := blocks.toNat_lt.trans_le (Nat.pow_le_pow_right (by decide) hi)
  rw [← UInt32.toNat_inj, UInt32.toNat_and, hflag, UInt16.toNat_toUInt32, Nat.and_two_pow,
    Nat.testBit_lt_two_pow hlt]
  simp

theorem blocks_and_mask (blocks : UInt16) :
    blocks.toUInt32 &&& LockTime.lengthMask = blocks.toUInt32 := by
  have hmask : LockTime.lengthMask.toNat = 2 ^ 16 - 1 := rfl
  rw [← UInt32.toNat_inj, UInt32.toNat_and, hmask, UInt16.toNat_toUInt32,
    Nat.and_two_pow_sub_one_eq_mod]
  exact Nat.mod_eq_of_lt blocks.toNat_lt

theorem checkSequence_encode (ctx : SpendContext) (blocks : UInt16) :
    ctx.checkSequence (ScriptNumber.encode blocks.toNat) = .ok () ↔
      ctx.SequencePasses blocks := by
  have hread : readNumber (ScriptNumber.encode blocks.toNat) = .ok (blocks.toNat : Int) := by
    rw [← UInt16.toNat_toUInt32]
    exact readNumber_encode _
  have hnonneg : ¬ (blocks.toNat : Int) < 0 := by omega
  have hword : UInt32.ofNat (blocks.toNat : Int).toNat = blocks.toUInt32 := by
    rw [Int.toNat_natCast, UInt32.ofNat_uInt16ToNat]
  have hdisable : blocks.toUInt32 &&& LockTime.disableFlag = 0 :=
    blocks_and_flag blocks (i := 31) rfl (by decide)
  have htime : blocks.toUInt32 &&& LockTime.timeFlag = 0 :=
    blocks_and_flag blocks (i := 22) rfl (by decide)
  rw [sequencePasses_iff, eq_comm (a := ctx.input.sequence &&& LockTime.timeFlag)]
  simp only [checkSequence, hread, ok_bind, hword, hdisable, htime, blocks_and_mask,
    if_neg hnonneg, ne_eq, not_true_eq_false, if_false, ite_error_eq_ok, not_not, and_true,
    Int32.not_lt, UInt32.not_lt]

/-! ## Signatures -/

/-- A context for a witness script: the input and the output that it spends are those at the index,
signatures are channel signatures and commit to the script. -/
structure ForScript (ctx : SpendContext) (script : Bytes) : Prop where
  input : ctx.tx.inputs[ctx.index]? = some ctx.input
  spent : ctx.prevouts[ctx.index]? = some ctx.spent
  scriptCode : ctx.scriptCode = script
  internalKey : ctx.internalKey = none

variable [KeyScheme]

/-- The signature is valid for the key. -/
def Accepts (ctx : SpendContext) (sig : Bytes) (key : PublicKey) : Prop :=
  ctx.checkSig sig key.toBytes = .ok true

variable {ctx : SpendContext} {script : Bytes}

theorem ForScript.accepts_iff (h : ctx.ForScript script) {sig : ChannelSignature}
    {key : PublicKey} : ctx.Accepts sig.toBytes key ↔
      ctx.tx.verifyInput ctx.index ctx.scriptCode ctx.spent.value sig key = .ok true := by
  simp only [Accepts, checkSig, h.internalKey, checkChannelSig, ChannelSignature.ofBytes_toBytes,
    PublicKey.ofBytes?_toBytes]
  cases ctx.tx.verifyInput ctx.index ctx.scriptCode ctx.spent.value sig key <;> simp [liftResult]

theorem ForScript.not_accepts_nil (h : ctx.ForScript script) (key : PublicKey) :
    ¬ ctx.Accepts [] key := by
  simp only [Accepts, checkSig, h.internalKey]
  nofun

/-- Whether a signature is valid for a key is always decided. -/
theorem ForScript.exists_checkSig (h : ctx.ForScript script) (sig : Bytes) (key : PublicKey) :
    ∃ valid, ctx.checkSig sig key.toBytes = .ok valid := by
  simp only [checkSig, h.internalKey, checkChannelSig, PublicKey.ofBytes?_toBytes]
  cases ChannelSignature.ofBytes sig with
  | error e => exact ⟨false, rfl⟩
  | ok sig =>
    simp only [Transaction.verifyInput, Transaction.signatureHash, h.input]
    exact ⟨_, rfl⟩

theorem ForScript.checkSig_of_not_accepts (h : ctx.ForScript script) {sig : Bytes}
    {key : PublicKey} (hsig : ¬ ctx.Accepts sig key) :
    ctx.checkSig sig key.toBytes = .ok false := by
  obtain ⟨valid, hvalid⟩ := h.exists_checkSig sig key
  cases valid with
  | false => exact hvalid
  | true => exact absurd hvalid hsig

/-- With as many signatures as keys no key can be passed over. -/
theorem ForScript.matchSignatures_two (h : ctx.ForScript script) (a b : Bytes) (k k' : PublicKey) :
    ∃ valid, ctx.matchSignatures [a, b] [k.toBytes, k'.toBytes] = .ok valid ∧
      (valid = true ↔ ctx.Accepts a k ∧ ctx.Accepts b k') := by
  by_cases ha : ctx.Accepts a k
  · by_cases hb : ctx.Accepts b k'
    · refine ⟨true, ?_, by simp [ha, hb]⟩
      have ha' : ctx.checkSig a k.toBytes = .ok true := ha
      have hb' : ctx.checkSig b k'.toBytes = .ok true := hb
      simp [matchSignatures, ha', hb', ok_bind]
    · refine ⟨false, ?_, by simp [hb]⟩
      have ha' : ctx.checkSig a k.toBytes = .ok true := ha
      simp [matchSignatures, ha', h.checkSig_of_not_accepts hb, ok_bind]
  · refine ⟨false, ?_, by simp [ha]⟩
    simp [matchSignatures, h.checkSig_of_not_accepts ha, ok_bind]
    rfl

/-- Two signatures for two keys: the check takes both and an empty item off the stack. -/
theorem ForScript.checkMultisig_two (h : ctx.ForScript script) (k k' : PublicKey)
    (stack rest : List Bytes) (valid : Bool) :
    ctx.checkMultisig (ScriptNumber.encode 2 :: k'.toBytes :: k.toBytes :: ScriptNumber.encode 2 ::
      stack) = .ok (valid, rest) ↔
      ∃ a b, stack = b :: a :: [] :: rest ∧
        (valid = true ↔ ctx.Accepts a k ∧ ctx.Accepts b k') := by
  have hcount : readCount (ScriptNumber.encode 2) = .ok 2 := rfl
  rcases stack with _ | ⟨b, _ | ⟨a, _ | ⟨dummy, stack⟩⟩⟩
  · simp [checkMultisig, pop, hcount, take, ok_bind, error_bind]
  · simp [checkMultisig, pop, hcount, take, ok_bind, error_bind]
  · simp [checkMultisig, pop, hcount, take, ok_bind, error_bind]
  · obtain ⟨found, hmatch, hfound⟩ := h.matchSignatures_two a b k k'
    by_cases hdummy : dummy = []
    · subst hdummy
      have houtcome : ctx.checkMultisig (ScriptNumber.encode 2 :: k'.toBytes :: k.toBytes ::
          ScriptNumber.encode 2 :: b :: a :: [] :: stack) = .ok (found, stack) := by
        simp [checkMultisig, pop, hcount, take, ok_bind, hmatch]
      rw [houtcome]
      constructor
      · intro heq
        cases heq
        exact ⟨a, b, rfl, hfound⟩
      · rintro ⟨a', b', hstack, hvalid⟩
        cases hstack
        rw [Bool.eq_iff_iff.2 (hfound.trans hvalid.symm)]
    · simp [checkMultisig, pop, hcount, take, ok_bind, hdummy]

end SpendContext

/-! ## Floating signatures -/

/-- A signature that does not commit to the spent output commits to the transaction's version, lock
time and outputs, to the sequence number of the input, to the value that it spends and, in one of
the two modes, to the script. -/
theorem Transaction.signatureHash_floating {mode : SigningMode}
    (hmode : mode.commitsToPrevOut = false) {tx tx' : Transaction} {input input' : TxIn}
    {index index' : Nat} (hinput : tx.inputs[index]? = some input)
    (hinput' : tx'.inputs[index']? = some input') (hversion : tx.version = tx'.version)
    (hlockTime : tx.lockTime = tx'.lockTime) (houtputs : tx.outputs = tx'.outputs)
    (hsequence : input.sequence = input'.sequence) {scriptCode scriptCode' : Bytes}
    (hscript : mode.commitsToScript = true → scriptCode = scriptCode') (value : UInt64) :
    tx.signatureHash index scriptCode value mode =
      tx'.signatureHash index' scriptCode' value mode := by
  have hcode : (if mode.commitsToScript then Bytes.withLength scriptCode else []) =
      if mode.commitsToScript then Bytes.withLength scriptCode' else [] := by
    split
    · rw [hscript ‹_›]
    · rfl
  have hpreimage : tx.floatingPreimage input scriptCode value mode =
      tx'.floatingPreimage input' scriptCode' value mode := by
    simp only [floatingPreimage, hcode, versionBytes, outputBytes, hversion, hlockTime, houtputs,
      hsequence]
  cases mode with
  | all => cases hmode
  | anyPrevOut | anyPrevOutAnyScript =>
    simp only [signatureHash, hinput, hinput', signaturePreimage, hpreimage]

namespace SpendContext

/-- The input agrees with one that was signed in all that floating signatures commit to, the script
aside. Neither the place of the spent output nor the other inputs matter. -/
structure Carries (ctx : SpendContext) (tx : Transaction) (input : TxIn) (value : Amount) :
    Prop where
  version : ctx.tx.version = tx.version
  lockTime : ctx.tx.lockTime = tx.lockTime
  outputs : ctx.tx.outputs = tx.outputs
  sequence : ctx.input.sequence = input.sequence
  value : ctx.spent.value = value

variable [KeyScheme] {ctx : SpendContext} {script : Bytes} {tx : Transaction} {input : TxIn}
  {index : Nat} {value : Amount}

/-- A floating signature is valid wherever the signed transaction is put. -/
theorem Carries.accepts (h : ctx.Carries tx input value) (hctx : ctx.ForScript script)
    (hinput : tx.inputs[index]? = some input) {sig : ChannelSignature} {key : PublicKey}
    {signed : Bytes} (hmode : sig.mode.commitsToPrevOut = false)
    (hscript : sig.mode.commitsToScript = true → script = signed)
    (hvalid : tx.verifyInput index signed value sig key = .ok true) :
    ctx.Accepts sig.toBytes key := by
  have hdigest := Transaction.signatureHash_floating hmode hctx.input hinput h.version h.lockTime
    h.outputs h.sequence hscript value
  rw [hctx.accepts_iff, hctx.scriptCode, h.value, Transaction.verifyInput, hdigest]
  exact hvalid

/-- The owner of a key can sign an input so that the signature is valid for any script. -/
theorem exists_accepts [LawfulKeyScheme] (hinput : tx.inputs[index]? = some input)
    (value : Amount) (key : SecretKey) :
    ∃ sig, ∀ {ctx : SpendContext} {script : Bytes}, ctx.ForScript script →
      ctx.Carries tx input value → ctx.Accepts sig key.publicKey := by
  obtain ⟨digest, hdigest⟩ : ∃ digest,
      tx.signatureHash index [] value .anyPrevOutAnyScript = .ok digest := by
    rw [Transaction.signatureHash, hinput]
    exact ⟨_, rfl⟩
  let sig : ChannelSignature := ⟨KeyScheme.ecdsaSign key digest, .anyPrevOutAnyScript⟩
  have hvalid : tx.verifyInput index [] value sig key.publicKey = .ok true := by
    simp only [Transaction.verifyInput, sig, hdigest, Except.map,
      LawfulKeyScheme.ecdsaVerify_sign]
  exact ⟨sig.toBytes, fun hctx hcarries => hcarries.accepts hctx hinput rfl nofun hvalid⟩

end SpendContext

/-! ## Blocks -/

/-- Whether the operation opens, switches or closes a branch. -/
def Op.isConditional : Op → Bool
  | ifTrue | ifFalse | otherwise | endIf => true
  | _ => false

/-- Whether the instruction opens, switches or closes a branch. -/
def Instruction.isConditional : Instruction → Bool
  | push _ => false
  | op o => o.isConditional

@[simp] theorem Instruction.isConditional_push (data : Bytes) :
    (push data).isConditional = false := rfl

@[simp] theorem Instruction.isConditional_op (o : Op) :
    (op o).isConditional = o.isConditional := rfl

@[simp] theorem Instruction.isConditional_number (n : Nat) :
    (number n).isConditional = false := by
  unfold number
  split <;> rfl

/-- No instruction is a conditional. -/
def IsBlock (instructions : List Instruction) : Prop :=
  ∀ i ∈ instructions, i.isConditional = false

namespace SpendContext

variable [KeyScheme]

/-- Executes an instruction that is no conditional. -/
def executeOne (ctx : SpendContext) (stack : List Bytes) : Instruction → Except Fault (List Bytes)
  | .push data => .ok (data :: stack)
  | .op op => ctx.execute stack op

/-- Executes instructions of which none is a conditional. -/
def block (ctx : SpendContext) (stack : List Bytes) (instructions : List Instruction) :
    Except Fault (List Bytes) :=
  instructions.foldlM ctx.executeOne stack

variable (ctx : SpendContext)

theorem block_nil (stack : List Bytes) : ctx.block stack [] = .ok stack := rfl

theorem block_cons (stack : List Bytes) (i : Instruction) (instructions : List Instruction) :
    ctx.block stack (i :: instructions) =
      ctx.executeOne stack i >>= fun stack => ctx.block stack instructions :=
  List.foldlM_cons

theorem executeOne_push (stack : List Bytes) (data : Bytes) :
    ctx.executeOne stack (.push data) = .ok (data :: stack) := rfl

/-- Both forms of a number leave the same item on the stack. -/
theorem executeOne_number (stack : List Bytes) (n : Nat) :
    ctx.executeOne stack (.number n) = .ok (ScriptNumber.encode n :: stack) := by
  unfold Instruction.number
  by_cases h : 1 ≤ n ∧ n ≤ 16
  · have hitem : ∀ pred : Fin 16,
        [UInt8.ofNat (pred.val + 1)] = ScriptNumber.encode (pred.val + 1) := by decide
    have hn : n - 1 + 1 = n := Nat.sub_add_cancel h.1
    rw [dif_pos h]
    show Except.ok ([UInt8.ofNat (n - 1 + 1)] :: stack) = _
    rw [hitem ⟨n - 1, by omega⟩, hn]
  · rw [dif_neg h]
    rfl

theorem executeOne_drop (item : Bytes) (stack : List Bytes) :
    ctx.executeOne (item :: stack) (.op .drop) = .ok stack := rfl

theorem executeOne_hash160 (item : Bytes) (stack : List Bytes) :
    ctx.executeOne (item :: stack) (.op .hash160) = .ok ((hash160 item).toBytes :: stack) := rfl

theorem executeOne_checkLockTime (item : Bytes) (stack : List Bytes) :
    ctx.executeOne (item :: stack) (.op .checkLockTime) =
      ctx.checkLockTime item >>= fun _ => .ok (item :: stack) := rfl

theorem executeOne_checkSequence (item : Bytes) (stack : List Bytes) :
    ctx.executeOne (item :: stack) (.op .checkSequence) =
      ctx.checkSequence item >>= fun _ => .ok (item :: stack) := rfl

variable {ctx}

theorem executeOne_equalVerify {a b : Bytes} {stack rest : List Bytes} :
    ctx.executeOne (a :: b :: stack) (.op .equalVerify) = .ok rest ↔ a = b ∧ stack = rest := by
  show (if a = b then pure stack else Except.error Fault.equalVerifyFailed) = _ ↔ _
  by_cases h : a = b <;> simp [h, pure_eq_ok]

theorem executeOne_checkMultisig {stack rest : List Bytes} :
    ctx.executeOne stack (.op .checkMultisig) = .ok rest ↔
      ∃ valid rest', ctx.checkMultisig stack = .ok (valid, rest') ∧
        rest = ScriptNumber.ofBool valid :: rest' := by
  simp only [executeOne, execute, bind_eq_ok, pure_eq_ok]
  constructor
  · rintro ⟨⟨valid, rest'⟩, hcheck, rfl⟩
    exact ⟨valid, rest', hcheck, rfl⟩
  · rintro ⟨valid, rest', hcheck, rfl⟩
    exact ⟨(valid, rest'), hcheck, rfl⟩

theorem executeOne_checkMultisigVerify {stack rest : List Bytes} :
    ctx.executeOne stack (.op .checkMultisigVerify) = .ok rest ↔
      ctx.checkMultisig stack = .ok (true, rest) := by
  simp only [executeOne, execute, bind_eq_ok]
  constructor
  · rintro ⟨⟨valid, rest'⟩, hcheck, hvalid⟩
    cases valid with
    | false => cases hvalid
    | true =>
      rw [hcheck, show rest' = rest from Except.ok.inj hvalid]
  · intro hcheck
    exact ⟨(true, rest), hcheck, rfl⟩

/-- A preimage of the hash is taken off the stack. -/
theorem block_preimage {hash : Hash160} {item : Bytes} {instructions : List Instruction}
    {stack rest : List Bytes} :
    ctx.block (item :: stack)
      (.op .hash160 :: .push hash.toBytes :: .op .equalVerify :: instructions) = .ok rest ↔
      hash160 item = hash ∧ ctx.block stack instructions = .ok rest := by
  have hequal : hash.toBytes = (hash160 item).toBytes ↔ hash160 item = hash :=
    ⟨fun h => (FixedBytes.ext h).symm, fun h => by rw [h]⟩
  simp only [block_cons, executeOne_hash160, executeOne_push, ok_bind, bind_eq_ok,
    executeOne_equalVerify, hequal]
  constructor
  · rintro ⟨left, ⟨hhash, rfl⟩, hrest⟩
    exact ⟨hhash, hrest⟩
  · rintro ⟨hhash, hrest⟩
    exact ⟨stack, ⟨hhash, rfl⟩, hrest⟩

/-- A check of a number leaves the number on the stack. -/
theorem block_check {n : Nat} {o : Op} {check : Except Fault Unit}
    {instructions : List Instruction} {stack rest : List Bytes}
    (ho : ctx.executeOne (ScriptNumber.encode n :: stack) (.op o) =
      check >>= fun _ => .ok (ScriptNumber.encode n :: stack)) :
    ctx.block stack (.number n :: .op o :: instructions) = .ok rest ↔
      check = .ok () ∧ ctx.block (ScriptNumber.encode n :: stack) instructions = .ok rest := by
  rw [block_cons, executeOne_number, ok_bind, block_cons, ho]
  cases check with
  | error e => exact ⟨nofun, fun h => nomatch h.1⟩
  | ok u => exact ⟨fun h => ⟨rfl, h⟩, fun h => h.2⟩

theorem block_checkLockTime {lockTime : UInt32} {instructions : List Instruction}
    {stack rest : List Bytes} :
    ctx.block stack (.number lockTime.toNat :: .op .checkLockTime :: instructions) = .ok rest ↔
      ctx.LockTimePasses lockTime ∧
        ctx.block (ScriptNumber.encode lockTime.toNat :: stack) instructions = .ok rest := by
  rw [← checkLockTime_encode]
  exact block_check (executeOne_checkLockTime ctx _ stack)

theorem block_checkSequence {blocks : UInt16} {instructions : List Instruction}
    {stack rest : List Bytes} :
    ctx.block stack (.number blocks.toNat :: .op .checkSequence :: instructions) = .ok rest ↔
      ctx.SequencePasses blocks ∧
        ctx.block (ScriptNumber.encode blocks.toNat :: stack) instructions = .ok rest := by
  rw [← checkSequence_encode]
  exact block_check (executeOne_checkSequence ctx _ stack)

end SpendContext

namespace Machine

theorem finish_eq_ok {stack : List Bytes} :
    finish { stack } = .ok () ↔ ∃ item, stack = [item] ∧ ScriptNumber.isTrue item = true := by
  rcases stack with _ | ⟨item, _ | ⟨item', stack⟩⟩ <;> simp [finish]

variable [KeyScheme] {ctx : SpendContext} {m : Machine} {i : Instruction}
  {instructions : List Instruction}

theorem evaluate_eq_ok {script : Bytes} {stack : List Bytes}
    (h : Code.ofBytes script = ⟨instructions, false⟩) :
    evaluate ctx script stack = .ok () ↔
      ∃ m, run ctx { stack } instructions = .ok m ∧ m.finish = .ok () := by
  rw [evaluate, h]
  exact bind_eq_ok

theorem run_cons (i : Instruction) (instructions : List Instruction) :
    run ctx m (i :: instructions) = step ctx m i >>= fun m => run ctx m instructions :=
  List.foldlM_cons

theorem run_append (first second : List Instruction) :
    run ctx m (first ++ second) = run ctx m first >>= fun m => run ctx m second :=
  List.foldlM_append

theorem step_of_executing (h : m.executing = true) (hi : i.isConditional = false) :
    step ctx m i = ctx.executeOne m.stack i >>= fun stack => .ok { m with stack } := by
  cases i with
  | push data =>
    rw [step, if_pos h]
    rfl
  | op o =>
    cases o with
    | ifTrue | ifFalse | otherwise | endIf => cases hi
    | _ => exact if_pos h

theorem step_of_skipping (h : m.executing = false) (hi : i.isConditional = false) :
    step ctx m i = .ok m := by
  have h' : ¬ m.executing = true := by simp [h]
  cases i with
  | push data => rw [step, if_neg h']
  | op o =>
    cases o with
    | ifTrue | ifFalse | otherwise | endIf => cases hi
    | _ => exact if_neg h'

/-- A block that is executed changes the stack only. -/
theorem run_block (h : m.executing = true) (hblock : IsBlock instructions) :
    run ctx m instructions =
      ctx.block m.stack instructions >>= fun stack => .ok { m with stack } := by
  induction instructions generalizing m with
  | nil => rfl
  | cons i instructions ih =>
    have hi := hblock i List.mem_cons_self
    have hrest : IsBlock instructions := fun j hj => hblock j (List.mem_cons_of_mem i hj)
    rw [run_cons, step_of_executing h hi, SpendContext.block_cons]
    cases ctx.executeOne m.stack i with
    | error e => rfl
    | ok stack => exact ih h hrest

/-- A script that is one block has to leave one true item. -/
theorem evaluate_block (hread : ∀ i ∈ instructions, i.Readable) (hblock : IsBlock instructions)
    {stack : List Bytes} :
    evaluate ctx (Script.encode instructions) stack = .ok () ↔
      ∃ item, ctx.block stack instructions = .ok [item] ∧ ScriptNumber.isTrue item = true := by
  rw [evaluate_eq_ok (Code.ofBytes_encode hread), run_block rfl hblock]
  simp only [bind_eq_ok]
  constructor
  · rintro ⟨m, ⟨left, hleft, heq⟩, hfinish⟩
    cases heq
    obtain ⟨item, rfl, htrue⟩ := finish_eq_ok.1 hfinish
    exact ⟨item, hleft, htrue⟩
  · rintro ⟨item, hleft, htrue⟩
    exact ⟨{ stack := [item] }, ⟨[item], hleft, rfl⟩, finish_eq_ok.2 ⟨item, rfl, htrue⟩⟩

/-- A block that is skipped changes nothing. -/
theorem run_skipped (h : m.executing = false) (hblock : IsBlock instructions) :
    run ctx m instructions = .ok m := by
  induction instructions with
  | nil => rfl
  | cons i instructions ih =>
    rw [run_cons, step_of_skipping h (hblock i List.mem_cons_self)]
    exact ih fun j hj => hblock j (List.mem_cons_of_mem i hj)

/-- Of two branches, the block on the side of the condition is executed and the other skipped. -/
theorem run_conditional (h : m.executing = true) {o : Op} {wanted : Bool}
    (hopen : ∀ m, step ctx m (.op o) = m.openBranch wanted) {first second : List Instruction}
    (hfirst : IsBlock first) (hsecond : IsBlock second) :
    run ctx m (.op o :: (first ++ .op .otherwise :: (second ++ [.op .endIf]))) =
      SpendContext.popCondition m.stack >>= fun (condition, stack) =>
        ctx.block stack (if condition == wanted then first else second) >>= fun stack =>
          .ok { m with stack } := by
  rw [run_cons, hopen, openBranch, if_pos h]
  cases SpendContext.popCondition m.stack with
  | error e => rfl
  | ok popped =>
    obtain ⟨condition, stack⟩ := popped
    have htaken (stack : List Bytes) : (⟨stack, true :: m.branches⟩ : Machine).executing = true := h
    have hskipped (stack : List Bytes) :
        (⟨stack, false :: m.branches⟩ : Machine).executing = false := rfl
    show run ctx ⟨stack, (condition == wanted) :: m.branches⟩ _ =
      ctx.block stack (if condition == wanted then first else second) >>= _
    rw [run_append]
    cases condition == wanted with
    | true =>
      rw [run_block (htaken stack) hfirst, if_pos rfl]
      cases ctx.block stack first with
      | error e => rfl
      | ok stack' =>
        show run ctx ⟨stack', false :: m.branches⟩ (second ++ [.op .endIf]) = _
        rw [run_append, run_skipped (hskipped stack') hsecond]
        rfl
    | false =>
      rw [run_skipped (hskipped stack) hfirst, if_neg nofun]
      show run ctx ⟨stack, true :: m.branches⟩ (second ++ [.op .endIf]) = _
      rw [run_append, run_block (htaken stack) hsecond]
      cases ctx.block stack second with
      | error e => rfl
      | ok stack' => rfl

end Machine

end Supersede
