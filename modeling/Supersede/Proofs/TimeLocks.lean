import Supersede.Proofs.Unlocking
import Supersede.Proofs.Validation

/-!
# Time locks hold

A time lock of a channel is enforced in two steps. The script compares its number with a field of
the spending transaction, and the chain compares that field with the coin's height or with its own
height and time. What would turn off one of the steps is refused by the other: a script that asks
for a relative lock asks for a version and a sequence number that give it force, and one that asks
for a lock time asks for a sequence number that leaves the lock time on.

**Theorem (`Chain.locks_hold`).** In a transaction that the chain accepts, an input that settles a
state spends a coin that has been confirmed for the dispute window, and an input that takes a
payment back does so after the expiry.
-/

namespace Supersede

open Result

/-! ## Relative locks -/

namespace LockTime

theorem toNat_heightGap (later earlier : UInt32) :
    (heightGap later earlier).toNat = later.toNat - earlier.toNat := by
  unfold heightGap
  split
  · exact UInt32.toNat_sub_of_le _ _ ‹_›
  · have hlt : later.toNat < earlier.toNat := by
      rw [← UInt32.lt_iff_toNat_lt]
      exact UInt32.not_le.1 ‹_›
    rw [Nat.sub_eq_zero_of_le hlt.le]
    rfl

/-- The length of a relative lock fits a number of blocks. -/
theorem toUInt32_toUInt16_length (sequence : UInt32) :
    (sequence &&& lengthMask).toUInt16.toUInt32 = sequence &&& lengthMask := by
  have hmask : lengthMask.toNat = 2 ^ 16 - 1 := rfl
  rw [← UInt32.toNat_inj, UInt16.toNat_toUInt32, UInt32.toNat_toUInt16, UInt32.toNat_and, hmask,
    Nat.and_two_pow_sub_one_eq_mod, Nat.mod_mod]

theorem toNat_blocks_pos {blocks : UInt16} (h : blocks ≠ 0) : 0 < blocks.toNat := by
  rw [Nat.pos_iff_ne_zero, ne_eq, ← UInt16.toNat_zero, UInt16.toNat_inj]
  exact h

theorem isMature_iff {sequence : UInt32} (henabled : sequence &&& disableFlag = 0)
    (hkind : sequence &&& timeFlag = 0) (spendHeight height : UInt32) :
    isMature sequence spendHeight height = true ↔
      (sequence &&& lengthMask).toNat ≤ spendHeight.toNat - height.toNat := by
  have hblocks : relativeBlocks? sequence = some (sequence &&& lengthMask).toUInt16 :=
    if_neg (by simp [henabled, hkind])
  rw [isMature, hblocks]
  simp only [decide_eq_true_eq]
  rw [toUInt32_toUInt16_length, UInt32.le_iff_toNat_le, toNat_heightGap]

end LockTime

namespace Chain

/-- A relative lock by blocks is met if it has no length or the coin has been confirmed for it. -/
theorem checkRelativeLock_eq_ok {c : Chain} {input : TxIn} {coin : Coin}
    (henabled : input.sequence &&& LockTime.disableFlag = 0)
    (hkind : input.sequence &&& LockTime.timeFlag = 0) :
    c.checkRelativeLock input coin = .ok () ↔ input.sequence &&& LockTime.lengthMask = 0 ∨
      ∃ height, coin.height = some height ∧
        (input.sequence &&& LockTime.lengthMask).toNat ≤
          (c.height + 1).toNat - height.toNat := by
  simp only [checkRelativeLock, henabled, hkind, ne_eq, not_true_eq_false, if_false]
  cases coin.height with
  | none => simp
  | some height =>
    simp only [LockTime.isMature_iff henabled hkind]
    by_cases hzero : input.sequence &&& LockTime.lengthMask = 0 <;> simp [hzero]

/-- A relative lock that a script has asked for is met only by a coin that has been confirmed for
that number of blocks. -/
theorem confirmed_of_checkRelativeLock {c : Chain} {ctx : SpendContext} {coin : Coin}
    {blocks : UInt16} (hpasses : ctx.SequencePasses blocks) (hblocks : blocks ≠ 0)
    (h : c.checkRelativeLock ctx.input coin = .ok ()) :
    ∃ height, coin.height = some height ∧ height.toNat + blocks.toNat ≤ c.height.toNat + 1 := by
  obtain ⟨-, henabled, hkind, helapsed⟩ := hpasses
  have hpos := LockTime.toNat_blocks_pos hblocks
  -- The height of the next block wraps only at the very end, where no coin is mature.
  have hnext : (c.height + 1).toNat ≤ c.height.toNat + 1 := by
    rw [UInt32.toNat_add]
    exact Nat.mod_le _ _
  rw [UInt32.le_iff_toNat_le, UInt16.toNat_toUInt32] at helapsed
  rcases (checkRelativeLock_eq_ok henabled hkind).1 h with hzero | ⟨height, hheight, hmature⟩
  · rw [hzero, UInt32.toNat_zero] at helapsed
    omega
  · exact ⟨height, hheight, by omega⟩

/-- A lock time that a script has asked for has been reached by the chain. -/
theorem reached_of_isFinal {c : Chain} {ctx : SpendContext} {lockTime : UInt32}
    (hpasses : ctx.LockTimePasses lockTime) (hinput : ctx.input ∈ ctx.tx.inputs)
    (h : c.isFinal ctx.tx = true) : c.Reached lockTime := by
  obtain ⟨hkind, hle, henabled⟩ := hpasses
  have hreached := (isFinal_iff hinput henabled).1 h
  unfold Reached at hreached ⊢
  by_cases hheight : lockTime < LockTime.threshold
  · rw [if_pos (hkind.1 hheight)] at hreached
    rw [if_pos hheight]
    exact UInt32.le_trans hle hreached
  · rw [if_neg (hkind.not.1 hheight)] at hreached
    rw [if_neg hheight]
    exact UInt32.le_trans hle hreached

end Chain

/-! ## What the scripts ask for -/

namespace SpendContext

variable [KeyScheme] {ctx : SpendContext} {script : Bytes}

/-- An update script that does not find both update signatures asks for the dispute window. -/
theorem ForScript.sequencePasses_of_refused (h : ctx.ForScript script) {keys : UpdateKeys}
    {window : UInt16} {lockTime : UInt32} {stack rest : List Bytes}
    (hevaluate : Machine.evaluate ctx (Script.update keys window lockTime) stack = .ok ())
    (hrefused : Machine.run ctx { stack } (Script.updateCheck keys) =
      .ok { stack := ScriptNumber.ofBool false :: rest }) :
    ctx.SequencePasses window ∧ window ≠ 0 := by
  rw [Machine.run_block rfl (Script.isBlock_updateCheck keys), bind_eq_ok] at hrefused
  obtain ⟨left, hcheck, heq⟩ := hrefused
  cases heq
  obtain ⟨x, y, valid, rest', hstack, hleft, hvalid⟩ := h.block_updateCheck.1 hcheck
  obtain ⟨x', y', valid', rest'', item, hstack', hvalid', hbranch, htrue⟩ :=
    h.evaluate_update.1 hevaluate
  have hitems : y :: x :: [] :: rest' = y' :: x' :: [] :: rest'' := hstack.symm.trans hstack'
  cases hitems
  cases valid' with
  | true =>
    -- The outcome of the check is the one that the script acts on.
    obtain rfl : valid = true := hvalid.2 (hvalid'.1 rfl)
    cases hleft
  | false =>
    obtain ⟨a, b, left, -, hitem, -, -, hpasses⟩ := h.block_settleBranch.1 hbranch
    cases hitem
    exact ⟨hpasses, (ScriptNumber.isTrue_encode_blocks window).1 htrue⟩

/-- A payment script that does not take the branch of the secret asks for the expiry. -/
theorem ForScript.lockTimePasses_of_refund (h : ctx.ForScript script)
    {refundKey paymentKey : PublicKey} {hash : Hash160} {expiry : UInt32}
    {stack rest : List Bytes}
    (hevaluate : Machine.evaluate ctx (Script.payment refundKey paymentKey hash expiry) stack =
      .ok ())
    (hrefund : Machine.run ctx { stack } [.op .ifTrue] =
      .ok { stack := rest, branches := [false] }) : ctx.LockTimePasses expiry := by
  rw [Machine.run_cons] at hrefund
  change (popCondition stack >>= _) >>= _ = _ at hrefund
  simp only [bind_eq_ok] at hrefund
  obtain ⟨m, ⟨⟨condition, left⟩, hpop, hopen⟩, heq⟩ := hrefund
  cases hopen
  cases condition with
  | true => cases heq
  | false =>
    rw [popCondition_eq_ok.1 hpop] at hevaluate
    exact (h.evaluate_refund.1 hevaluate).1

end SpendContext

namespace Chain

variable [KeyScheme]

/-- **Time locks hold.** -/
theorem locks_hold (c : Chain) (tx : Transaction) (index : Nat) (input : TxIn) (coin : Coin)
    (items : List Bytes) (h : c.validate tx = .ok ()) (hinput : tx.inputs[index]? = some input)
    (hcoin : c.coins.get? input.outpoint = some coin) :
    (∀ keys window lockTime rest,
      letI script := Script.update keys window lockTime
      coin.output.script = Script.lock script → input.witness = items ++ [script] →
      Machine.run (c.scriptContext tx index input coin.output script) { stack := items.reverse }
        (Script.updateCheck keys) = .ok { stack := ScriptNumber.ofBool false :: rest } →
      ∃ height, coin.height = some height ∧
        height.toNat + window.toNat ≤ c.height.toNat + 1) ∧
    (∀ refundKey paymentKey hash expiry rest,
      letI script := Script.payment refundKey paymentKey hash expiry
      coin.output.script = Script.lock script → input.witness = items ++ [script] →
      Machine.run (c.scriptContext tx index input coin.output script) { stack := items.reverse }
        [.op .ifTrue] = .ok { stack := rest, branches := [false] } →
      c.Reached expiry) := by
  obtain ⟨coins, hadmits⟩ := validate_eq_ok_iff.1 h
  constructor
  · intro keys window lockTime rest hlock hwitness hrefused
    have hctx := hadmits.forScript hinput hcoin (Script.update keys window lockTime)
    have hevaluate := hadmits.evaluate hinput hcoin hlock hwitness
    obtain ⟨hpasses, hwindow⟩ := hctx.sequencePasses_of_refused hevaluate hrefused
    exact confirmed_of_checkRelativeLock hpasses hwindow
      (hadmits.relativeLock hpasses.version hinput hcoin)
  · intro refundKey paymentKey hash expiry rest hlock hwitness hrefund
    have hctx := hadmits.forScript hinput hcoin (Script.payment refundKey paymentKey hash expiry)
    have hevaluate := hadmits.evaluate hinput hcoin hlock hwitness
    have hpasses := hctx.lockTimePasses_of_refund hevaluate hrefund
    exact reached_of_isFinal hpasses (List.mem_of_getElem? hinput) hadmits.final

/-! ## Locks that have just run out -/

/-- Two confirmed coins that are locked by the given scripts. -/
def sample (script script' : Bytes) : Chain where
  coins := ((∅ : SortedMap OutPoint Coin).insert ⟨FixedBytes.zero 32, 0⟩
    ⟨⟨1000000, Script.lock script⟩, some 191⟩).insert ⟨FixedBytes.zero 32, 1⟩
      ⟨⟨1000000, Script.lock script'⟩, some 191⟩

/-- An input with a relative lock of ten blocks. -/
def sampleInput (vout : UInt32) (witness : List Bytes) : TxIn where
  outpoint := ⟨FixedBytes.zero 32, vout⟩
  sequence := 10
  witness

/-- A transaction that spends both coins. -/
def sampleSpend (witness witness' : List Bytes) : Transaction :=
  ⟨2, 1500000000, [sampleInput 0 witness, sampleInput 1 witness'], []⟩

omit [KeyScheme] in
theorem coins_sample (script script' : Bytes) :
    (sample script script').coins.get? ⟨FixedBytes.zero 32, 0⟩ =
        some ⟨⟨1000000, Script.lock script⟩, some 191⟩ ∧
      (sample script script').coins.get? ⟨FixedBytes.zero 32, 1⟩ =
        some ⟨⟨1000000, Script.lock script'⟩, some 191⟩ := by
  constructor
  · rw [sample, SortedMap.get?_insert_of_ne _ (by decide), SortedMap.get?_insert_self]
  · exact SortedMap.get?_insert_self _ _ _

section Sample

variable {key : PublicKey} {hash : Hash160} {script script' sig : Bytes} {ctx : SpendContext}

/-- Two empty items are not the update signatures. -/
theorem run_updateCheck_nil (hctx : ctx.ForScript script) (keys : UpdateKeys)
    (rest : List Bytes) :
    Machine.run ctx { stack := [] :: [] :: [] :: rest } (Script.updateCheck keys) =
      .ok { stack := ScriptNumber.ofBool false :: rest } := by
  have hrefused : false = true ↔
      ctx.Accepts [] keys.funderUpdate ∧ ctx.Accepts [] keys.otherUpdate := by
    simp [hctx.not_accepts_nil]
  have hcheck := hctx.block_updateCheck.2 ⟨[], [], false, rest, rfl, rfl, hrefused⟩
  rw [Machine.run_block rfl (Script.isBlock_updateCheck keys), hcheck]
  rfl

theorem evaluate_sample_settle (hscript : script = Script.update ⟨key, key, key, key⟩ 10 500000000)
    (hctx : ctx.ForScript script) (h : ctx.Carries (sampleSpend [] []) (sampleInput 0 []) 1000000)
    (hsig : ctx.Accepts sig key) :
    Machine.evaluate ctx script [[], [], [], sig, sig, []] = .ok () := by
  have hpasses : ctx.SequencePasses 10 := by
    rw [SpendContext.sequencePasses_iff, h.version, h.sequence]
    decide
  rw [hscript] at hctx ⊢
  exact (hctx.evaluate_update_of_refused fun hboth => hctx.not_accepts_nil key hboth.1).2
    ⟨hsig, hsig, hpasses, by decide⟩

theorem evaluate_sample_refund (hscript : script = Script.payment key key hash 1500000000)
    (hctx : ctx.ForScript script) (h : ctx.Carries (sampleSpend [] []) (sampleInput 0 []) 1000000)
    (hsig : ctx.Accepts sig key) : Machine.evaluate ctx script [[], sig] = .ok () := by
  have hpasses : ctx.LockTimePasses 1500000000 := by
    rw [SpendContext.lockTimePasses_iff, h.lockTime, h.sequence]
    decide
  rw [hscript] at hctx ⊢
  exact hctx.evaluate_refund.2 ⟨hpasses, sig, rfl, hsig⟩

theorem validate_sample (hscript : script = Script.update ⟨key, key, key, key⟩ 10 500000000)
    (hscript' : script' = Script.payment key key hash 1500000000)
    (hsig : ∀ {ctx : SpendContext} {code : Bytes}, ctx.ForScript code →
      ctx.Carries (sampleSpend [] []) (sampleInput 0 []) 1000000 → ctx.Accepts sig key) :
    (sample script script').validate
      (sampleSpend [[], sig, sig, [], [], [], script] [sig, [], script']) = .ok () := by
  obtain ⟨hcoin, hcoin'⟩ := coins_sample script script'
  have hfree (o : OutPoint) : o ∉ (sample script script').mempoolSpends := List.not_mem_nil
  have hmature (vout : UInt32) (witness : List Bytes) (output : TxOut) :
      (sample script script').checkRelativeLock (sampleInput vout witness) ⟨output, some 191⟩ =
        .ok () := by
    have hdisable : (10 : UInt32) &&& LockTime.disableFlag = 0 := by decide
    have htime : (10 : UInt32) &&& LockTime.timeFlag = 0 := by decide
    have hlength : ((10 : UInt32) &&& LockTime.lengthMask).toNat ≤ 201 - 191 := by decide
    exact (checkRelativeLock_eq_ok hdisable htime).2 (.inr ⟨191, rfl, hlength⟩)
  refine validate_eq_ok_iff.2 ⟨[⟨⟨1000000, Script.lock script⟩, some 191⟩,
    ⟨⟨1000000, Script.lock script'⟩, some 191⟩], {
    inputs := nofun
    spendable := ?_
    final := ?_
    relative := ?_
    value := UInt64.zero_le
    scripts := ?_ }⟩
  · show [_, _] = [_, _]
    rw [spendable_eq_ok.2 ⟨hfree _, hcoin⟩, spendable_eq_ok.2 ⟨hfree _, hcoin'⟩]
  · have henabled : (10 : UInt32) ≠ LockTime.finalSequence := by decide
    refine (isFinal_iff List.mem_cons_self henabled).2 ?_
    exact UInt32.le_refl 1500000000
  · have hversion : ¬ (2 : Int32) < 2 := by decide
    rw [checkRelativeLocks, sampleSpend, if_neg hversion, forM_eq_ok]
    show ∀ spent ∈ [(_, _), (_, _)], _
    rw [List.forall_mem_cons, List.forall_mem_singleton]
    exact ⟨hmature _ _ _, hmature _ _ _⟩
  · show ∀ ctx ∈ [_, _], _
    rw [List.forall_mem_cons, List.forall_mem_singleton]
    have hitems : [[], sig, sig, [], [], [], script] = [[], sig, sig, [], [], []] ++ [script] := rfl
    have hitems' : [sig, [], script'] = [sig, []] ++ [script'] := rfl
    constructor
    · refine (SpendContext.verify_lock rfl hitems).trans ?_
      exact evaluate_sample_settle hscript ⟨rfl, rfl, rfl, rfl⟩ ⟨rfl, rfl, rfl, rfl, rfl⟩
        (hsig ⟨rfl, rfl, rfl, rfl⟩ ⟨rfl, rfl, rfl, rfl, rfl⟩)
    · refine (SpendContext.verify_lock rfl hitems').trans ?_
      exact evaluate_sample_refund hscript' ⟨rfl, rfl, rfl, rfl⟩ ⟨rfl, rfl, rfl, rfl, rfl⟩
        (hsig ⟨rfl, rfl, rfl, rfl⟩ ⟨rfl, rfl, rfl, rfl, rfl⟩)

end Sample

omit [KeyScheme] in
/-- A state is settled and a payment is taken back, each in the first block that allows it. -/
theorem locks_hold_sample :
    letI : KeyScheme := .secp256k1
    letI key := SpendContext.sampleKey.publicKey
    letI script := Script.update ⟨key, key, key, key⟩ 10 500000000
    letI script' := Script.payment key key (FixedBytes.zero 20) 1500000000
    ∃ sig, (sample script script').validate
        (sampleSpend [[], sig, sig, [], [], [], script] [sig, [], script']) = .ok () ∧
      (∃ height : UInt32, some 191 = some height ∧ height.toNat + 10 ≤ 200 + 1) ∧
      (sample script script').Reached 1500000000 := by
  let _ : KeyScheme := .secp256k1
  have _ : LawfulKeyScheme := lawful_secp256k1
  let key := SpendContext.sampleKey.publicKey
  obtain ⟨script, hscript⟩ : ∃ script, script = Script.update ⟨key, key, key, key⟩ 10 500000000 :=
    ⟨_, rfl⟩
  obtain ⟨script', hscript'⟩ : ∃ script',
    script' = Script.payment key key (FixedBytes.zero 20) 1500000000 := ⟨_, rfl⟩
  have hinput : (sampleSpend [] []).inputs[0]? = some (sampleInput 0 []) := rfl
  obtain ⟨sig, hsig⟩ := SpendContext.exists_accepts hinput 1000000 SpendContext.sampleKey
  have hvalidate := validate_sample hscript hscript' hsig
  obtain ⟨coins, hadmits⟩ := validate_eq_ok_iff.1 hvalidate
  obtain ⟨hcoin, hcoin'⟩ := coins_sample script script'
  have hfirst : (sampleSpend [[], sig, sig, [], [], [], script] [sig, [], script']).inputs[0]? =
      some (sampleInput 0 [[], sig, sig, [], [], [], script]) := rfl
  have hsecond : (sampleSpend [[], sig, sig, [], [], [], script] [sig, [], script']).inputs[1]? =
      some (sampleInput 1 [sig, [], script']) := rfl
  rw [← hscript, ← hscript']
  refine ⟨sig, hvalidate, ?_, ?_⟩
  · have hctx := hadmits.forScript hfirst hcoin script
    refine (locks_hold _ _ 0 _ _ [[], sig, sig, [], [], []] hvalidate hfirst hcoin).1
      ⟨key, key, key, key⟩ 10 500000000 [sig, sig, []] ?_ ?_ ?_
    · rw [hscript]
    · rw [← hscript]
      rfl
    · rw [← hscript]
      exact run_updateCheck_nil hctx _ _
  · refine (locks_hold _ _ 1 _ _ [sig, []] hvalidate hsecond hcoin').2 key key
      (FixedBytes.zero 20) 1500000000 [sig] ?_ ?_ rfl
    · rw [hscript']
    · rw [← hscript']
      rfl

end Chain

end Supersede
