import Supersede.Proofs.Handshake
import Supersede.Proofs.Unlocking
import Supersede.Proofs.Validation

/-!
# Later states supersede earlier ones

The signatures of an update commit neither to the output that it spends nor to that output's script
(`UpdateTx.accepts_of_verify`), so one signed update can be put on any output that the same
update keys lock. What is left to decide is the order of the states, which the lock times stand for.

**Theorem (`UpdateTx.supersedes_iff`).** A chain that holds a coin locked by the script of a state
accepts the signed update of another state on it exactly if that state is not earlier, both lock
times are of one kind, the lock time of the script is not zero, and the lock time of the update has
been reached. The same signatures serve on every such coin.
-/

namespace Supersede

open Result

theorem eq_of_addState {a b c : UInt32} (h : addState a b = .ok c) : c = a + b := by
  unfold addState at h
  split at h
  · exact (Except.ok.inj h).symm
  · cases h

/-- The input of an update before it is put on an output. -/
def Update.templateInput : TxIn := { outpoint := .null, sequence := LockTime.enabledSequence }

theorem Update.template_of_build {c : Snapshot} {p : Params} {u : Update}
    (h : build c p = .ok u) : c.updateScript p = .ok u.script ∧
      ∃ lockTime, p.stateLockTime c.state = .ok lockTime ∧
        u.template = ⟨2, lockTime, [templateInput], [⟨c.capacity, Script.lock u.script⟩]⟩ := by
  simp only [build, bind_eq_ok, pure_eq_ok] at h
  obtain ⟨-, -, script, hscript, lockTime, hlockTime, rfl⟩ := h
  exact ⟨hscript, lockTime, hlockTime, rfl⟩

variable [KeyScheme]

/-- A valid signature that does not commit to the spent output is valid wherever its document is
put. -/
theorem Cosigned.accepts_of_verify {α : Type} [Signable α] {d : Cosigned α}
    (hverify : d.verify = .ok ()) {input : TxIn}
    (hinput : (Signable.subject d.document).transaction.inputs[0]? = some input)
    (hmode : (Signable.subject d.document).mode.commitsToPrevOut = false) {ctx : SpendContext}
    (h : ctx.Carries (Signable.subject d.document).transaction input
      (Signable.subject d.document).value) {script : Bytes} (hctx : ctx.ForScript script)
    (hscript : (Signable.subject d.document).mode.commitsToScript = true →
      script = (Signable.subject d.document).scriptCode)
    {role : Role} {sig : ChannelSignature} (hsig : d.signature role = some sig) :
    ctx.Accepts sig.toBytes ((Signable.subject d.document).key role) := by
  obtain ⟨hsigned, hvalid⟩ := valid_of_verify hverify hsig
  rw [← hsigned] at hmode hscript
  exact h.accepts hctx hinput hmode hscript hvalid

namespace UpdateTx

/-- The input that puts an update with its signatures on an output. -/
def spendingInput (funderSig otherSig : ChannelSignature) (script : Bytes) (outpoint : OutPoint) :
    TxIn where
  outpoint
  sequence := LockTime.enabledSequence
  witness := Witness.update funderSig otherSig script

theorem spend_eq_ok {u : UpdateTx} {script : Bytes} {o : OutPoint} {tx : Transaction} :
    u.spend script o = .ok tx ↔ ∃ f c, u.signature .funder = some f ∧
      u.signature .counterparty = some c ∧ u.verify = .ok () ∧
      tx = { u.document.template with inputs := [spendingInput f c script o] } := by
  simp only [spend, bind_eq_ok, pure_eq_ok]
  constructor
  · rintro ⟨⟨f, c⟩, hsigs, rfl⟩
    obtain ⟨hf, hc, hverify⟩ := Cosigned.verifiedSignatures_eq_ok.1 hsigs
    exact ⟨f, c, hf, hc, hverify, rfl⟩
  · rintro ⟨f, c, hf, hc, hverify, rfl⟩
    exact ⟨(f, c), Cosigned.verifiedSignatures_eq_ok.2 ⟨hf, hc, hverify⟩, rfl⟩

/-- The chain's rules for a transaction that both update keys have signed, on an output locked by
the script of a state. No relative lock is set, so if the value suffices, the lock times decide. -/
theorem validate_update_iff {chain : Chain} {coin : Coin} {o : OutPoint} {tx : Transaction}
    {f c : ChannelSignature} {keys : UpdateKeys} {window : UInt16} {lockTime : UInt32}
    {script : Bytes} (hversion : tx.version = 2)
    (hinputs : tx.inputs = [spendingInput f c script o])
    (hcoin : chain.coins.get? o = some coin) (hfree : o ∉ chain.mempoolSpends)
    (hscript : script = Script.update keys window lockTime)
    (hlock : coin.output.script = Script.lock script)
    (hvalue : Chain.totalValue tx.outputs ≤ coin.output.value)
    (haccepts : ∀ ctx : SpendContext, ctx.ForScript script → ctx.tx = tx →
      ctx.input = spendingInput f c script o → ctx.spent = coin.output →
      ctx.Accepts f.toBytes keys.funderUpdate ∧ ctx.Accepts c.toBytes keys.otherUpdate) :
    chain.validate tx = .ok () ↔
      chain.Reached tx.lockTime ∧ (lockTime < LockTime.threshold ↔
        tx.lockTime < LockTime.threshold) ∧ lockTime ≤ tx.lockTime ∧ lockTime ≠ 0 := by
  have henabled : (spendingInput f c script o).sequence ≠ LockTime.finalSequence := by
    show LockTime.enabledSequence ≠ LockTime.finalSequence
    decide
  have hfinal : chain.isFinal tx = true ↔ chain.Reached tx.lockTime := by
    apply Chain.isFinal_iff _ henabled
    rw [hinputs]
    exact List.mem_singleton_self _
  have hrelative : chain.checkRelativeLocks tx [coin] = .ok () := by
    have hdisabled : (spendingInput f c script o).sequence &&& LockTime.disableFlag ≠ 0 := by
      show LockTime.enabledSequence &&& LockTime.disableFlag ≠ 0
      decide
    exact (Chain.checkRelativeLocks_singleton hversion hinputs).2
      (Chain.checkRelativeLock_of_disabled hdisabled coin)
  have hwitness : (spendingInput f c script o).witness = [[], f.toBytes, c.toBytes] ++ [script] :=
    rfl
  obtain ⟨ctx, hctx, htx, hinput, hspent, hvalidate⟩ :=
    Chain.exists_validate_locked hinputs hcoin hfree hlock hwitness
  obtain ⟨hf, hc⟩ := haccepts ctx hctx htx hinput hspent
  have hevaluate : Machine.evaluate ctx script [c.toBytes, f.toBytes, []] = .ok () ↔
      (lockTime < LockTime.threshold ↔ tx.lockTime < LockTime.threshold) ∧
        lockTime ≤ tx.lockTime ∧ lockTime ≠ 0 := by
    rw [hscript, hctx.evaluate_update_of_accepts hf hc, SpendContext.lockTimePasses_iff, hinput,
      htx]
    simp only [henabled, ne_eq, not_false_eq_true, and_true, and_assoc]
  rw [hvalidate, hfinal]
  simp only [hrelative, hvalue, true_and]
  exact and_congr_right fun _ => hevaluate

/-- A valid signature of an update is valid wherever the update is put. -/
theorem accepts_of_verify {u : UpdateTx} {p : Params} {m : Snapshot}
    (hbuild : Update.build m p = .ok u.document) (hverify : u.verify = .ok ())
    {ctx : SpendContext} (h : ctx.Carries u.document.template Update.templateInput m.capacity)
    {script : Bytes} (hctx : ctx.ForScript script) {role : Role} {sig : ChannelSignature}
    (hsig : u.signature role = some sig) : ctx.Accepts sig.toBytes (m.party role).updateKey := by
  obtain ⟨-, later, -, htemplate⟩ := Update.template_of_build hbuild
  have hinput : u.document.template.inputs[0]? = some Update.templateInput := by
    rw [htemplate]
    rfl
  have hsnapshot := Update.snapshot_of_build hbuild
  rw [← hsnapshot] at h ⊢
  exact Cosigned.accepts_of_verify hverify hinput rfl h hctx (fun hcommits => nomatch hcommits) hsig

/-- The chain's rules for an update on an output of its channel: no value is added, so the lock
times decide. -/
theorem validate_spending {u : UpdateTx} {p : Params} {m : Snapshot}
    (hbuild : Update.build m p = .ok u.document) (hverify : u.verify = .ok ())
    {f c : ChannelSignature} (hf : u.signature .funder = some f)
    (hc : u.signature .counterparty = some c) {chain : Chain} {coin : Coin} {o : OutPoint}
    (hcoin : chain.coins.get? o = some coin) (hfree : o ∉ chain.mempoolSpends)
    {keys : UpdateKeys} {window : UInt16} {lockTime : UInt32} {script : Bytes}
    (hfunder : keys.funderUpdate = m.funder.updateKey)
    (hother : keys.otherUpdate = m.counterparty.updateKey)
    (hscript : script = Script.update keys window lockTime)
    (houtput : coin.output = ⟨m.capacity, Script.lock script⟩) {tx : Transaction}
    (htx : tx = { u.document.template with inputs := [spendingInput f c script o] }) :
    chain.validate tx = .ok () ↔
      chain.Reached tx.lockTime ∧ (lockTime < LockTime.threshold ↔
        tx.lockTime < LockTime.threshold) ∧ lockTime ≤ tx.lockTime ∧ lockTime ≠ 0 := by
  obtain ⟨-, later, -, htemplate⟩ := Update.template_of_build hbuild
  have houtputs : tx.outputs = [⟨m.capacity, Script.lock u.document.script⟩] := by
    rw [htx, htemplate]
  refine validate_update_iff (by rw [htx, htemplate]) (by rw [htx]) hcoin hfree hscript
    (by rw [houtput]) ?_ ?_
  · rw [houtputs, Chain.totalValue_singleton, houtput]
    exact UInt64.le_refl _
  · intro ctx hctx htx' hinput hspent
    have hcarries : ctx.Carries u.document.template Update.templateInput m.capacity :=
      ⟨by rw [htx', htx], by rw [htx', htx], by rw [htx', htx], by rw [hinput]; rfl,
        by rw [hspent, houtput]⟩
    rw [hfunder, hother]
    exact ⟨accepts_of_verify hbuild hverify hcarries hctx hf,
      accepts_of_verify hbuild hverify hcarries hctx hc⟩

/-- **Later states supersede earlier ones.** -/
theorem supersedes_iff (p : Params) (n m : Snapshot) (u : UpdateTx) (script : Bytes)
    (chain : Chain) (coin : Coin) (o : OutPoint) (tx : Transaction)
    (hfunder : n.funder.updateKey = m.funder.updateKey)
    (hcounterparty : n.counterparty.updateKey = m.counterparty.updateKey)
    (hcapacity : n.capacity = m.capacity) (hscript : n.updateScript p = .ok script)
    (hupdate : Update.build m p = .ok u.document) (hcoin : chain.coins.get? o = some coin)
    (hfree : o ∉ chain.mempoolSpends) (houtput : coin.output = ⟨n.capacity, Script.lock script⟩)
    (hspend : u.spend script o = .ok tx) :
    (chain.validate tx = .ok () ↔ n.state ≤ m.state ∧
      (p.lockTimeBase + n.state < LockTime.threshold ↔
        p.lockTimeBase + m.state < LockTime.threshold) ∧
      p.lockTimeBase + n.state ≠ 0 ∧ chain.Reached (p.lockTimeBase + m.state)) ∧
    ∀ script' o', ∃ tx', u.spend script' o' = .ok tx' ∧
      tx'.inputs.map (·.witness.dropLast) = tx.inputs.map (·.witness.dropLast) := by
  obtain ⟨f, c, hf, hc, hverify, htx⟩ := spend_eq_ok.1 hspend
  obtain ⟨-, later, hlater, htemplate⟩ := Update.template_of_build hupdate
  simp only [Snapshot.updateScript, bind_eq_ok, pure_eq_ok] at hscript
  obtain ⟨earlier, hearlier, hscript⟩ := hscript
  rw [hcapacity] at houtput
  constructor
  · have hlockTime : tx.lockTime = later := by rw [htx, htemplate]
    -- The lock times are exact sums, so they are in the order of the states.
    have horder : earlier ≤ later ↔ n.state ≤ m.state := by
      rw [UInt32.le_iff_toNat_le, UInt32.le_iff_toNat_le, toNat_addState hearlier,
        toNat_addState hlater]
      omega
    rw [validate_spending hupdate hverify hf hc hcoin hfree hfunder hcounterparty hscript.symm
      houtput htx, hlockTime, horder, eq_of_addState hearlier, eq_of_addState hlater]
    tauto
  · intro script' o'
    refine ⟨_, spend_eq_ok.2 ⟨f, c, hf, hc, hverify, rfl⟩, ?_⟩
    rw [htx]
    rfl

/-! ## State 1 on a coin of state 0 -/

/-- The owner of both sides' keys can sign an update so that it can be put on any output. -/
theorem exists_signed [LawfulKeyScheme] {m : Snapshot} {p : Params} {document : Update}
    {keys : ChannelKeys} (hbuild : Update.build m p = .ok document)
    (hk : ∀ role, keys.publish m.state = .ok (m.party role)) :
    ∃ u : UpdateTx, u.document = document ∧ ∀ script o, ∃ tx, u.spend script o = .ok tx := by
  obtain ⟨ours, -, hours⟩ := exists_sign (.unsigned document) .funder hbuild (hk .funder)
  obtain ⟨theirs, -, htheirs⟩ :=
    exists_sign (.unsigned document) .counterparty hbuild (hk .counterparty)
  have hverify := Cosigned.verify_withSignature (.unsigned document) .funder htheirs hours
  exact ⟨_, rfl, fun script o => ⟨_, spend_eq_ok.2 ⟨ours, theirs, rfl, rfl, hverify, rfl⟩⟩⟩

omit [KeyScheme] in
/-- With keys drawn from zeros and the default parameters, the update of state 1 is accepted on a
coin of state 0. -/
theorem supersedes_zeros :
    letI : KeyScheme := .secp256k1
    ∃ (n m : Snapshot) (u : UpdateTx) (script : Bytes) (chain : Chain) (tx : Transaction),
      n.state = 0 ∧ m.state = 1 ∧ n.updateScript {} = .ok script ∧
      Update.build m {} = .ok u.document ∧
      chain.unspent? .null = some ⟨1000000, Script.lock script⟩ ∧
      u.spend script .null = .ok tx ∧ chain.validate tx = .ok () := by
  let _ : KeyScheme := .secp256k1
  have _ : LawfulKeyScheme := lawful_secp256k1
  obtain ⟨keys, k, k', -, hk, hk'⟩ := exists_keys_zeros
  let n : Snapshot := .first 1000000 k k
  let m : Snapshot := { n with state := 1, funder := k', counterparty := k' }
  have hkeys : k.updateKey = k'.updateKey := by
    rw [(ChannelKeys.publish_eq_ok hk).1, (ChannelKeys.publish_eq_ok hk').1]
  have hbase (state : UInt32) (h : state.toNat ≤ 1) :
      ({} : Params).lockTimeBase.toNat + state.toNat + 1 < UInt32.size :=
    lt_of_le_of_lt (Nat.add_le_add_right (Nat.add_le_add_left h _) 1) (by decide)
  obtain ⟨earlier, -, hearlier, -⟩ := StateTxs.exists_build (c := n) rfl (hbase 0 (by decide))
  obtain ⟨_, -, hlater, -⟩ := StateTxs.exists_build (c := m) rfl (hbase 1 (by decide))
  obtain ⟨u, rfl, hspend⟩ := exists_signed hlater fun role => by cases role <;> exact hk'
  obtain ⟨tx, htx⟩ := hspend earlier.script .null
  let coin : Coin := ⟨⟨1000000, Script.lock earlier.script⟩, some 100⟩
  let chain : Chain := { coins := (∅ : SortedMap OutPoint Coin).insert .null coin }
  have hcoin : chain.coins.get? .null = some coin := SortedMap.get?_insert_self _ _ _
  have hscript : n.updateScript {} = .ok earlier.script := (Update.template_of_build hearlier).1
  refine ⟨n, m, u, earlier.script, chain, tx, rfl, rfl, hscript, hlater, ?_, htx, ?_⟩
  · rw [Chain.unspent?, hcoin]
    rfl
  · refine (supersedes_iff {} n m u _ chain coin .null tx hkeys hkeys rfl hscript hlater hcoin
      List.not_mem_nil rfl htx).1.2 ⟨?_, ?_, ?_, ?_⟩
    · show (0 : UInt32) ≤ 1
      decide
    · show ({} : Params).lockTimeBase + 0 < LockTime.threshold ↔
        ({} : Params).lockTimeBase + 1 < LockTime.threshold
      decide
    · show ({} : Params).lockTimeBase + 0 ≠ 0
      decide
    · show chain.Reached (({} : Params).lockTimeBase + 1)
      rw [Chain.Reached, if_neg (by decide)]
      show ({} : Params).lockTimeBase + 1 ≤ 1500000000
      decide

end UpdateTx

end Supersede
