import Supersede.Proofs.Supersession
import Supersede.Proofs.TimeLocks

/-!
# States settle after their dispute window

A settlement carries the dispute window twice: the script of the update asks for it, and the
sequence number of the settlement's input makes the chain count it. The signatures commit to the
script, so a settlement is put on the output of its own state.

The script leaves the window on the stack as its outcome. A window of zero blocks is thus read as
false, and a state that has one can never be settled.

* `Settlement.Built`: what a settlement of a snapshot consists of.
* `Snapshot.Conserved.total_paidItems_le`: a settlement pays no more than the channel holds.

**Theorem (`SettleTx.settles_iff`).** A chain that holds a confirmed coin of a state accepts the
signed settlement of the state on it exactly if the window is not zero, the settlement's lock time
has been reached, and the next block comes at least the window after the one that confirmed the
coin.
-/

namespace Supersede

open Result

/-! ## What a settlement pays -/

namespace Snapshot

/-- The amounts of a state that are worth an output. -/
def paidItems (c : Snapshot) (p : Params) : List SettlementItem :=
  c.settlementItems.filter fun item => p.aboveDust item.value

theorem total_settlementItems (c : Snapshot) :
    Amount.total (c.settlementItems.map (·.value)) =
      c.refund.toNat + c.payment.toNat + Invoice.sum c.offered.values := by
  rw [settlementItems, List.map_cons, List.map_cons, Amount.total, Amount.total, List.map_map,
    Invoice.sum_eq, SortedMap.values, List.map_map, Nat.add_assoc]
  rfl

/-- What is worth an output is no more than the channel holds. -/
theorem Conserved.total_paidItems_le {c : Snapshot} (h : c.Conserved) (p : Params) :
    Amount.total ((c.paidItems p).map (·.value)) ≤ c.capacity.toNat := by
  have hsublist : ((c.paidItems p).map (·.value)).Sublist (c.settlementItems.map (·.value)) :=
    List.filter_sublist.map _
  calc Amount.total ((c.paidItems p).map (·.value))
      ≤ Amount.total (c.settlementItems.map (·.value)) := Amount.total_le_of_sublist hsublist
    _ = c.capacity.toNat := by rw [total_settlementItems, h]

end Snapshot

theorem Chain.toNat_totalValue (outputs : List TxOut) :
    (totalValue outputs).toNat = Amount.total (outputs.map (·.value)) % 2 ^ 64 := by
  induction outputs with
  | nil => rfl
  | cons output outputs ih =>
    calc (totalValue (output :: outputs)).toNat
        = (output.value.toNat + (totalValue outputs).toNat) % 2 ^ 64 := UInt64.toNat_add _ _
      _ = Amount.total ((output :: outputs).map (·.value)) % 2 ^ 64 := by
        rw [ih, Nat.add_mod_mod, List.map_cons, Amount.total]

namespace Settlement

/-- The input of a settlement before it is put on an output. -/
def templateInput (p : Params) : TxIn :=
  { outpoint := .null, sequence := LockTime.sequenceForBlocks p.disputeWindow }

/-- The parts of the settlement of a snapshot. -/
structure Built (s : Settlement) (c : Snapshot) (p : Params) : Prop where
  conserved : c.Conserved
  snapshot : s.snapshot = c
  script : c.updateScript p = .ok s.updateScript
  lockTime : p.settleLockTime c.state = .ok s.template.lockTime
  version : s.template.version = 2
  inputs : s.template.inputs = [templateInput p]
  outputs : s.template.outputs = (c.paidItems p).map fun item => ⟨item.value, item.lock⟩
  layout : s.outputs = layout (c.paidItems p)

theorem built_of_build {s : Settlement} {c : Snapshot} {p : Params} (h : build c p = .ok s) :
    s.Built c p := by
  simp only [build, bind_eq_ok, pure_eq_ok] at h
  obtain ⟨⟨⟩, hcheck, script, hscript, lockTime, hlockTime, rfl⟩ := h
  exact ⟨Snapshot.conserved_of_check hcheck, rfl, hscript, hlockTime, rfl, rfl, rfl, rfl⟩

namespace Built

variable {s : Settlement} {c : Snapshot} {p : Params}

theorem lockTime_eq (h : s.Built c p) : s.template.lockTime = p.lockTimeBase + c.state + 1 :=
  Params.eq_of_settleLockTime h.lockTime

theorem sequence_eq (h : s.Built c p) :
    s.sequence = LockTime.sequenceForBlocks p.disputeWindow := by
  rw [sequence, h.inputs]
  rfl

theorem map_value_template (h : s.Built c p) :
    s.template.outputs.map (·.value) = (c.paidItems p).map (·.value) := by
  rw [h.outputs, List.map_map]
  rfl

theorem totalValue_le (h : s.Built c p) : Chain.totalValue s.template.outputs ≤ c.capacity := by
  rw [UInt64.le_iff_toNat_le, Chain.toNat_totalValue, h.map_value_template]
  exact (Nat.mod_le _ _).trans (h.conserved.total_paidItems_le p)

/-- The output at a position and the transaction's output there pay the same item. -/
theorem exists_paidItem (h : s.Built c p) {i : Nat} {o : SettlementOutput}
    (ho : s.outputs[i]? = some o) :
    ∃ item ∈ c.paidItems p, o = ⟨item.part, UInt32.ofNat i, item.value, item.scriptCode⟩ ∧
      s.template.outputs[i]? = some ⟨item.value, item.lock⟩ := by
  rw [h.layout, Settlement.layout, List.getElem?_mapIdx, Option.map_eq_some_iff] at ho
  obtain ⟨item, hitem, rfl⟩ := ho
  refine ⟨item, List.mem_of_getElem? hitem, rfl, ?_⟩
  rw [h.outputs, List.getElem?_map, hitem]
  rfl

end Built

end Settlement

/-! ## Sequence numbers that count blocks -/

theorem LockTime.sequenceForBlocks_ne_final (blocks : UInt16) :
    sequenceForBlocks blocks ≠ finalSequence := by
  intro hfinal
  have hvalue : blocks.toNat = finalSequence.toNat := by
    rw [← hfinal, sequenceForBlocks, UInt16.toNat_toUInt32]
  have hlt := blocks.toNat_lt
  rw [hvalue] at hlt
  exact absurd hlt (by decide)

/-- A sequence number that counts blocks has a relative lock, and it is one of blocks. -/
theorem LockTime.sequenceForBlocks_flags (blocks : UInt16) :
    sequenceForBlocks blocks &&& disableFlag = 0 ∧ sequenceForBlocks blocks &&& timeFlag = 0 :=
  ⟨SpendContext.blocks_and_flag blocks (i := 31) rfl (by decide),
    SpendContext.blocks_and_flag blocks (i := 22) rfl (by decide)⟩

theorem SpendContext.sequencePasses_of_blocks {ctx : SpendContext} {blocks : UInt16}
    (hversion : ctx.tx.version = 2)
    (hsequence : ctx.input.sequence = LockTime.sequenceForBlocks blocks) :
    ctx.SequencePasses blocks := by
  obtain ⟨henabled, hkind⟩ := LockTime.sequenceForBlocks_flags blocks
  rw [sequencePasses_iff, hversion, hsequence]
  refine ⟨by decide, henabled, hkind, ?_⟩
  rw [LockTime.sequenceForBlocks, blocks_and_mask]
  exact UInt32.le_refl _

/-- A sequence number that counts blocks makes the chain wait for them. -/
theorem Chain.checkRelativeLock_blocks {c : Chain} {input : TxIn} {coin : Coin} {height : UInt32}
    {blocks : UInt16} (hsequence : input.sequence = LockTime.sequenceForBlocks blocks)
    (hheight : coin.height = some height) (hblocks : blocks ≠ 0) :
    c.checkRelativeLock input coin = .ok () ↔
      height.toNat + blocks.toNat ≤ (c.height + 1).toNat := by
  obtain ⟨henabled, hkind⟩ := LockTime.sequenceForBlocks_flags blocks
  rw [← hsequence] at henabled hkind
  have hlength : input.sequence &&& LockTime.lengthMask = blocks.toUInt32 := by
    rw [hsequence]
    exact SpendContext.blocks_and_mask blocks
  have hpos := LockTime.toNat_blocks_pos hblocks
  rw [checkRelativeLock_eq_ok henabled hkind, hlength, ← UInt32.toNat_inj,
    UInt16.toNat_toUInt32, hheight]
  simp only [UInt32.toNat_zero, Option.some.injEq, exists_eq_left']
  omega

variable [KeyScheme]

namespace SettleTx

/-- The input that puts a settlement with its signatures on an output. -/
def spendingInput (p : Params) (funderSig otherSig : ChannelSignature) (script : Bytes)
    (outpoint : OutPoint) : TxIn where
  outpoint
  sequence := LockTime.sequenceForBlocks p.disputeWindow
  witness := Witness.settle funderSig otherSig script

theorem spend_eq_ok {s : SettleTx} {c : Snapshot} {p : Params} (hbuilt : s.document.Built c p)
    {o : OutPoint} {tx : Transaction} :
    s.spend o = .ok tx ↔ ∃ f g, s.signature .funder = some f ∧
      s.signature .counterparty = some g ∧ s.verify = .ok () ∧
      tx = { s.document.template with
        inputs := [spendingInput p f g s.document.updateScript o] } := by
  simp only [spend, bind_eq_ok, pure_eq_ok, hbuilt.sequence_eq]
  constructor
  · rintro ⟨⟨f, g⟩, hsigs, rfl⟩
    obtain ⟨hf, hg, hverify⟩ := Cosigned.verifiedSignatures_eq_ok.1 hsigs
    exact ⟨f, g, hf, hg, hverify, rfl⟩
  · rintro ⟨f, g, hf, hg, hverify, rfl⟩
    exact ⟨(f, g), Cosigned.verifiedSignatures_eq_ok.2 ⟨hf, hg, hverify⟩, rfl⟩

/-- A valid signature of a settlement is valid on every output of its state. -/
theorem accepts_of_verify {s : SettleTx} {c : Snapshot} {p : Params}
    (hbuilt : s.document.Built c p) (hverify : s.verify = .ok ()) {ctx : SpendContext}
    (h : ctx.Carries s.document.template (Settlement.templateInput p) c.capacity)
    (hctx : ctx.ForScript s.document.updateScript) {role : Role} {sig : ChannelSignature}
    (hsig : s.signature role = some sig) : ctx.Accepts sig.toBytes (c.party role).settleKey := by
  have hinput : s.document.template.inputs[0]? = some (Settlement.templateInput p) := by
    rw [hbuilt.inputs]
    rfl
  rw [← hbuilt.snapshot] at h ⊢
  exact Cosigned.accepts_of_verify hverify hinput rfl h hctx (fun _ => rfl) hsig

/-- The settlement passes the script of its state if the window is not zero. -/
theorem evaluate_settle_iff {s : SettleTx} {c : Snapshot} {p : Params}
    (hbuilt : s.document.Built c p) (hverify : s.verify = .ok ()) {f g : ChannelSignature}
    (hf : s.signature .funder = some f) (hg : s.signature .counterparty = some g)
    {ctx : SpendContext}
    (h : ctx.Carries s.document.template (Settlement.templateInput p) c.capacity)
    (hctx : ctx.ForScript s.document.updateScript) :
    Machine.evaluate ctx s.document.updateScript [[], [], [], g.toBytes, f.toBytes, []] =
      .ok () ↔ p.disputeWindow ≠ 0 := by
  have ha := accepts_of_verify hbuilt hverify h hctx hf
  have hb := accepts_of_verify hbuilt hverify h hctx hg
  have hpasses : ctx.SequencePasses p.disputeWindow :=
    SpendContext.sequencePasses_of_blocks (h.version.trans hbuilt.version) h.sequence
  have hscript := hbuilt.script
  simp only [Snapshot.updateScript, bind_eq_ok, pure_eq_ok] at hscript
  obtain ⟨lockTime, -, hscript⟩ := hscript
  rw [← hscript] at hctx ⊢
  rw [hctx.evaluate_update_of_refused fun hboth => hctx.not_accepts_nil _ hboth.1]
  exact ⟨fun hpassed => hpassed.2.2.2, fun hwindow => ⟨ha, hb, hpasses, hwindow⟩⟩

omit [KeyScheme] in
/-- The sequence number leaves the lock time of a settlement on. -/
theorem isFinal_spending {p : Params} {f g : ChannelSignature} {script : Bytes} {o : OutPoint}
    {tx : Transaction} (hinputs : tx.inputs = [spendingInput p f g script o]) {chain : Chain} :
    chain.isFinal tx = true ↔ chain.Reached tx.lockTime := by
  have henabled : (spendingInput p f g script o).sequence ≠ LockTime.finalSequence :=
    LockTime.sequenceForBlocks_ne_final p.disputeWindow
  apply Chain.isFinal_iff _ henabled
  rw [hinputs]
  exact List.mem_singleton_self _

/-- The chain's rules for a settlement on a confirmed output of its state. -/
theorem validate_spending {s : SettleTx} {c : Snapshot} {p : Params}
    (hbuilt : s.document.Built c p) (hverify : s.verify = .ok ()) {f g : ChannelSignature}
    (hf : s.signature .funder = some f) (hg : s.signature .counterparty = some g)
    {chain : Chain} {coin : Coin} {o : OutPoint} (hcoin : chain.coins.get? o = some coin)
    (hfree : o ∉ chain.mempoolSpends)
    (houtput : coin.output = ⟨c.capacity, Script.lock s.document.updateScript⟩) {tx : Transaction}
    (htx : tx = { s.document.template with
      inputs := [spendingInput p f g s.document.updateScript o] }) :
    chain.validate tx = .ok () ↔ chain.Reached tx.lockTime ∧
      chain.checkRelativeLock (spendingInput p f g s.document.updateScript o) coin = .ok () ∧
      p.disputeWindow ≠ 0 := by
  have hinputs : tx.inputs = [spendingInput p f g s.document.updateScript o] := by rw [htx]
  have hversion : tx.version = 2 := by rw [htx, ← hbuilt.version]
  have hvalue : Chain.totalValue tx.outputs ≤ coin.output.value := by
    rw [houtput, htx]
    exact hbuilt.totalValue_le
  have hlock : coin.output.script = Script.lock s.document.updateScript := by rw [houtput]
  have hwitness : (spendingInput p f g s.document.updateScript o).witness =
      [[], f.toBytes, g.toBytes, [], [], []] ++ [s.document.updateScript] := rfl
  obtain ⟨ctx, hctx, htx', hinput, hspent, hvalidate⟩ :=
    Chain.exists_validate_locked hinputs hcoin hfree hlock hwitness
  have hcarries : ctx.Carries s.document.template (Settlement.templateInput p) c.capacity :=
    ⟨by rw [htx', htx], by rw [htx', htx], by rw [htx', htx], by rw [hinput]; rfl,
      by rw [hspent, houtput]⟩
  rw [hvalidate, isFinal_spending hinputs, Chain.checkRelativeLocks_singleton hversion hinputs,
    ← evaluate_settle_iff hbuilt hverify hf hg hcarries hctx]
  simp only [hvalue, true_and]
  rfl

/-- **States settle after their dispute window.** -/
theorem settles_iff (p : Params) (c : Snapshot) (s : SettleTx) (script : Bytes) (chain : Chain)
    (coin : Coin) (height : UInt32) (o : OutPoint) (tx : Transaction)
    (hbuild : Settlement.build c p = .ok s.document) (hspend : s.spend o = .ok tx)
    (hscript : c.updateScript p = .ok script) (hcoin : chain.coins.get? o = some coin)
    (hfree : o ∉ chain.mempoolSpends) (houtput : coin.output = ⟨c.capacity, Script.lock script⟩)
    (hheight : coin.height = some height) :
    chain.validate tx = .ok () ↔ p.disputeWindow ≠ 0 ∧
      chain.Reached (p.lockTimeBase + c.state + 1) ∧
      height.toNat + p.disputeWindow.toNat ≤ (chain.height + 1).toNat := by
  have hbuilt := Settlement.built_of_build hbuild
  obtain ⟨f, g, hf, hg, hverify, htx⟩ := (spend_eq_ok hbuilt).1 hspend
  obtain rfl : script = s.document.updateScript :=
    Except.ok.inj (hscript.symm.trans hbuilt.script)
  have hlockTime : tx.lockTime = p.lockTimeBase + c.state + 1 := by rw [htx, ← hbuilt.lockTime_eq]
  -- A lock of no length is met by every coin, so the blocks are counted only for a window that the
  -- script lets pass.
  have hwaited (hwindow : p.disputeWindow ≠ 0) :
      chain.checkRelativeLock (spendingInput p f g s.document.updateScript o) coin = .ok () ↔
        height.toNat + p.disputeWindow.toNat ≤ (chain.height + 1).toNat :=
    Chain.checkRelativeLock_blocks rfl hheight hwindow
  rw [validate_spending hbuilt hverify hf hg hcoin hfree houtput htx, hlockTime]
  constructor
  · rintro ⟨hreached, hrelative, hwindow⟩
    exact ⟨hwindow, hreached, (hwaited hwindow).1 hrelative⟩
  · rintro ⟨hwindow, hreached, hblocks⟩
    exact ⟨hreached, (hwaited hwindow).2 hblocks, hwindow⟩

/-! ## The first block after the window -/

/-- The owner of both sides' keys can sign the settlement of a state so that it can be put on any
output. -/
theorem exists_settlement [LawfulKeyScheme] {c : Snapshot} {p : Params} {keys : ChannelKeys}
    (hc : c.Conserved) (hlock : p.lockTimeBase.toNat + c.state.toNat + 1 < UInt32.size)
    (hk : ∀ role, keys.publish c.state = .ok (c.party role)) :
    ∃ s : SettleTx, Settlement.build c p = .ok s.document ∧ ∀ o, ∃ tx, s.spend o = .ok tx := by
  obtain ⟨-, document, -, hbuild⟩ := StateTxs.exists_build hc hlock
  obtain ⟨ours, -, hours⟩ := exists_sign (.unsigned document) .funder hbuild (hk .funder)
  obtain ⟨theirs, -, htheirs⟩ :=
    exists_sign (.unsigned document) .counterparty hbuild (hk .counterparty)
  have hverify := Cosigned.verify_withSignature (.unsigned document) .funder htheirs hours
  have hbuilt := Settlement.built_of_build hbuild
  exact ⟨_, hbuild, fun o =>
    ⟨_, (spend_eq_ok hbuilt).2 ⟨ours, theirs, rfl, rfl, hverify, rfl⟩⟩⟩

/-- In state 0 the default lock times can be represented. -/
theorem exists_settlement_first [LawfulKeyScheme] {k : PartyKeys} {keys : ChannelKeys}
    (hk : keys.publish 0 = .ok k) {c : Snapshot} (hc : c.Conserved) (hstate : c.state = 0)
    (hparty : ∀ role, c.party role = k) (window : UInt16) :
    ∃ s : SettleTx, Settlement.build c { disputeWindow := window } = .ok s.document ∧
      ∀ o, ∃ tx, s.spend o = .ok tx := by
  have hkeys (role : Role) : keys.publish c.state = .ok (c.party role) := by
    rw [hstate, hparty]
    exact hk
  refine exists_settlement hc ?_ hkeys
  rw [hstate]
  show 500000000 + 0 + 1 < UInt32.size
  decide

/-- A chain at height 200 with one coin. -/
def holding (coin : Coin) : Chain := { coins := (∅ : SortedMap OutPoint Coin).insert .null coin }

omit [KeyScheme] in
/-- Under the default window of 20 blocks, the next block after height 200 can settle a coin of
height 181, but not one of height 182. Under a window of no blocks, it cannot settle a coin that has
been confirmed for 100 blocks. -/
theorem settles_zeros :
    letI : KeyScheme := .secp256k1
    (∃ (c : Snapshot) (s : SettleTx) (script : Bytes) (tx : Transaction),
      Settlement.build c {} = .ok s.document ∧ c.updateScript {} = .ok script ∧
      s.spend .null = .ok tx ∧
      (holding ⟨⟨1000000, Script.lock script⟩, some 181⟩).validate tx = .ok () ∧
      (holding ⟨⟨1000000, Script.lock script⟩, some 182⟩).validate tx ≠ .ok ()) ∧
    ∃ (c : Snapshot) (s : SettleTx) (script : Bytes) (tx : Transaction),
      Settlement.build c { disputeWindow := 0 } = .ok s.document ∧
      c.updateScript { disputeWindow := 0 } = .ok script ∧ s.spend .null = .ok tx ∧
      (holding ⟨⟨1000000, Script.lock script⟩, some 100⟩).validate tx ≠ .ok () := by
  let _ : KeyScheme := .secp256k1
  have hcoin (coin : Coin) : (holding coin).coins.get? .null = some coin :=
    SortedMap.get?_insert_self _ _ _
  have _ : LawfulKeyScheme := lawful_secp256k1
  obtain ⟨keys, k, k', -, hk, -⟩ := exists_keys_zeros
  let c : Snapshot := .first 1000000 k k
  have hparty (role : Role) : c.party role = k := by cases role <;> rfl
  have hsigned (window : UInt16) :=
    exists_settlement_first hk (Snapshot.conserved_first 1000000 k k) rfl hparty window
  constructor
  · obtain ⟨s, hbuild, hspend⟩ := hsigned 20
    obtain ⟨tx, htx⟩ := hspend .null
    have hscript := (Settlement.built_of_build hbuild).script
    have hsettles (height : UInt32) := settles_iff {} c s s.document.updateScript
      (holding ⟨⟨1000000, Script.lock s.document.updateScript⟩, some height⟩) _ height .null tx
      hbuild htx hscript (hcoin _) List.not_mem_nil rfl rfl
    refine ⟨c, s, _, tx, hbuild, hscript, htx, (hsettles 181).2 ⟨by decide, ?_, ?_⟩,
      fun haccepted => ?_⟩
    · show (holding _).Reached (({} : Params).lockTimeBase + 0 + 1)
      rw [Chain.Reached, if_neg (by decide)]
      show ({} : Params).lockTimeBase + 0 + 1 ≤ 1500000000
      decide
    · show 181 + 20 ≤ 201
      decide
    · have hblocks : 182 + 20 ≤ 201 := ((hsettles 182).1 haccepted).2.2
      exact absurd hblocks (by decide)
  · obtain ⟨s, hbuild, hspend⟩ := hsigned 0
    obtain ⟨tx, htx⟩ := hspend .null
    have hscript := (Settlement.built_of_build hbuild).script
    refine ⟨c, s, _, tx, hbuild, hscript, htx, fun haccepted => ?_⟩
    have hwindow := ((settles_iff _ c s _ _ _ 100 .null tx hbuild htx hscript (hcoin _)
      List.not_mem_nil rfl rfl).1 haccepted).1
    exact hwindow rfl

end SettleTx

end Supersede
