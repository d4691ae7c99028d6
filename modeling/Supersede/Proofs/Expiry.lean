import Supersede.Proofs.Sweeping

/-!
# When a payment can be taken back

A payment that has expired goes back to the funder. Off the chain an expiry is compared with the
block time as a number. On the chain the comparison is one of lock times, which are heights below
`LockTime.threshold` and times from there on, and a height is not compared with a time. So the two
part where the expiry is a height and the block time a time (`Invoice.Straddles`).

**Theorem (`Invoice.refundable_iff`).** In an input and a transaction as the funder's sweeps have
them, the refund branch of a payment script runs through exactly when the payment has expired and
its expiry does not straddle the threshold. Where it does, the funder sweeps the payment all the
same, and no chain accepts the sweep.

* `SpendContext.lockTimePasses_iff_isExpired`: the two comparisons, side by side.
* `Sweep.Completes.lockTimePasses`: an accepted sweep has met the expiry of every payment that it
  takes back.
* `Sweep.exists_refund`: the funder's sweep takes back every payment that it counts as expired.
-/

namespace Supersede

open Result

/-! ## Numbers and lock times -/

/-- The expiry is a height and the block time a time. -/
def Invoice.Straddles (invoice : Invoice) (blockTime : UInt32) : Prop :=
  invoice.expiry < LockTime.threshold ∧ LockTime.threshold ≤ blockTime

theorem Invoice.isExpired_iff {invoice : Invoice} {blockTime : UInt32} :
    invoice.isExpired blockTime = true ↔ invoice.expiry ≤ blockTime :=
  decide_eq_true_iff

theorem Invoice.Straddles.isExpired {invoice : Invoice} {blockTime : UInt32}
    (h : invoice.Straddles blockTime) : invoice.isExpired blockTime = true :=
  isExpired_iff.2 (UInt32.le_trans (UInt32.le_of_lt h.1) h.2)

/-- A lower lock time is of the kind of a higher one unless the threshold lies between them. -/
theorem LockTime.kind_iff {a b : UInt32} (h : a ≤ b) :
    (a < threshold ↔ b < threshold) ↔ ¬ (a < threshold ∧ threshold ≤ b) := by
  rw [← UInt32.not_lt (a := b)]
  constructor
  · rintro hkind ⟨ha, hb⟩
    exact hb (hkind.1 ha)
  · intro hstraddles
    refine ⟨fun ha => ?_, fun hb => UInt32.lt_of_le_of_lt h hb⟩
    by_contra hb
    exact hstraddles ⟨ha, hb⟩

namespace SpendContext

variable {ctx : SpendContext} {invoice : Invoice}

/-- What a time lock asks for is that the payment has expired, the threshold aside. -/
theorem lockTimePasses_iff_isExpired
    (hsequence : ctx.input.sequence = LockTime.enabledSequence) :
    ctx.LockTimePasses invoice.expiry ↔
      invoice.isExpired ctx.tx.lockTime = true ∧ ¬ invoice.Straddles ctx.tx.lockTime := by
  have henabled : ctx.input.sequence ≠ LockTime.finalSequence := by
    rw [hsequence]
    decide
  rw [lockTimePasses_iff, Invoice.isExpired_iff]
  constructor
  · rintro ⟨hkind, hreached, -⟩
    exact ⟨hreached, (LockTime.kind_iff hreached).1 hkind⟩
  · rintro ⟨hreached, hstraddles⟩
    exact ⟨(LockTime.kind_iff hreached).2 hstraddles, hreached, henabled⟩

/-- The refund branch runs through when the lock time passes. -/
theorem run_refundBranch_iff [KeyScheme] {refundKey : PublicKey} {expiry : UInt32}
    {stack : List Bytes} :
    (∃ m, Machine.run ctx { stack } (Script.refundBranch refundKey expiry) = .ok m) ↔
      ctx.LockTimePasses expiry := by
  rw [Machine.run_block rfl (Script.isBlock_refundBranch refundKey expiry)]
  simp only [bind_eq_ok, block_refundBranch]
  constructor
  · rintro ⟨m, left, ⟨hpasses, -⟩, -⟩
    exact hpasses
  · intro hpasses
    exact ⟨_, _, ⟨hpasses, rfl⟩, rfl⟩

end SpendContext

/-! ## Payments that a sweep takes back -/

namespace Sweep

/-- No chain that holds the outputs of a settlement accepts the sweep of them, whoever signs it. -/
def Refused [KeyScheme] (w : Sweep) (s : Settlement) (txid : Txid) : Prop :=
  ∀ keys signed tx chain, w.sign keys = .ok signed → signed.transaction = .ok tx →
    (∀ vout output, s.template.outputs[vout]? = some output →
      Chain.unspent? chain ⟨txid, UInt32.ofNat vout⟩ = some output) →
    chain.validate tx ≠ .ok ()

section

variable {w : Sweep} {s : Settlement} {c : Snapshot} {p : Params} {txid : Txid}
  {secrets : Secrets} {options : SweepOptions} {invoice : Invoice}

/-- The funder takes back every payment of the settlement that has expired. -/
theorem exists_refund (secrets : Secrets) (hbuilt : s.Built c p) {hash : PaymentHash}
    (hinvoice : c.offered.get? hash = some invoice) {o : SettlementOutput}
    (ho : s.output? (.offered hash) = some o) (hall : options.settledOnly = false)
    (hexpired : invoice.isExpired options.blockTime = true) :
    ∃ i ∈ inputsOf s secrets .funder options, i.unlock = .refund ∧
      i.scriptCode = c.paymentScript hash invoice ∧ ∃ n, i.vout = UInt32.ofNat n ∧
        s.template.outputs[n]? = some ⟨i.value, Script.lock (c.paymentScript hash invoice)⟩ := by
  obtain ⟨hmem, hpart⟩ := Settlement.of_output? ho
  have hinput : offeredInput? s.snapshot secrets .funder options o = some (input o .refund) := by
    simp only [offeredInput?, hpart, hbuilt.snapshot, hinvoice, unlock?, Option.bind_eq_bind,
      Option.bind_some, hexpired, Bool.or_true, if_true, Option.pure_def]
  refine ⟨input o .refund, List.mem_append_right _ ?_, rfl, ?_⟩
  · rw [hall]
    exact List.mem_filterMap.2 ⟨o, hmem, hinput⟩
  · obtain ⟨n, item, hitem, rfl, houtput⟩ := hbuilt.exists_item hmem
    obtain ⟨invoice', hinvoice', rfl⟩ := Snapshot.exists_offeredItem hitem hpart
    obtain rfl : invoice = invoice' := Option.some.inj (hinvoice.symm.trans hinvoice')
    exact ⟨rfl, n, rfl, houtput⟩

variable [KeyScheme]

/-- In an accepted sweep, the lock time has reached the expiry of a payment that is taken back. -/
theorem Completes.lockTimePasses {tx : Transaction} (h : w.Completes txid tx)
    (hbuilt : w.Built s txid secrets .funder options) {i : SweepInput} (hi : i ∈ w.inputs)
    (hunlock : i.unlock = .refund) {refundKey paymentKey : PublicKey} {hash : Hash160}
    {expiry : UInt32} (hcode : i.scriptCode = Script.payment refundKey paymentKey hash expiry)
    {chain : Chain} {output : TxOut} (houtput : output.script = Script.lock i.scriptCode)
    (hunspent : chain.unspent? ⟨txid, i.vout⟩ = some output) (hvalid : chain.validate tx = .ok ()) :
    ∃ ctx : SpendContext, ctx.tx = tx ∧ ctx.LockTimePasses expiry := by
  obtain ⟨index, hindex⟩ := List.mem_iff_getElem?.1 hi
  obtain ⟨input, hinput⟩ : ∃ input, tx.inputs[index]? = some input := by
    have hat := congrArg (·[index]?) (h.outpoints hbuilt)
    simp only [List.getElem?_map, hindex, Option.map_some, Option.map_eq_some_iff] at hat
    obtain ⟨input, hinput, -⟩ := hat
    exact ⟨input, hinput⟩
  obtain ⟨i', sig, hi', -, hspending⟩ := h.spending index input hinput
  obtain rfl : i = i' := Option.some.inj (hindex.symm.trans hi')
  obtain ⟨coin, hcoin, rfl⟩ := Option.map_eq_some_iff.1 hunspent
  have hcoin' : chain.coins.get? input.outpoint = some coin := by
    rw [hspending]
    exact hcoin
  have hwitness : input.witness = [sig.toBytes, []] ++ [i.scriptCode] := by
    rw [hspending]
    simp only [spendingInput, witness, hunlock]
    rfl
  obtain ⟨coins, hadmits⟩ := Chain.validate_eq_ok_iff.1 hvalid
  have hctx := hadmits.forScript hinput hcoin' i.scriptCode
  have hevaluate := hadmits.evaluate hinput hcoin' houtput hwitness
  rw [hcode] at hctx hevaluate
  exact ⟨_, rfl, (hctx.evaluate_refund.1 hevaluate).1⟩

/-- A sweep that takes back a payment across the threshold is refused. -/
theorem refused_of_straddles (hsettle : s.Built c p)
    (hbuilt : w.Built s txid secrets .funder options) (hall : options.settledOnly = false)
    {hash : PaymentHash} (hinvoice : c.offered.get? hash = some invoice) {o : SettlementOutput}
    (ho : s.output? (.offered hash) = some o) (h : invoice.Straddles options.blockTime) :
    w.Refused s txid := by
  intro keys signed tx chain hsign htx hunspent hvalid
  obtain ⟨hsigned, signatures, rfl⟩ := signed_of_sign hsign
  have hbuilt' := hbuilt.withSignatures signatures
  obtain ⟨tx', htx', hcompletes⟩ := hsigned.exists_transaction hbuilt'
  obtain rfl := Except.ok.inj (htx.symm.trans htx')
  obtain ⟨i, hi, hunlock, hcode, n, hvout, houtput⟩ :=
    exists_refund secrets hsettle hinvoice ho hall h.isExpired
  obtain ⟨ctx, rfl, hpasses⟩ := hcompletes.lockTimePasses hbuilt' (hbuilt.inputs ▸ hi) hunlock hcode
    (by rw [hcode]) (hvout ▸ hunspent n _ houtput) hvalid
  -- The lock time of the sweep is the block time, which is not of the kind of the expiry.
  have hlockTime : ctx.tx.lockTime = options.blockTime := by
    rw [← hcompletes.agrees.lockTime]
    show w.template.lockTime = _
    rw [hbuilt.lockTime, lockTime, hall]
    rfl
  have hkind := hpasses.kind.1 h.1
  rw [hlockTime] at hkind
  exact UInt32.not_lt.2 h.2 hkind

end

end Sweep

/-! ## The two comparisons -/

/-- **When a payment can be taken back.** In an input and a transaction as the funder's sweeps have
them, the refund branch runs through exactly when the payment has expired and the threshold of lock
times does not lie between the expiry and the block time; the whole script then asks for nothing but
the funder's signature. A sweep that takes back a payment across the threshold is refused. -/
theorem Invoice.refundable_iff [KeyScheme] (invoice : Invoice) (blockTime : UInt32) :
    (∀ (refundKey paymentKey : PublicKey) (ctx : SpendContext),
      ctx.tx.lockTime = blockTime → ctx.input.sequence = LockTime.enabledSequence →
      (∀ stack, (∃ m, Machine.run ctx { stack } (Script.refundBranch refundKey invoice.expiry) =
          .ok m) ↔
        invoice.isExpired blockTime = true ∧ ¬ invoice.Straddles blockTime) ∧
      ∀ script sig, ctx.ForScript script →
        (Machine.evaluate ctx (Script.payment refundKey paymentKey invoice.hash invoice.expiry)
            [[], sig] = .ok () ↔
          (invoice.isExpired blockTime = true ∧ ¬ invoice.Straddles blockTime) ∧
            ctx.Accepts sig refundKey)) ∧
    ∀ (c : Snapshot) (p : Params) (s : Settlement) (txid : Txid) (secrets : Secrets)
      (options : SweepOptions) (w : Sweep), Settlement.build c p = .ok s →
      Sweep.build s txid secrets .funder options p = .ok w →
      options.settledOnly = false → options.blockTime = blockTime →
      w.template.lockTime = blockTime ∧
      (∀ input ∈ w.template.inputs, input.sequence = LockTime.enabledSequence) ∧
      ∀ hash, c.offered.get? hash = some invoice → (s.output? (.offered hash)).isSome = true →
        invoice.Straddles blockTime → w.Refused s txid := by
  refine ⟨fun refundKey paymentKey ctx hlockTime hsequence => ?_,
    fun c p s txid secrets options w hs hw hall hblockTime => ?_⟩
  · have hpasses : ctx.LockTimePasses invoice.expiry ↔
        invoice.isExpired blockTime = true ∧ ¬ invoice.Straddles blockTime := by
      rw [SpendContext.lockTimePasses_iff_isExpired hsequence, hlockTime]
    refine ⟨fun stack => SpendContext.run_refundBranch_iff.trans hpasses,
      fun script sig hctx => ?_⟩
    rw [hctx.evaluate_refund, hpasses]
    refine and_congr_right fun _ => ⟨?_, fun hsig => ⟨sig, rfl, hsig⟩⟩
    rintro ⟨sig', heq, hsig⟩
    cases heq
    exact hsig
  · have hbuilt := Sweep.built_of_build hw
    refine ⟨?_, ?_, ?_⟩
    · rw [hbuilt.lockTime, Sweep.lockTime, hall, hblockTime]
      rfl
    · intro input hinput
      rw [hbuilt.template, List.mem_map] at hinput
      obtain ⟨i, -, rfl⟩ := hinput
      rfl
    · intro hash hinvoice hpaid hstraddles
      obtain ⟨o, ho⟩ := Option.isSome_iff_exists.1 hpaid
      exact Sweep.refused_of_straddles (Settlement.built_of_build hs) hbuilt hall hinvoice ho
        (hblockTime ▸ hstraddles)

/-- A settlement with a payment that expires at height 100 is confirmed on a chain whose clock
shows a time. The funder can build and sign a sweep of its balance and the payment, and the chain
refuses it. -/
theorem refused_zeros :
    letI : KeyScheme := .secp256k1
    ∃ (c : Snapshot) (s : SettleTx) (o : OutPoint) (tx tx' : Transaction) (chain : Chain)
      (keys : ChannelKeys) (w signed : Sweep), Settlement.build c {} = .ok s.document ∧
      s.spend o = .ok tx ∧ chain.Reachable ∧
      (∀ vout output, tx.outputs[vout]? = some output →
        chain.unspent? ⟨tx.txid, UInt32.ofNat vout⟩ = some output) ∧
      Sweep.build s.document tx.txid ∅ .funder { blockTime := chain.time } {} = .ok w ∧
      w.inputs.map (·.unlock) = [.payout, .refund] ∧ w.sign keys = .ok signed ∧
      signed.transaction = .ok tx' ∧ chain.validate tx' ≠ .ok () := by
  let _ : KeyScheme := .secp256k1
  have _ : LawfulKeyScheme := lawful_secp256k1
  obtain ⟨keys, k, -, -, hk, -⟩ := exists_keys_zeros
  have hparty (role : Role) : (Node.offeringAt k 100).party role = k := by cases role <;> rfl
  obtain ⟨s, hbuild, hspends⟩ :=
    SettleTx.exists_settlement_first hk (Node.conserved_offeringAt k 100) rfl hparty 20
  obtain ⟨tx, hspend⟩ := hspends (({} : Chain).fund 1000000).1
  have hbuilt := Settlement.built_of_build hbuild
  have hreachable := Node.reachable_settledChain hbuilt rfl rfl hspend
  have houtputs : tx.outputs = s.document.template.outputs := by
    obtain ⟨f, g, -, -, -, rfl⟩ := (SettleTx.spend_eq_ok hbuilt).1 hspend
    rfl
  have hlength : tx.outputs.length ≤ UInt32.size := by
    rw [houtputs, hbuilt.outputs, List.length_map]
    exact (List.length_filter_le _ _).trans (show 3 ≤ UInt32.size by decide)
  have htime : (Node.settledChain tx).time = 1500012000 := by
    show (1500011400 : UInt32) + Chain.blockInterval + (1 - 1) * Chain.blockInterval = 1500012000
    decide
  obtain ⟨w, hw, hunlocks⟩ := Node.exists_build_offering (by decide) hbuilt tx.txid ∅
  have hsweep := Sweep.built_of_build hw
  have hkey : keys.paymentKey.publicKey = w.paymentKey := by
    rw [hsweep.paymentKey, hbuilt.snapshot]
    exact ChannelKeys.paymentKey_of_publish hk
  obtain ⟨signed, hsign⟩ := Sweep.exists_sign hkey (by rw [hsweep.template, List.length_map])
  obtain ⟨hsigned, signatures, rfl⟩ := Sweep.signed_of_sign hsign
  obtain ⟨tx', htx', -⟩ := hsigned.exists_transaction (hsweep.withSignatures signatures)
  have hpaid : (s.document.output? (.offered (FixedBytes.zero 20))).isSome = true := by
    rw [Settlement.output?, hbuilt.layout]
    rfl
  obtain ⟨-, -, hrefused⟩ := ((⟨0, FixedBytes.zero 20, 100000, 100⟩ : Invoice).refundable_iff
    1500012000).2 _ _ _ _ _ _ _ hbuild hw rfl rfl
  have hunspent (vout : Nat) (output : TxOut) (houtput : tx.outputs[vout]? = some output) :
      (Node.settledChain tx).unspent? ⟨tx.txid, UInt32.ofNat vout⟩ = some output :=
    (Node.unspent_settledChain hlength vout output houtput).1
  refine ⟨_, s, _, tx, tx', Node.settledChain tx, keys, w, _, hbuild, hspend, hreachable, hunspent,
    htime ▸ hw, hunlocks, hsign, htx', ?_⟩
  rw [houtputs] at hunspent
  exact hrefused (FixedBytes.zero 20) rfl hpaid ⟨by decide, by decide⟩ _ _ _ _ hsign htx' hunspent

end Supersede
