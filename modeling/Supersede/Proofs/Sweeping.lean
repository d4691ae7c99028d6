import Supersede.Proofs.ChainRuns
import Supersede.Proofs.Settling
import Supersede.Proofs.Soundness

/-!
# Sweeps are accepted

A sweep spends the outputs of a settlement that one party can unlock: its settled balance, and the
offered payments that it can claim or take back. Each input has a script of its own, but all are
signed over the same transaction, and its one lock time must be late enough for every payment that
is taken back.

* `Transaction.Agrees.signatureHash_eq`: a signature does not cover the witnesses, so all inputs can
  be signed before any witness is attached.
* `SweepInput.Opened`, `SweepInput.Opened.verify`: an input that a side can unlock passes the script
  of its output.
* `Sweep.opened_of_mem`: all inputs of a sweep are such inputs.

**Theorem (`Node.sweep_accepted`).** If the outputs of a settlement whose payments expire at times
are unspent, then the chain accepts every sweep of them that a node makes for the chain's time.
-/

namespace Supersede

open Result

theorem Result.exists_mapM {ε α β : Type} {f : α → Except ε β} {l : List α}
    (h : ∀ a ∈ l, ∃ b, f a = .ok b) : ∃ bs, l.mapM f = .ok bs := by
  induction l with
  | nil => exact ⟨[], rfl⟩
  | cons a l ih =>
    obtain ⟨b, hb⟩ := h a List.mem_cons_self
    obtain ⟨bs, hbs⟩ := ih fun a' ha' => h a' (List.mem_cons_of_mem a ha')
    exact ⟨b :: bs, by rw [List.mapM_cons, hb, ok_bind, hbs]; rfl⟩

/-! ## What a signature does not cover -/

namespace Transaction

/-- The transactions agree in all that a signature covers. -/
structure Agrees (tx tx' : Transaction) : Prop where
  version : tx.version = tx'.version
  lockTime : tx.lockTime = tx'.lockTime
  outputs : tx.outputs = tx'.outputs
  inputs : tx.inputs.map (fun input => (input.outpoint, input.sequence)) =
    tx'.inputs.map fun input => (input.outpoint, input.sequence)

theorem Agrees.signaturePreimage_eq {tx tx' : Transaction} (h : tx.Agrees tx') {input input' : TxIn}
    (hinput : (input.outpoint, input.sequence) = (input'.outpoint, input'.sequence))
    (scriptCode : Bytes) (value : UInt64) (mode : SigningMode) :
    tx.signaturePreimage input scriptCode value mode =
      tx'.signaturePreimage input' scriptCode value mode := by
  have houtpoints : tx.outpointBytes = tx'.outpointBytes := by
    have hmap := congrArg (·.flatMap (·.1.serialize)) h.inputs
    simp only [List.flatMap_map] at hmap
    exact hmap
  have hsequences : tx.sequenceBytes = tx'.sequenceBytes := by
    have hmap := congrArg (·.flatMap (Bytes.le32 ·.2)) h.inputs
    simp only [List.flatMap_map] at hmap
    exact hmap
  obtain ⟨houtpoint, hsequence⟩ := Prod.mk.inj hinput
  cases mode <;>
    simp only [signaturePreimage, boundPreimage, floatingPreimage, versionBytes, outputBytes,
      h.version, h.lockTime, h.outputs, houtpoints, hsequences, houtpoint, hsequence]

theorem Agrees.signatureHash_eq {tx tx' : Transaction} (h : tx.Agrees tx') (index : Nat)
    (scriptCode : Bytes) (value : UInt64) (mode : SigningMode) :
    tx.signatureHash index scriptCode value mode =
      tx'.signatureHash index scriptCode value mode := by
  have hindex := congrArg (·[index]?) h.inputs
  have hlength := congrArg List.length h.inputs
  simp only [List.getElem?_map, List.length_map] at hindex hlength
  unfold signatureHash
  rcases hinput : tx.inputs[index]? with _ | input <;>
    rcases hinput' : tx'.inputs[index]? with _ | input' <;> rw [hinput, hinput'] at hindex
  · simp only [inputOutOfRange, hlength]
  · cases hindex
  · cases hindex
  · simp only [h.signaturePreimage_eq (Option.some.inj hindex)]

/-- A signature that was made before the witnesses were attached is valid with them. -/
theorem Agrees.verifyInput_of_signInput [KeyScheme] [LawfulKeyScheme] {tx tx' : Transaction}
    (h : tx.Agrees tx') {index : Nat} {scriptCode : Bytes} {value : UInt64} {mode : SigningMode}
    {key : SecretKey} {sig : ChannelSignature}
    (hsig : tx.signInput index scriptCode value mode key = .ok sig) :
    tx'.verifyInput index scriptCode value sig key.publicKey = .ok true := by
  obtain ⟨digest, hdigest, rfl⟩ := map_eq_ok.1 hsig
  rw [h.signatureHash_eq] at hdigest
  simp only [verifyInput, hdigest, Except.map, LawfulKeyScheme.ecdsaVerify_sign]

end Transaction

/-! ## Inputs that can be unlocked -/

namespace SweepInput

/-- The output that the owner of a key spends with an input. -/
def spends (key : PublicKey) (i : SweepInput) : TxOut where
  value := i.value
  script := match i.unlock with
    | .payout => Script.payout key
    | .claim _ | .refund => Script.lock i.scriptCode

/-- The owner of a key can unlock the input in a transaction with a lock time. -/
inductive Opened (key : PublicKey) (lockTime : UInt32) : SweepInput → Prop
  | payout (vout : UInt32) (value : Amount) :
      Opened key lockTime ⟨vout, value, Script.payoutCode key, .payout⟩
  | claim (vout : UInt32) (value : Amount) {refundKey : PublicKey} {hash : PaymentHash}
      {expiry : UInt32} {secret : Preimage} (hsecret : secret.paymentHash = hash) :
      Opened key lockTime
        ⟨vout, value, Script.payment refundKey key hash expiry, .claim (some secret)⟩
  | refund (vout : UInt32) (value : Amount) {paymentKey : PublicKey} {hash : PaymentHash}
      {expiry : UInt32} (hkind : LockTime.threshold ≤ expiry) (hexpired : expiry ≤ lockTime) :
      Opened key lockTime ⟨vout, value, Script.payment key paymentKey hash expiry, .refund⟩

end SweepInput

namespace SpendContext

/-- A lock time that is a time is met by a later one. -/
theorem lockTimePasses_of_time {ctx : SpendContext} {lockTime : UInt32}
    (hkind : LockTime.threshold ≤ lockTime) (hle : lockTime ≤ ctx.tx.lockTime)
    (henabled : ctx.input.sequence ≠ LockTime.finalSequence) : ctx.LockTimePasses lockTime := by
  have htime : ¬ lockTime < LockTime.threshold := UInt32.not_lt.2 hkind
  have htime' : ¬ ctx.tx.lockTime < LockTime.threshold :=
    UInt32.not_lt.2 (UInt32.le_trans hkind hle)
  exact (lockTimePasses_iff ..).2 ⟨iff_of_false htime htime', hle, henabled⟩

variable [KeyScheme]

/-- An output that pays to a key is spent with a signature of the key. -/
theorem verify_payout {ctx : SpendContext} (hctx : ctx.internalKey = none) {key : PublicKey}
    {sig : ChannelSignature} (hspent : ctx.spent.script = Script.payout key)
    (hwitness : ctx.input.witness = Witness.payout sig key)
    (hvalid : ctx.tx.verifyInput ctx.index (Script.payoutCode key) ctx.spent.value sig key =
      .ok true) : ctx.verify = .ok () := by
  have hcheck : { ctx with scriptCode := Script.payoutCode key }.checkSig sig.toBytes key.toBytes =
      .ok true := by
    simp only [checkSig, hctx, checkChannelSig, ChannelSignature.ofBytes_toBytes,
      PublicKey.ofBytes?_toBytes, hvalid, liftResult]
  simp only [verify, hspent, Script.kind_payout, verifyKeyHash, hwitness, Witness.payout,
    PublicKey.ofBytes?_toBytes, ne_eq, not_true_eq_false, if_false, hcheck, ok_bind, if_true]
  rfl

end SpendContext

/-- An input that can be unlocked passes the script of its output. -/
theorem SweepInput.Opened.verify [KeyScheme] {ctx : SpendContext} {key : PublicKey}
    {i : SweepInput} (h : i.Opened key ctx.tx.lockTime) (hctx : ctx.ForScript ctx.spent.script)
    (hspent : ctx.spent = i.spends key)
    (hsequence : ctx.input.sequence = LockTime.enabledSequence) {sig : ChannelSignature}
    (hwitness : ctx.input.witness = Sweep.witness key i sig)
    (hvalid : ctx.tx.verifyInput ctx.index i.scriptCode i.value sig key = .ok true) :
    ctx.verify = .ok () := by
  have hforScript (script : Bytes) : { ctx with scriptCode := script }.ForScript script :=
    ⟨hctx.input, hctx.spent, rfl, hctx.internalKey⟩
  have hvalue : ctx.spent.value = i.value := by rw [hspent, spends]
  have haccepts : { ctx with scriptCode := i.scriptCode }.Accepts sig.toBytes key := by
    rw [(hforScript i.scriptCode).accepts_iff, ← hvalid, ← hvalue]
  cases h with
  | payout vout value =>
    refine SpendContext.verify_payout hctx.internalKey (by rw [hspent, spends]) hwitness ?_
    rw [hvalue]
    exact hvalid
  | @claim vout value refundKey hash expiry secret hsecret =>
    have hlock : ctx.spent.script = Script.lock (Script.payment refundKey key hash expiry) := by
      rw [hspent, spends]
    have hitems : ctx.input.witness = [sig.toBytes, secret.toBytes, [0x01]] ++
        [Script.payment refundKey key hash expiry] := hwitness
    rw [SpendContext.verify_lock hlock hitems]
    exact (hforScript _).evaluate_claim.2 ⟨secret.toBytes, sig.toBytes, rfl, hsecret, haccepts⟩
  | @refund vout value paymentKey hash expiry hkind hexpired =>
    have hlock : ctx.spent.script = Script.lock (Script.payment key paymentKey hash expiry) := by
      rw [hspent, spends]
    have hitems : ctx.input.witness = [sig.toBytes, []] ++
        [Script.payment key paymentKey hash expiry] := hwitness
    have hpasses : { ctx with scriptCode := Script.payment key paymentKey hash expiry }.LockTimePasses
        expiry := by
      refine SpendContext.lockTimePasses_of_time hkind hexpired ?_
      show ctx.input.sequence ≠ LockTime.finalSequence
      rw [hsequence]
      decide
    rw [SpendContext.verify_lock hlock hitems]
    exact (hforScript _).evaluate_refund.2 ⟨hpasses, sig.toBytes, rfl, haccepts⟩

/-! ## The inputs of a sweep -/

namespace Snapshot

theorem mem_settlementItems {c : Snapshot} {item : SettlementItem} :
    item ∈ c.settlementItems ↔ item = balanceItem .refund c.refund c.funder.paymentKey ∨
      item = balanceItem .payment c.payment c.counterparty.paymentKey ∨
      ∃ hash invoice, c.offered.get? hash = some invoice ∧ item = c.offeredItem hash invoice := by
  simp only [settlementItems, List.mem_cons, List.mem_map, Prod.exists, SortedMap.mem_entries_iff,
    eq_comm (a := item)]

/-- The settled balance of a side is paid to its key. -/
theorem exists_balanceItem {c : Snapshot} {item : SettlementItem} (h : item ∈ c.settlementItems)
    {role : Role} (hpart : item.part = Sweep.settledPart role) :
    ∃ value, item = balanceItem (Sweep.settledPart role) value (c.party role).paymentKey := by
  rcases mem_settlementItems.1 h with rfl | rfl | ⟨hash, invoice, -, rfl⟩
  · cases role with
    | funder => exact ⟨c.refund, rfl⟩
    | counterparty => cases hpart
  · cases role with
    | funder => cases hpart
    | counterparty => exact ⟨c.payment, rfl⟩
  · cases role <;> cases hpart

theorem exists_offeredItem {c : Snapshot} {item : SettlementItem} (h : item ∈ c.settlementItems)
    {hash : PaymentHash} (hpart : item.part = .offered hash) :
    ∃ invoice, c.offered.get? hash = some invoice ∧ item = c.offeredItem hash invoice := by
  rcases mem_settlementItems.1 h with rfl | rfl | ⟨hash', invoice, hinvoice, rfl⟩
  · cases hpart
  · cases hpart
  · cases hpart
    exact ⟨invoice, hinvoice, rfl⟩

end Snapshot

/-- An output that is found by its part. -/
theorem Settlement.of_output? {s : Settlement} {part : SettlementPart} {o : SettlementOutput}
    (h : s.output? part = some o) : o ∈ s.outputs ∧ o.part = part := by
  have hpart := List.find?_some (p := fun o : SettlementOutput => o.part == part) h
  exact ⟨List.mem_of_find?_eq_some h, eq_of_beq hpart⟩

/-- An output of a settlement stands at its position and pays an item of the state. -/
theorem Settlement.Built.exists_item {s : Settlement} {c : Snapshot} {p : Params}
    (h : s.Built c p) {o : SettlementOutput} (ho : o ∈ s.outputs) :
    ∃ n, ∃ item ∈ c.settlementItems,
      o = ⟨item.part, UInt32.ofNat n, item.value, item.scriptCode⟩ ∧
        s.template.outputs[n]? = some ⟨item.value, item.lock⟩ := by
  obtain ⟨n, hn⟩ := List.mem_iff_getElem?.1 ho
  obtain ⟨item, hitem, heq, houtput⟩ := h.exists_paidItem hn
  exact ⟨n, item, List.mem_of_mem_filter hitem, heq, houtput⟩

theorem Amount.toNat_minus (a b : Amount) : (a.minus b).toNat = a.toNat - b.toNat := by
  unfold minus sub?
  by_cases hle : b ≤ a
  · rw [if_pos hle, Option.getD_some, UInt64.toNat_sub_of_le _ _ hle]
  · rw [if_neg hle, Option.getD_none]
    have hlt := UInt64.lt_iff_toNat_lt.1 (UInt64.not_le.1 hle)
    exact (Nat.sub_eq_zero_of_le hlt.le).symm

theorem Amount.minus_le (a b : Amount) : a.minus b ≤ a := by
  rw [UInt64.le_iff_toNat_le, toNat_minus]
  exact Nat.sub_le _ _

namespace Sweep

section Inputs

variable {s : Settlement} {c : Snapshot} {p : Params} {secrets : Secrets} {role : Role}
  {options : SweepOptions} {i : SweepInput}

/-- The settled balance of a side can be unlocked by its key. -/
theorem opened_of_settled (hbuilt : s.Built c p) {o : SettlementOutput}
    (h : s.output? (settledPart role) = some o) (lockTime : UInt32) :
    (input o .payout).Opened (c.party role).paymentKey lockTime ∧
      ∃ n, (input o .payout).vout = UInt32.ofNat n ∧
        s.template.outputs[n]? = some ((input o .payout).spends (c.party role).paymentKey) := by
  obtain ⟨hmem, hpart⟩ := Settlement.of_output? h
  obtain ⟨n, item, hitem, rfl, houtput⟩ := hbuilt.exists_item hmem
  obtain ⟨value, rfl⟩ := Snapshot.exists_balanceItem hitem hpart
  exact ⟨.payout _ value, n, rfl, houtput⟩

/-- An offered payment that a side takes can be unlocked: the funder takes those that expired, the
counterparty those whose secret is known. -/
theorem opened_of_offered (hbuilt : s.Built c p)
    (hsecrets : ∀ hash secret, secrets.get? hash = some secret → secret.unlocks hash = true)
    (hexpiry : ∀ hash invoice, c.offered.get? hash = some invoice →
      LockTime.threshold ≤ invoice.expiry)
    (hvalid : options.includeInvalid = false) (hall : options.settledOnly = false)
    {o : SettlementOutput} (ho : o ∈ s.outputs)
    (h : offeredInput? c secrets role options o = some i) :
    i.Opened (c.party role).paymentKey (lockTime role options) ∧
      ∃ n, i.vout = UInt32.ofNat n ∧
        s.template.outputs[n]? = some (i.spends (c.party role).paymentKey) := by
  unfold offeredInput? at h
  split at h
  case h_2 => cases h
  case h_1 hash hpart =>
    simp only [Option.bind_eq_bind, Option.bind_eq_some_iff, Option.pure_def, Option.some.injEq] at h
    obtain ⟨invoice, hinvoice, unlock, hunlock, rfl⟩ := h
    obtain ⟨n, item, hitem, rfl, houtput⟩ := hbuilt.exists_item ho
    obtain ⟨invoice', hinvoice', rfl⟩ := Snapshot.exists_offeredItem hitem hpart
    obtain rfl : invoice = invoice' := Option.some.inj (hinvoice.symm.trans hinvoice')
    cases role with
    | funder =>
      simp only [unlock?, hvalid, Bool.false_or, Option.ite_none_right_eq_some] at hunlock
      obtain ⟨hexpired, hunlock⟩ := hunlock
      cases hunlock
      have hreached : invoice.expiry ≤ lockTime .funder options := by
        rw [lockTime, hall]
        exact of_decide_eq_true hexpired
      exact ⟨.refund _ _ (hexpiry hash invoice hinvoice) hreached, n, rfl, houtput⟩
    | counterparty =>
      simp only [unlock?, hvalid, Bool.false_or, Option.ite_none_right_eq_some,
        Option.isSome_iff_exists] at hunlock
      obtain ⟨⟨secret, hsecret⟩, hunlock⟩ := hunlock
      rw [hsecret] at hunlock
      cases hunlock
      have hhash : secret.paymentHash = hash := eq_of_beq (hsecrets hash secret hsecret)
      exact ⟨.claim _ _ hhash, n, rfl, houtput⟩

/-- All inputs of a sweep can be unlocked, and spend outputs of the settlement. -/
theorem opened_of_mem (hbuilt : s.Built c p)
    (hsecrets : ∀ hash secret, secrets.get? hash = some secret → secret.unlocks hash = true)
    (hexpiry : ∀ hash invoice, c.offered.get? hash = some invoice →
      LockTime.threshold ≤ invoice.expiry)
    (hvalid : options.includeInvalid = false) (h : i ∈ inputsOf s secrets role options) :
    i.Opened (c.party role).paymentKey (lockTime role options) ∧
      ∃ n, i.vout = UInt32.ofNat n ∧
        s.template.outputs[n]? = some (i.spends (c.party role).paymentKey) := by
  rcases List.mem_append.1 h with hsettled | hoffered
  · rw [Option.mem_toList, Option.map_eq_some_iff] at hsettled
    obtain ⟨o, ho, rfl⟩ := hsettled
    exact opened_of_settled hbuilt ho _
  · by_cases hall : options.settledOnly = true
    · rw [if_pos hall] at hoffered
      cases hoffered
    · rw [if_neg hall, hbuilt.snapshot] at hoffered
      obtain ⟨o, ho, hinput⟩ := List.mem_filterMap.1 hoffered
      exact opened_of_offered hbuilt hsecrets hexpiry hvalid (Bool.eq_false_iff.2 hall) ho hinput

end Inputs

/-! ## Building and signing a sweep -/

theorem totalValue_spends {inputs : List SweepInput} {total : Amount}
    (h : Amount.sum? (inputs.map (·.value)) = some total) (key : PublicKey) :
    Chain.totalValue (inputs.map (·.spends key)) = total := by
  have hvalues : (inputs.map (·.spends key)).map (·.value) = inputs.map (·.value) := by
    rw [List.map_map]
    rfl
  rw [← UInt64.toNat_inj, Chain.toNat_totalValue, hvalues, ← Amount.toNat_sum? h]
  exact Nat.mod_eq_of_lt total.toNat_lt

/-- The parts of a sweep by a side. -/
structure Built (w : Sweep) (s : Settlement) (txid : Txid) (secrets : Secrets) (role : Role)
    (options : SweepOptions) : Prop where
  inputs : w.inputs = inputsOf s secrets role options
  nonempty : w.inputs ≠ []
  paymentKey : w.paymentKey = (s.snapshot.party role).paymentKey
  lockTime : w.template.lockTime = lockTime role options
  template : w.template.inputs = w.inputs.map fun i =>
    { outpoint := ⟨txid, i.vout⟩, sequence := LockTime.enabledSequence }
  value : Chain.totalValue w.template.outputs ≤
    Chain.totalValue (w.inputs.map (·.spends w.paymentKey))

theorem Built.withSignatures {w : Sweep} {s : Settlement} {txid : Txid} {secrets : Secrets}
    {role : Role} {options : SweepOptions} (h : w.Built s txid secrets role options)
    (signatures : List ChannelSignature) :
    Built { w with signatures } s txid secrets role options :=
  ⟨h.inputs, h.nonempty, h.paymentKey, h.lockTime, h.template, h.value⟩

theorem built_of_build {w : Sweep} {s : Settlement} {txid : Txid} {secrets : Secrets} {role : Role}
    {options : SweepOptions} {p : Params} (h : build s txid secrets role options p = .ok w) :
    w.Built s txid secrets role options := by
  simp only [build] at h
  split at h
  · cases h
  · rename_i total hsum
    obtain ⟨hfee, heq⟩ := ite_error_eq_ok.1 h
    cases heq
    refine ⟨rfl, ?_, rfl, rfl, rfl, ?_⟩
    · intro hnil
      -- Without inputs there is nothing to pay, which does not exceed the fee.
      rw [show inputsOf s secrets role options = [] from hnil] at hsum
      cases hsum
      exact hfee (UInt64.le_trans (Amount.minus_le 0 p.fee) UInt64.zero_le)
    · rw [Chain.totalValue_singleton]
      show total.minus p.fee ≤ Chain.totalValue ((inputsOf s secrets role options).map _)
      rw [totalValue_spends hsum]
      exact Amount.minus_le total p.fee

variable [KeyScheme]

/-- Each input carries a signature of the key. -/
structure Signed (w : Sweep) (key : SecretKey) : Prop where
  paymentKey : key.publicKey = w.paymentKey
  length : w.signatures.length = w.inputs.length
  signature : ∀ index i sig, w.inputs[index]? = some i → w.signatures[index]? = some sig →
    w.template.signInput index i.scriptCode i.value .all key = .ok sig

theorem signed_of_sign {w w' : Sweep} {keys : ChannelKeys} (h : w.sign keys = .ok w') :
    w'.Signed keys.paymentKey ∧ ∃ signatures, w' = { w with signatures } := by
  simp only [sign, ite_error_eq_ok, bind_eq_ok, pure_eq_ok, mapM_eq_ok, ne_eq, not_not] at h
  obtain ⟨hkey, signatures, hsigs, rfl⟩ := h
  refine ⟨⟨hkey, ?_, ?_⟩, signatures, rfl⟩
  · have hlength := congrArg List.length hsigs
    rw [List.length_map, List.length_zipIdx, List.length_map] at hlength
    exact hlength.symm
  · intro index i sig hi hsig
    have hindex := congrArg (·[index]?) hsigs
    simp only [List.getElem?_map, List.getElem?_zipIdx, hi, Nat.zero_add, Option.map_some] at hindex
    change signatures[index]? = some sig at hsig
    rw [hsig] at hindex
    exact Option.some.inj hindex

/-- The owner of the payment key can sign a sweep. -/
theorem exists_sign {w : Sweep} {keys : ChannelKeys}
    (hkey : keys.paymentKey.publicKey = w.paymentKey)
    (hlength : w.template.inputs.length = w.inputs.length) : ∃ w', w.sign keys = .ok w' := by
  have hsign : ∀ entry ∈ w.inputs.zipIdx, ∃ sig, w.template.signInput entry.2 entry.1.scriptCode
      entry.1.value .all keys.paymentKey = .ok sig := by
    intro entry hentry
    have hlt : entry.2 < w.template.inputs.length := by
      rw [hlength]
      exact (List.mem_zipIdx' hentry).1
    rw [Transaction.signInput, Transaction.signatureHash, List.getElem?_eq_getElem hlt]
    exact ⟨_, rfl⟩
  obtain ⟨signatures, hsignatures⟩ := exists_mapM hsign
  refine ⟨{ w with signatures }, ?_⟩
  rw [sign, if_neg (not_not.2 hkey)]
  show w.inputs.zipIdx.mapM _ >>= _ = _
  rw [hsignatures]
  rfl

section Transaction

variable {w : Sweep} {key : SecretKey} {s : Settlement} {txid : Txid} {secrets : Secrets}
  {role : Role} {options : SweepOptions}

/-- The input that spends an output of the settlement with a signature. -/
def spendingInput (txid : Txid) (key : PublicKey) (i : SweepInput) (sig : ChannelSignature) :
    TxIn where
  outpoint := ⟨txid, i.vout⟩
  sequence := LockTime.enabledSequence
  witness := witness key i sig

/-- The transaction is the sweep's template with a witness on each input. -/
structure Completes (w : Sweep) (txid : Txid) (tx : Transaction) : Prop where
  agrees : w.template.Agrees tx
  spending : ∀ (index : Nat) (input : TxIn), tx.inputs[index]? = some input →
    ∃ i sig, w.inputs[index]? = some i ∧ w.signatures[index]? = some sig ∧
      input = spendingInput txid w.paymentKey i sig

theorem Signed.exists_transaction (h : w.Signed key)
    (hbuilt : w.Built s txid secrets role options) :
    ∃ tx, w.transaction = .ok tx ∧ w.Completes txid tx := by
  refine ⟨_, if_neg (not_not.2 h.length), ⟨rfl, rfl, rfl, ?_⟩, ?_⟩
  · have hwitnesses : w.template.inputs.length ≤
        (List.zipWith (witness w.paymentKey) w.inputs w.signatures).length := by
      rw [List.length_zipWith, h.length, hbuilt.template, List.length_map, Nat.min_self]
    simp only [List.map_zipWith]
    rw [← List.map_uncurry_zip_eq_zipWith]
    conv_lhs => rw [← List.map_fst_zip hwitnesses, List.map_map]
    rfl
  · intro index input hinput
    obtain ⟨bare, items, hbare, hitems, rfl⟩ := List.getElem?_zipWith_eq_some.1 hinput
    obtain ⟨i, sig, hi, hsig, rfl⟩ := List.getElem?_zipWith_eq_some.1 hitems
    rw [hbuilt.template, List.getElem?_map, hi] at hbare
    cases hbare
    exact ⟨i, sig, hi, hsig, rfl⟩

namespace Completes

variable {tx : Transaction}

omit [KeyScheme] in
theorem outpoints (h : w.Completes txid tx) (hbuilt : w.Built s txid secrets role options) :
    tx.inputs.map (·.outpoint) = w.inputs.map fun i => ⟨txid, i.vout⟩ := by
  have hmap := congrArg (·.map Prod.fst) h.agrees.inputs
  simp only [List.map_map, hbuilt.template] at hmap
  exact hmap.symm

omit [KeyScheme] in
theorem sequence (h : w.Completes txid tx) {input : TxIn} (hinput : input ∈ tx.inputs) :
    input.sequence = LockTime.enabledSequence := by
  obtain ⟨index, hindex⟩ := List.mem_iff_getElem?.1 hinput
  obtain ⟨i, sig, -, -, rfl⟩ := h.spending index input hindex
  rfl

/-- Each input passes the script of its output. -/
theorem verify [LawfulKeyScheme] (h : w.Completes txid tx) (hsigned : w.Signed key)
    (hopened : ∀ i ∈ w.inputs, i.Opened w.paymentKey w.template.lockTime) {ctx : SpendContext}
    (hctx : ctx ∈ tx.spendContexts (w.inputs.map (·.spends w.paymentKey))) :
    ctx.verify = .ok () := by
  obtain ⟨rfl, hprevouts, hforScript⟩ := Transaction.forScript_of_mem_spendContexts hctx
  obtain ⟨i, sig, hi, hsig, hinput⟩ := h.spending ctx.index ctx.input hforScript.input
  have hspent := hforScript.spent
  rw [hprevouts, List.getElem?_map, hi] at hspent
  have hopen := hopened i (List.mem_of_getElem? hi)
  rw [h.agrees.lockTime] at hopen
  have hsequence : ctx.input.sequence = LockTime.enabledSequence := by
    rw [hinput]
    rfl
  have hwitness : ctx.input.witness = witness w.paymentKey i sig := by
    rw [hinput]
    rfl
  have hvalid : ctx.tx.verifyInput ctx.index i.scriptCode i.value sig w.paymentKey = .ok true := by
    rw [← hsigned.paymentKey]
    exact h.agrees.verifyInput_of_signInput (hsigned.signature ctx.index i sig hi hsig)
  exact hopen.verify hforScript (Option.some.inj hspent).symm hsequence hwitness hvalid

end Completes

/-- A signed sweep of unspent outputs that it can unlock is accepted. -/
theorem Signed.exists_validate [LawfulKeyScheme] (h : w.Signed key)
    (hbuilt : w.Built s txid secrets role options) {chain : Chain}
    (hopened : ∀ i ∈ w.inputs, i.Opened w.paymentKey w.template.lockTime)
    (hunspent : ∀ i ∈ w.inputs, chain.unspent? ⟨txid, i.vout⟩ = some (i.spends w.paymentKey) ∧
      (⟨txid, i.vout⟩ : OutPoint) ∉ chain.mempoolSpends)
    (hreached : chain.Reached w.template.lockTime) :
    ∃ tx, w.transaction = .ok tx ∧ chain.validate tx = .ok () := by
  obtain ⟨tx, htx, hcompletes⟩ := h.exists_transaction hbuilt
  have houtpoints := hcompletes.outpoints hbuilt
  obtain ⟨input, hinput⟩ : ∃ input, input ∈ tx.inputs := by
    apply List.exists_mem_of_ne_nil
    intro hnil
    rw [hnil] at houtpoints
    exact hbuilt.nonempty (List.map_eq_nil_iff.1 houtpoints.symm)
  have hspent : tx.inputs.map (fun input => chain.unspent? input.outpoint) =
      (w.inputs.map (·.spends w.paymentKey)).map some :=
    calc tx.inputs.map (fun input => chain.unspent? input.outpoint)
        = (tx.inputs.map (·.outpoint)).map chain.unspent? := by
          rw [List.map_map]
          rfl
      _ = w.inputs.map fun i => chain.unspent? ⟨txid, i.vout⟩ := by
          rw [houtpoints, List.map_map]
          rfl
      _ = w.inputs.map fun i => some (i.spends w.paymentKey) :=
          List.map_congr_left fun i hi => (hunspent i hi).1
      _ = (w.inputs.map (·.spends w.paymentKey)).map some := by
          rw [List.map_map]
          rfl
  refine ⟨tx, htx, Chain.validate_of_unspent (List.ne_nil_of_mem hinput) hspent ?_ ?_ ?_ ?_ ?_⟩
  · intro input hinput
    have hmem : input.outpoint ∈ tx.inputs.map (·.outpoint) := List.mem_map_of_mem hinput
    rw [houtpoints, List.mem_map] at hmem
    obtain ⟨i, hi, heq⟩ := hmem
    rw [← heq]
    exact (hunspent i hi).2
  · refine (Chain.isFinal_iff hinput ?_).2 ?_
    · rw [hcompletes.sequence hinput]
      decide
    · rw [← hcompletes.agrees.lockTime]
      exact hreached
  · intro input hinput
    rw [hcompletes.sequence hinput]
    decide
  · rw [← hcompletes.agrees.outputs]
    exact hbuilt.value
  · intro ctx hctx
    exact hcompletes.verify h hopened hctx

end Transaction

end Sweep

/-- A sweep that is made for the chain's time has a lock time that the chain has reached. -/
theorem Chain.reached_lockTime {c : Chain} (h : LockTime.threshold ≤ c.time) (role : Role)
    {options : SweepOptions} (htime : options.blockTime = c.time) :
    c.Reached (Sweep.lockTime role options) := by
  have hzero : c.Reached 0 := UInt32.zero_le
  cases role with
  | funder =>
    by_cases hsettled : options.settledOnly = true
    · rw [Sweep.lockTime, if_pos hsettled]
      exact hzero
    · rw [Sweep.lockTime, if_neg hsettled, htime, Reached, if_neg (UInt32.not_lt.2 h)]
      exact UInt32.le_refl _
  | counterparty => exact hzero

namespace Node

variable [KeyScheme]

/-- **Sweeps are accepted.** -/
theorem sweep_accepted [LawfulKeyScheme] (id : PeerId) (params : Params) (ops : List Operation)
    (partner : PeerId) (p : Params) (c : Snapshot) (s : SettleTx) (o : OutPoint) (tx : Transaction)
    (chain : Chain) (settledOnly : Bool) (sweep : Sweep) (n' : Node)
    (hbuild : Settlement.build c p = .ok s.document) (hspend : s.spend o = .ok tx)
    (hexpiry : ∀ hash invoice, c.offered.get? hash = some invoice →
      LockTime.threshold ≤ invoice.expiry)
    (hreachable : chain.Reachable)
    (hunspent : ∀ vout output, tx.outputs[vout]? = some output →
      chain.unspent? ⟨tx.txid, UInt32.ofNat vout⟩ = some output ∧
        (⟨tx.txid, UInt32.ofNat vout⟩ : OutPoint) ∉ chain.mempoolSpends)
    (hclose : ((create id params).run ops).closeAlone partner s.document tx.txid
      { settledOnly, includeInvalid := false, blockTime := chain.time } = (.ok sweep, n')) :
    ∃ tx', sweep.transaction = .ok tx' ∧ chain.validate tx' = .ok () := by
  have hbuilt := Settlement.built_of_build hbuild
  have houtputs : tx.outputs = s.document.template.outputs := by
    obtain ⟨f, g, -, -, -, rfl⟩ := (SettleTx.spend_eq_ok hbuilt).1 hspend
    rfl
  obtain ⟨d, w, -, hw, hsign, -⟩ := closeAlone_eq_ok hclose
  have hsweep := Sweep.built_of_build hw
  obtain ⟨hsigned, signatures, rfl⟩ := Sweep.signed_of_sign hsign
  have hsecrets := ((inv_create id params).run ops).secrets
  have hkey : w.paymentKey = (c.party d.role).paymentKey := by
    rw [hsweep.paymentKey, hbuilt.snapshot]
  have hopened (i : SweepInput) (hi : i ∈ w.inputs) :
      i.Opened w.paymentKey w.template.lockTime ∧ ∃ n, i.vout = UInt32.ofNat n ∧
        s.document.template.outputs[n]? = some (i.spends w.paymentKey) := by
    rw [hsweep.inputs] at hi
    rw [hkey, hsweep.lockTime]
    exact Sweep.opened_of_mem hbuilt hsecrets hexpiry rfl hi
  refine hsigned.exists_validate ⟨hsweep.inputs, hsweep.nonempty, hsweep.paymentKey,
    hsweep.lockTime, hsweep.template, hsweep.value⟩ (fun i hi => (hopened i hi).1) ?_ ?_
  · intro i hi
    obtain ⟨-, n, hvout, houtput⟩ := hopened i hi
    rw [hvout]
    exact hunspent n _ (houtputs ▸ houtput)
  · show chain.Reached w.template.lockTime
    rw [hsweep.lockTime]
    exact Chain.reached_lockTime hreachable.threshold_le d.role rfl

/-! ## A balance and a payment that expired -/

/-- A payment of 100000 units that expires with the first block. -/
def expiringInvoice : Invoice := ⟨0, FixedBytes.zero 20, 100000, 1500000000⟩

/-- A state with that payment on offer. -/
def offeringSnapshot (k : PartyKeys) : Snapshot :=
  { Snapshot.first 1000000 k k with
    refund := 600000
    payment := 300000
    offered := (∅ : SortedMap PaymentHash Invoice).insert expiringInvoice.hash expiringInvoice }

/-- The state with another expiry of the payment. -/
def offeringAt (k : PartyKeys) (expiry : UInt32) : Snapshot :=
  { offeringSnapshot k with
    offered := (∅ : SortedMap PaymentHash Invoice).insert expiringInvoice.hash
      { expiringInvoice with expiry } }

/-- A chain that holds the outputs of a transaction that spends its first coin. -/
def settledChain (tx : Transaction) : Chain :=
  ((((({} : Chain).fund 1000000).2.advance 19).apply tx).advance 1)

omit [KeyScheme] in
theorem unspent_settledChain {tx : Transaction} (hlength : tx.outputs.length ≤ UInt32.size)
    (vout : Nat) (output : TxOut) (h : tx.outputs[vout]? = some output) :
    (settledChain tx).unspent? ⟨tx.txid, UInt32.ofNat vout⟩ = some output ∧
      (⟨tx.txid, UInt32.ofNat vout⟩ : OutPoint) ∉ (settledChain tx).mempoolSpends := by
  constructor
  · rw [settledChain, Chain.unspent?_advance, Chain.unspent?, Chain.coins_apply _ hlength h]
    rfl
  · rw [settledChain, Chain.mempoolSpends_advance (by decide)]
    exact List.not_mem_nil

/-- A settlement of state 0 can spend the first coin once the default window is over. -/
theorem reachable_settledChain {c : Snapshot} {s : SettleTx} {tx : Transaction}
    (hbuilt : s.document.Built c {}) (hstate : c.state = 0) (hcapacity : c.capacity = 1000000)
    (hspend : s.spend (({} : Chain).fund 1000000).1 = .ok tx) : (settledChain tx).Reachable := by
  obtain ⟨f, g, -, -, -, htx⟩ := (SettleTx.spend_eq_ok hbuilt).1 hspend
  let chain := (({} : Chain).fund 1000000).2.advance 19
  let coin : Coin := ⟨⟨1000000, Chain.anyoneScript⟩, some 200⟩
  have hinputs : tx.inputs = [SettleTx.spendingInput {} f g s.document.updateScript
      (({} : Chain).fund 1000000).1] := by rw [htx]
  have hcoin : chain.coins.get? (({} : Chain).fund 1000000).1 = some coin := by
    rw [Chain.coins_advance (by decide), Chain.coins_fund]
    rfl
  have hfree : (({} : Chain).fund 1000000).1 ∉ chain.mempoolSpends := by
    rw [Chain.mempoolSpends_advance (by decide)]
    exact List.not_mem_nil
  have hvalidate : chain.validate tx = .ok () := by
    refine (Chain.validate_anyone hinputs hcoin hfree rfl).2 ⟨?_, ?_, ?_⟩
    · rw [SettleTx.isFinal_spending hinputs, htx]
      show chain.Reached s.document.template.lockTime
      rw [hbuilt.lockTime_eq, hstate]
      show 500000001 ≤ chain.time
      decide
    · rw [Chain.checkRelativeLocks_singleton (by rw [htx, ← hbuilt.version]) hinputs]
      refine (Chain.checkRelativeLock_blocks rfl rfl (by decide)).2 ?_
      show 200 + 20 ≤ 220
      decide
    · rw [htx]
      show Chain.totalValue s.document.template.outputs ≤ 1000000
      rw [← hcapacity]
      exact hbuilt.totalValue_le
  have hsubmit : chain.submit tx = .ok (tx.txid, chain.apply tx) := by
    rw [Chain.submit, hvalidate]
    rfl
  have htime : (chain.apply tx).time = 1500011400 := rfl
  have hclock : (chain.apply tx).time.toNat + UInt32.toNat 1 * Chain.blockInterval.toNat <
      UInt32.size := by
    rw [htime]
    decide
  exact (((Relation.ReflTransGen.refl.tail (.fund _ 1000000)).tail
    (.advance _ 19 (by decide))).tail (.submit hsubmit)).tail (.advance _ 1 hclock)

omit [KeyScheme] in
theorem conserved_offeringAt (k : PartyKeys) (expiry : UInt32) :
    (offeringAt k expiry).Conserved := by
  have hoffered : Invoice.sum (offeringAt k expiry).offered.values = 100000 := rfl
  rw [Snapshot.Conserved, hoffered]
  show UInt64.toNat 600000 + UInt64.toNat 300000 + 100000 = UInt64.toNat 1000000
  decide

omit [KeyScheme] in
theorem conserved_offeringSnapshot (k : PartyKeys) : (offeringSnapshot k).Conserved :=
  conserved_offeringAt k 1500000000

omit [KeyScheme] in
/-- The funder of the state takes its balance and the payment. -/
theorem inputsOf_offering {k : PartyKeys} {expiry : UInt32} (hexpiry : expiry ≤ 1500012000)
    {s : Settlement} (h : s.Built (offeringAt k expiry) {}) (secrets : Secrets) :
    Sweep.inputsOf s secrets .funder { blockTime := 1500012000 } =
      [⟨0, 600000, Script.payoutCode k.paymentKey, .payout⟩,
        ⟨2, 100000, Script.payment k.paymentKey k.paymentKey (FixedBytes.zero 20) expiry,
          .refund⟩] := by
  have hexpired : LockTime.isExpired expiry 1500012000 = true := decide_eq_true hexpiry
  have hunlock : Sweep.unlock? secrets .funder { blockTime := 1500012000 } (FixedBytes.zero 20)
      { expiringInvoice with expiry } = some .refund := by
    rw [Sweep.unlock?, Invoice.isExpired, hexpired]
    rfl
  have hoffered : Sweep.offeredInput? (offeringAt k expiry) secrets .funder
      { blockTime := 1500012000 } ⟨.offered (FixedBytes.zero 20), 2, 100000,
        Script.payment k.paymentKey k.paymentKey (FixedBytes.zero 20) expiry⟩ =
      some ⟨2, 100000, Script.payment k.paymentKey k.paymentKey (FixedBytes.zero 20) expiry,
        .refund⟩ := by
    show (Sweep.unlock? secrets .funder { blockTime := 1500012000 } (FixedBytes.zero 20)
      { expiringInvoice with expiry } >>= _) = _
    rw [hunlock]
    rfl
  rw [Sweep.inputsOf, Settlement.output?, h.layout, h.snapshot]
  exact congrArg (_ :: ·) (List.filterMap_cons_some hoffered)

omit [KeyScheme] in
theorem exists_build_offering {k : PartyKeys} {expiry : UInt32} (hexpiry : expiry ≤ 1500012000)
    {s : Settlement} (h : s.Built (offeringAt k expiry) {}) (txid : Txid) (secrets : Secrets) :
    ∃ w, Sweep.build s txid secrets .funder { blockTime := 1500012000 } {} = .ok w ∧
      w.inputs.map (·.unlock) = [.payout, .refund] := by
  have hsum : Amount.sum? [600000, 100000] = some 700000 := by decide
  have hfee : ¬ Amount.minus 700000 ({} : Params).fee ≤ ({} : Params).fee := by decide
  rw [Sweep.build, inputsOf_offering hexpiry h]
  simp only [List.map_cons, List.map_nil, hsum]
  rw [if_neg hfee]
  exact ⟨_, rfl, rfl⟩

/-- The owner of the keys in a channel can sweep the state of that channel. -/
theorem exists_closeAlone_offering {n : Node} {k : PartyKeys}
    (h : n.Holds {} ⟨1⟩ .funder (.first 1000000 k k)) {s : Settlement}
    (hbuilt : s.Built (offeringSnapshot k) {}) (txid : Txid) :
    ∃ sweep n', n.closeAlone ⟨1⟩ s txid { blockTime := 1500012000 } = (.ok sweep, n') ∧
      sweep.inputs.map (·.unlock) = [.payout, .refund] := by
  obtain ⟨hparams, d, hd, hready⟩ := h
  obtain ⟨w, hw, hunlocks⟩ := exists_build_offering (by decide) hbuilt txid n.secrets
  have hsweep := Sweep.built_of_build hw
  have hkey : d.keys.paymentKey.publicKey = w.paymentKey := by
    rw [hsweep.paymentKey, hbuilt.snapshot]
    exact ChannelKeys.paymentKey_of_publish hready.keys
  obtain ⟨sweep, hsign⟩ := Sweep.exists_sign hkey (by rw [hsweep.template, List.length_map])
  obtain ⟨-, signatures, hsweep'⟩ := Sweep.signed_of_sign hsign
  have hid : s.snapshot.channelId = d.snapshot.channelId := by
    rw [hbuilt.snapshot, hready.snapshot_eq]
    rfl
  have hsettles : checkSettles s d = .ok () := if_neg (not_not.2 hid)
  rw [closeAlone, Acting.get_bind, channel_eq_ok.2 hd, Acting.lift_ok_bind, hsettles,
    Acting.lift_ok_bind, hready.role_eq, hparams, hw, Acting.lift_ok_bind, hsign,
    Acting.lift_ok_bind, modifyChannel_bind_pure hd]
  exact ⟨sweep, _, rfl, by rw [hsweep']; exact hunlocks⟩

omit [KeyScheme] in
/-- With keys drawn from zeros and the default parameters, the funder sweeps its balance together
with a payment that expired. -/
theorem sweep_accepted_zeros :
    letI : KeyScheme := .secp256k1
    ∃ (ops : List Operation) (c : Snapshot) (s : SettleTx) (o : OutPoint) (tx tx' : Transaction)
      (chain : Chain) (sweep : Sweep) (n' : Node), Settlement.build c {} = .ok s.document ∧
      s.spend o = .ok tx ∧ chain.Reachable ∧
      ((create ⟨0⟩ {}).run ops).closeAlone ⟨1⟩ s.document tx.txid { blockTime := chain.time } =
        (.ok sweep, n') ∧
      sweep.inputs.map (·.unlock) = [.payout, .refund] ∧ sweep.transaction = .ok tx' ∧
      chain.validate tx' = .ok () := by
  let _ : KeyScheme := .secp256k1
  have _ : LawfulKeyScheme := lawful_secp256k1
  obtain ⟨party, funder, reply, counterparty, txs, funder', k, next, hpropose, -, hcreate, hholds,
    -⟩ := exists_opening_zeros
  have hrun : (create ⟨0⟩ {}).run [.proposeChannel .zeros ⟨1⟩, .createChannel ⟨1⟩ reply] =
      funder' := by
    rw [run_cons (perform_of_ok (.proposeChannel .zeros ⟨1⟩) rfl hpropose),
      run_cons (perform_of_ok (.createChannel ⟨1⟩ reply) rfl hcreate)]
    rfl
  obtain ⟨d, -, hready⟩ := hholds.channel
  have hk : d.keys.publish 0 = .ok k := hready.keys
  have hparty (role : Role) : (offeringSnapshot k).party role = k := by cases role <;> rfl
  obtain ⟨s, hbuild, hspends⟩ :=
    SettleTx.exists_settlement_first hk (conserved_offeringSnapshot k) rfl hparty 20
  obtain ⟨tx, hspend⟩ := hspends (({} : Chain).fund 1000000).1
  have hbuilt := Settlement.built_of_build hbuild
  have hreachable := reachable_settledChain hbuilt rfl rfl hspend
  have hlength : tx.outputs.length ≤ UInt32.size := by
    obtain ⟨f, g, -, -, -, rfl⟩ := (SettleTx.spend_eq_ok hbuilt).1 hspend
    show s.document.template.outputs.length ≤ UInt32.size
    rw [hbuilt.outputs, List.length_map]
    exact (List.length_filter_le _ _).trans (show 3 ≤ UInt32.size by decide)
  have hexpiry (hash : PaymentHash) (invoice : Invoice)
      (hinvoice : (offeringSnapshot k).offered.get? hash = some invoice) :
      LockTime.threshold ≤ invoice.expiry := by
    rw [← SortedMap.mem_entries_iff] at hinvoice
    cases List.mem_singleton.1 hinvoice
    decide
  have htime : (settledChain tx).time = 1500012000 := by
    show (1500011400 : UInt32) + Chain.blockInterval + (1 - 1) * Chain.blockInterval = 1500012000
    decide
  obtain ⟨sweep, n', hclose, hunlocks⟩ := exists_closeAlone_offering hholds hbuilt tx.txid
  rw [← hrun, ← htime] at hclose
  obtain ⟨tx', htx', haccepted⟩ := sweep_accepted ⟨0⟩ {} _ ⟨1⟩ {} (offeringSnapshot k) s _ tx
    (settledChain tx) false sweep n' hbuild hspend hexpiry hreachable
    (unspent_settledChain hlength) hclose
  exact ⟨_, _, s, _, tx, tx', settledChain tx, sweep, n', hbuild, hspend, hreachable, hclose,
    hunlocks, htx', haccepted⟩

end Node

end Supersede
