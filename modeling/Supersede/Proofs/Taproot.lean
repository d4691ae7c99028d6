import Supersede.Proofs.Unlocking
import Supersede.Chain.Spend
import Supersede.Taproot.Output

/-!
# Spending the leaves of a taproot output

**Theorem (`Taproot.leaves_open_iff`).** Each leaf of a state output and of a payment output is
spent by its own witness under exactly the conditions of its script: a signature for the internal
key in a mode other than `all`, after a lock time or a dispute window; the preimage of a payment
hash with the receiver's signature; or the sender's signature after the expiry.

The proof has two halves. The first is about commitments: a control block is read back as it was
written (`ControlBlock.ofBytes_toBytes`), and since a node hashes its subtrees in either order
(`branchHash_comm`), either leaf with the hash of the other leads to the root that the output key
commits to. The second runs the four leaves, which are single blocks.
-/

namespace Supersede

open Result

/-! ## Commitments -/

namespace Taproot

/-- The hash of a node does not depend on the order of its subtrees. -/
theorem branchHash_comm (a b : Hash256) : branchHash a b = branchHash b a := by
  have hswap : compare b a = (compare a b).swap := Std.OrientedCmp.eq_swap
  unfold branchHash
  rw [hswap]
  cases hab : compare a b with
  | lt => simp
  | gt => simp
  | eq =>
    obtain rfl := Std.LawfulEqOrd.eq_of_compare hab
    rfl

namespace ControlBlock

theorem length_path (path : List Hash256) :
    (path.flatMap (·.toBytes)).length = 32 * path.length := by
  induction path with
  | nil => rfl
  | cons h path ih =>
    rw [List.flatMap_cons, List.length_append, ih, FixedBytes.length_toBytes, List.length_cons]
    omega

theorem readPath_flatMap (path : List Hash256) :
    readPath path.length (path.flatMap (·.toBytes)) = path := by
  induction path with
  | nil => rfl
  | cons h path ih =>
    have hlength : h.toBytes.length = 32 := h.length_toBytes
    rw [List.flatMap_cons, List.length_cons, readPath, List.take_left' hlength,
      List.drop_left' hlength, FixedBytes.ofBytes?_toBytes, ih]

/-- The control block can be read back: its version leaves the lowest bit to the parity and is not
the one kept for annexes, and its path is not too long. -/
structure Readable (c : ControlBlock) : Prop where
  even : c.leafVersion &&& 0xfe = c.leafVersion
  version : c.leafVersion ≠ 0x50
  depth : c.path.length ≤ maxDepth

theorem ofBytes_toBytes {c : ControlBlock} (h : c.Readable) : ofBytes c.toBytes = .ok c := by
  have hkey := c.internalKey.length_toBytes
  have hlength : (c.internalKey.toBytes ++ c.path.flatMap (·.toBytes)).length =
      32 * (c.path.length + 1) := by
    rw [List.length_append, hkey, length_path]
    omega
  have hnodes : 32 * (c.path.length + 1) / 32 - 1 = c.path.length := by omega
  have hdistrib (v w mask : UInt8) : (v ||| w) &&& mask = (v &&& mask) ||| (w &&& mask) :=
    UInt8.toBitVec_inj.1 BitVec.and_or_distrib_right
  have hlow : c.leafVersion &&& 1 = 0 := by
    rw [← h.even, UInt8.and_assoc]
    exact UInt8.and_zero
  -- The first byte holds the version and, in the bit that the version leaves free, the parity.
  have hversion : (c.leafVersion ||| if c.outputOdd then 1 else 0) &&& 0xfe = c.leafVersion := by
    have hclear : (if c.outputOdd then 1 else 0 : UInt8) &&& 0xfe = 0 := by
      cases c.outputOdd <;> decide
    rw [hdistrib, h.even, hclear, UInt8.or_zero]
  have hparity : decide ((c.leafVersion ||| if c.outputOdd then 1 else 0) &&& 1 = 1) =
      c.outputOdd := by
    rw [hdistrib, hlow]
    cases c.outputOdd <;> decide
  show ofBytes (_ :: (c.internalKey.toBytes ++ c.path.flatMap (·.toBytes))) = _
  simp only [ofBytes, hlength, hversion, hparity, hnodes, List.take_left' hkey,
    List.drop_left' hkey, XOnlyKey.ofBytes?_toBytes, readPath_flatMap, if_neg h.version]
  rw [if_neg (by omega), if_neg (Nat.not_lt.2 h.depth)]

theorem root_of_path {c : ControlBlock} {leaf : Bytes} {node : Hash256} (h : c.path = [node]) :
    c.root leaf = branchHash (Transaction.leafHashOf c.leafVersion leaf) node := by
  rw [root, h]
  rfl

theorem commits_of_root [KeyScheme] {c : ControlBlock} {leaf : Bytes} {key : PublicKey}
    (h : outputKey? c.internalKey (c.root leaf) = some key) (hodd : key.odd = c.outputOdd) :
    c.commits key.toXOnly leaf = true := by
  rw [commits, h]
  simp [hodd]

end ControlBlock

end Taproot

open Taproot Script

namespace TwoLeafOutput

variable [KeyScheme] {o : TwoLeafOutput} {internalKey : XOnlyKey} {first second : Bytes}

omit [KeyScheme] in
theorem readable_controlBlock (o : TwoLeafOutput) (sibling : Bytes) :
    (o.controlBlock sibling).Readable where
  even := by
    show Transaction.leafVersion &&& 0xfe = Transaction.leafVersion
    decide
  version := by
    show Transaction.leafVersion ≠ 0x50
    decide
  depth := by
    show 1 ≤ ControlBlock.maxDepth
    decide

/-- The output key commits to the root over the leaf and its sibling. -/
def CommitsTo (o : TwoLeafOutput) (leaf sibling : Bytes) : Prop :=
  outputKey? o.internalKey (branchHash (Transaction.leafHash leaf) (Transaction.leafHash sibling)) =
    some o.outputKey

-- Stated of the function and not of its values: to compare a value with the match, the hash in its
-- discriminant would have to be computed.
omit [KeyScheme] in
theorem build_def : @build = fun [KeyScheme] internalKey first second =>
    let root := branchHash (Transaction.leafHash first) (Transaction.leafHash second)
    match outputKey? internalKey root with
    | some outputKey => .ok ⟨internalKey, outputKey, first, second⟩
    | none => .error (.signing (.taproot "tweak is out of range")) := by
  delta build
  rfl

theorem build_eq_ok (h : build internalKey first second = .ok o) :
    o.internalKey = internalKey ∧ o.first = first ∧ o.second = second ∧
      o.CommitsTo first second := by
  unfold CommitsTo
  rw [build_def] at h
  dsimp only at h
  generalize branchHash (Transaction.leafHash first) (Transaction.leafHash second) = root at h ⊢
  cases hkey : outputKey? internalKey root with
  | none =>
    rw [hkey] at h
    cases h
  | some outputKey =>
    rw [hkey] at h
    cases h
    exact ⟨rfl, rfl, rfl, hkey⟩

theorem CommitsTo.symm {leaf sibling : Bytes} (h : o.CommitsTo leaf sibling) :
    o.CommitsTo sibling leaf := by
  rw [CommitsTo, branchHash_comm]
  exact h

theorem CommitsTo.commits {leaf sibling : Bytes} (h : o.CommitsTo leaf sibling) :
    (o.controlBlock sibling).commits o.outputKey.toXOnly leaf = true := by
  refine ControlBlock.commits_of_root ?_ rfl
  rw [ControlBlock.root_of_path rfl]
  exact h

end TwoLeafOutput

/-! ## Leaf scripts -/

namespace Script

/-- The code of a leaf with a time lock: the lock, then the check of a signature for the key that an
instruction pushes. -/
def timedCode (n : Nat) (check : Op) (push : Instruction) : List Instruction :=
  [.number n, .op check, .op .drop, push, .op .checkSig]

/-- The code of the leaf by which the receiver takes a payment. -/
def claimLeafCode (hash : Hash160) (key : XOnlyKey) : List Instruction :=
  [.op .hash160, .push hash.toBytes, .op .equalVerify, .push key.toBytes, .op .checkSig]

theorem readable_timedCode (n : Nat) {check : Op} {push : Instruction}
    (hcheck : check = .checkLockTime ∨ check = .checkSequence) (hpush : push.Readable) :
    ∀ i ∈ timedCode n check push, i.Readable := by
  simp only [timedCode, List.forall_mem_cons, Instruction.readable_number, hpush, true_and]
  rcases hcheck with rfl | rfl <;> decide

theorem isBlock_timedCode (n : Nat) {check : Op} {push : Instruction}
    (hcheck : check = .checkLockTime ∨ check = .checkSequence)
    (hpush : push.isConditional = false) : IsBlock (timedCode n check push) := by
  rcases hcheck with rfl | rfl <;> simp [IsBlock, timedCode, Op.isConditional, hpush]

theorem readable_claimLeafCode (hash : Hash160) (key : XOnlyKey) :
    ∀ i ∈ claimLeafCode hash key, i.Readable := by
  have hhash : (Instruction.push hash.toBytes).Readable := readable_push_fixed (by decide) hash
  have hkey : (Instruction.push key.toBytes).Readable := readable_push_fixed (by decide) _
  simp only [claimLeafCode, List.forall_mem_cons, hhash, hkey, true_and]
  decide

theorem isBlock_claimLeafCode (hash : Hash160) (key : XOnlyKey) :
    IsBlock (claimLeafCode hash key) := by
  simp [IsBlock, claimLeafCode, Op.isConditional]

end Script

namespace SpendContext

variable [KeyScheme] {ctx : SpendContext} {internalKey key : XOnlyKey} {leaf : Bytes}

/-- The signature of the leaf is valid for the internal key, in a mode in which leaves are
signed. -/
def SignsLeaf (ctx : SpendContext) (leaf : Bytes) (internalKey : XOnlyKey)
    (sig : TapscriptSignature) : Prop :=
  sig.mode ≠ .all ∧ ctx.tx.verifyTapscript ctx.index ctx.spent leaf sig internalKey = .ok true

/-- The signature of the leaf, which carries no mode, is valid for a key. -/
def SchnorrSigns (ctx : SpendContext) (leaf : Bytes) (key : XOnlyKey) (sig : SchnorrSignature) :
    Prop :=
  ∃ digest, ctx.tx.leafSignatureHash ctx.index ctx.prevouts leaf = .ok digest ∧
    KeyScheme.schnorrVerify key digest sig = true

/-- The context in which a leaf of a taproot output runs. -/
def atLeaf (ctx : SpendContext) (leaf : Bytes) (internalKey : XOnlyKey) : SpendContext :=
  { ctx with scriptCode := leaf, internalKey := some internalKey }

omit [KeyScheme] in
theorem lockTimePasses_atLeaf {lockTime : UInt32} :
    (ctx.atLeaf leaf internalKey).LockTimePasses lockTime ↔ ctx.LockTimePasses lockTime := by
  rw [lockTimePasses_iff, lockTimePasses_iff]
  rfl

omit [KeyScheme] in
theorem sequencePasses_atLeaf {blocks : UInt16} :
    (ctx.atLeaf leaf internalKey).SequencePasses blocks ↔ ctx.SequencePasses blocks := by
  rw [sequencePasses_iff, sequencePasses_iff]
  rfl

omit [KeyScheme] in
theorem liftResult_eq_ok {α : Type} {r : Result α} {a : α} :
    liftResult r = .ok a ↔ r = .ok a := by
  cases r <;> simp [liftResult]

/-- No leaf is signed in the mode that commits to everything. -/
theorem signsLeaf_iff {sig : TapscriptSignature} : ctx.SignsLeaf leaf internalKey sig ↔
    ctx.tx.verifyTapscript ctx.index ctx.spent leaf sig internalKey = .ok true := by
  rw [SignsLeaf, and_iff_right_iff_imp]
  intro hvalid hmode
  rw [Transaction.verifyTapscript, map_eq_ok] at hvalid
  obtain ⟨digest, hdigest, -⟩ := hvalid
  rw [Transaction.tapscriptHash] at hdigest
  cases hinput : ctx.tx.inputs[ctx.index]? with
  | none =>
    simp only [hinput] at hdigest
    cases hdigest
  | some input =>
    simp only [hinput, ite_error_eq_ok, hmode] at hdigest
    exact hdigest.1 rfl

omit [KeyScheme] in
theorem valid_eq_ok {valid : Bool} :
    (if valid then pure true else .error .invalidLeafSignature : Except Fault Bool) = .ok true ↔
      valid = true := by
  cases valid <;> simp [pure_eq_ok]

/-- The byte `1` stands for the internal key. -/
theorem checkLeafSig_internal {sig : TapscriptSignature} :
    (ctx.atLeaf leaf internalKey).checkLeafSig internalKey sig.toBytes [0x01] = .ok true ↔
      ctx.SignsLeaf leaf internalKey sig := by
  have hsig := sig.toBytes_ne_nil
  have hread : liftResult (TapscriptSignature.ofBytes sig.toBytes) = .ok sig :=
    liftResult_eq_ok.2 sig.ofBytes_toBytes
  rw [signsLeaf_iff]
  simp only [checkLeafSig, if_neg hsig, if_true, hread, ok_bind, bind_eq_ok, valid_eq_ok,
    liftResult_eq_ok, exists_eq_right]
  rfl

/-- Any other key is checked for a signature without a mode. -/
theorem checkLeafSig_key (internalKey : XOnlyKey) {sig : SchnorrSignature} :
    (ctx.atLeaf leaf internalKey).checkLeafSig internalKey sig.toBytes key.toBytes = .ok true ↔
      ctx.SchnorrSigns leaf key sig := by
  have hsig : sig.toBytes ≠ [] := by
    intro h
    have hlength := sig.length_toBytes
    rw [h] at hlength
    cases hlength
  have hkey : key.toBytes ≠ [0x01] := by
    intro h
    have hlength := key.length_toBytes
    rw [h] at hlength
    cases hlength
  simp only [checkLeafSig, if_neg hsig, if_neg hkey, key.length_toBytes, if_true,
    XOnlyKey.ofBytes?_toBytes, FixedBytes.ofBytes?_toBytes, bind_eq_ok, ok_bind, valid_eq_ok,
    liftResult_eq_ok]
  rfl

/-- A leaf ends with the check of the signature that its witness holds. -/
theorem checkSig_leaf (sig item : Bytes) :
    (∃ left, (ctx.atLeaf leaf internalKey).block [item, sig] [.op .checkSig] = .ok [left] ∧
      ScriptNumber.isTrue left = true) ↔
      (ctx.atLeaf leaf internalKey).checkLeafSig internalKey sig item = .ok true := by
  have hcheck : (ctx.atLeaf leaf internalKey).block [item, sig] [.op .checkSig] =
      (ctx.atLeaf leaf internalKey).checkLeafSig internalKey sig item >>= fun valid =>
        .ok [ScriptNumber.ofBool valid] := by
    rw [block_cons]
    show ((ctx.atLeaf leaf internalKey).checkLeafSig internalKey sig item >>= fun valid => _) >>=
      _ = _
    cases (ctx.atLeaf leaf internalKey).checkLeafSig internalKey sig item <;> rfl
  rw [hcheck]
  simp only [bind_eq_ok, Except.ok.injEq, List.cons.injEq, and_true]
  constructor
  · rintro ⟨left, ⟨valid, hvalid, rfl⟩, htrue⟩
    cases valid with
    | false => cases htrue
    | true => exact hvalid
  · intro hvalid
    exact ⟨_, ⟨true, hvalid, rfl⟩, rfl⟩

/-! ## The four leaves -/

/-- Three of the four leaves differ only in their time lock and in their key. -/
theorem evaluate_timedCode {n : Nat} {check : Op} {push : Instruction} {sig item : Bytes}
    {passes : Prop} (hcheck : check = .checkLockTime ∨ check = .checkSequence)
    (hpush : push.Readable) (hplain : push.isConditional = false)
    (htime : ∀ {instructions : List Instruction} {stack rest : List Bytes},
      (ctx.atLeaf leaf internalKey).block stack (.number n :: .op check :: instructions) =
        .ok rest ↔ passes ∧ (ctx.atLeaf leaf internalKey).block (ScriptNumber.encode n :: stack)
          instructions = .ok rest)
    (hkey : (ctx.atLeaf leaf internalKey).executeOne [sig] push = .ok [item, sig]) :
    Machine.evaluate (ctx.atLeaf leaf internalKey) (encode (timedCode n check push)) [sig] =
      .ok () ↔
      (ctx.atLeaf leaf internalKey).checkLeafSig internalKey sig item = .ok true ∧ passes := by
  rw [Machine.evaluate_block (readable_timedCode n hcheck hpush)
    (isBlock_timedCode n hcheck hplain), ← checkSig_leaf, timedCode]
  simp only [htime, block_cons _ _ (.op .drop), block_cons _ _ push, executeOne_drop, hkey,
    ok_bind]
  constructor
  · rintro ⟨left, ⟨hpasses, hleft⟩, htrue⟩
    exact ⟨⟨left, hleft, htrue⟩, hpasses⟩
  · rintro ⟨⟨left, hleft, htrue⟩, hpasses⟩
    exact ⟨left, ⟨hpasses, hleft⟩, htrue⟩

theorem evaluate_updateLeaf {lockTime : UInt32} {sig : TapscriptSignature} :
    Machine.evaluate (ctx.atLeaf (updateLeaf lockTime) internalKey) (updateLeaf lockTime)
      [sig.toBytes] = .ok () ↔
      ctx.SignsLeaf (updateLeaf lockTime) internalKey sig ∧ ctx.LockTimePasses lockTime := by
  rw [← checkLeafSig_internal, ← lockTimePasses_atLeaf]
  exact evaluate_timedCode (.inl rfl) (Instruction.readable_number 1)
    (Instruction.isConditional_number 1) block_checkLockTime rfl

theorem evaluate_settleLeaf {window : UInt16} {sig : TapscriptSignature} :
    Machine.evaluate (ctx.atLeaf (settleLeaf window) internalKey) (settleLeaf window)
      [sig.toBytes] = .ok () ↔
      ctx.SignsLeaf (settleLeaf window) internalKey sig ∧ ctx.SequencePasses window := by
  rw [← checkLeafSig_internal, ← sequencePasses_atLeaf]
  exact evaluate_timedCode (.inr rfl) (Instruction.readable_number 1)
    (Instruction.isConditional_number 1) block_checkSequence rfl

theorem evaluate_refundLeaf {expiry : UInt32} {sig : SchnorrSignature} :
    Machine.evaluate (ctx.atLeaf (refundLeaf expiry key) internalKey) (refundLeaf expiry key)
      [sig.toBytes] = .ok () ↔
      ctx.SchnorrSigns (refundLeaf expiry key) key sig ∧ ctx.LockTimePasses expiry := by
  rw [← checkLeafSig_key internalKey, ← lockTimePasses_atLeaf]
  exact evaluate_timedCode (.inl rfl) (readable_push_fixed (by decide) _)
    (Instruction.isConditional_push key.toBytes) block_checkLockTime rfl

theorem evaluate_claimLeaf {hash : Hash160} {item : Bytes} {sig : SchnorrSignature} :
    Machine.evaluate (ctx.atLeaf (claimLeaf hash key) internalKey) (claimLeaf hash key)
      [item, sig.toBytes] = .ok () ↔
      hash160 item = hash ∧ ctx.SchnorrSigns (claimLeaf hash key) key sig := by
  rw [← checkLeafSig_key internalKey, ← checkSig_leaf]
  refine (Machine.evaluate_block (readable_claimLeafCode hash key)
    (isBlock_claimLeafCode hash key)).trans ?_
  simp only [claimLeafCode, block_preimage, block_cons _ _ (.push key.toBytes), executeOne_push,
    ok_bind]
  constructor
  · rintro ⟨left, ⟨hhash, hleft⟩, htrue⟩
    exact ⟨hhash, left, hleft, htrue⟩
  · rintro ⟨hhash, left, hleft, htrue⟩
    exact ⟨left, ⟨hhash, hleft⟩, htrue⟩

/-! ## Outputs -/

/-- The input spends an output of the given script and shows the given witness. -/
structure Shows (ctx : SpendContext) (script : Bytes) (witness : List Bytes) : Prop where
  script : ctx.spent.script = script
  witness : ctx.input.witness = witness

theorem Shows.verify_taproot {outputKey : XOnlyKey} {witness : List Bytes}
    (h : ctx.Shows (taproot outputKey) witness) : ctx.verify = ctx.verifyTaproot := by
  simp only [verify, h.script, kind_taproot]

/-- A leaf that the output key commits to is run on the other witness items. -/
theorem Shows.verifyTaproot_leaf {c : ControlBlock} {outputKey : XOnlyKey} {items : List Bytes}
    (h : ctx.Shows (taproot outputKey) (items ++ [leaf, c.toBytes])) (hread : c.Readable)
    (hcommits : c.commits outputKey leaf = true) :
    ctx.verifyTaproot = Machine.evaluate (ctx.atLeaf leaf c.internalKey) leaf items.reverse := by
  have hreverse : ctx.input.witness.reverse = c.toBytes :: leaf :: items.reverse := by
    rw [h.witness, List.reverse_append]
    rfl
  have hprogram : XOnlyKey.ofBytes? (ctx.spent.script.drop 2) = some outputKey := by
    rw [h.script, taproot_eq]
    exact outputKey.ofBytes?_toBytes
  simp only [verifyTaproot, hreverse, ControlBlock.ofBytes_toBytes hread, hprogram, hcommits,
    if_true]
  rfl

end SpendContext

namespace TwoLeafOutput

variable [KeyScheme] {o : TwoLeafOutput}

/-- The witness ends with a leaf and a control block by which the output commits to the leaf, and
it opens the output under exactly the given condition. -/
structure OpenedBy (o : TwoLeafOutput) (witness : List Bytes) (leaf : Bytes)
    (condition : SpendContext → Prop) : Prop where
  commits : ∃ items bytes control, witness = items ++ [leaf, bytes] ∧
    ControlBlock.ofBytes bytes = .ok control ∧ control.commits o.outputKey.toXOnly leaf = true
  opens : ∀ ctx : SpendContext, ctx.Shows o.script witness →
    ctx.verify = ctx.verifyTaproot ∧ (ctx.verifyTaproot = .ok () ↔ condition ctx)

theorem CommitsTo.openedBy {leaf sibling : Bytes} (h : o.CommitsTo leaf sibling)
    {items : List Bytes} {condition : SpendContext → Prop}
    (hleaf : ∀ ctx : SpendContext,
      Machine.evaluate (ctx.atLeaf leaf o.internalKey) leaf items.reverse = .ok () ↔
        condition ctx) :
    o.OpenedBy (items ++ [leaf, (o.controlBlock sibling).toBytes]) leaf condition := by
  have hread := o.readable_controlBlock sibling
  refine ⟨⟨items, _, _, rfl, ControlBlock.ofBytes_toBytes hread, h.commits⟩, ?_⟩
  intro ctx hshows
  refine ⟨hshows.verify_taproot, ?_⟩
  rw [hshows.verifyTaproot_leaf hread h.commits]
  exact hleaf ctx

end TwoLeafOutput

variable [KeyScheme]

/-- **What opens the leaves of a channel's taproot outputs.** -/
theorem Taproot.leaves_open_iff (stateKey : XOnlyKey) (lockTime : UInt32) (window : UInt16)
    (state : TaprootState) (hstate : TaprootState.build stateKey lockTime window = .ok state)
    (paymentKey : XOnlyKey) (hash : PaymentHash) (claimKey : XOnlyKey) (expiry : UInt32)
    (refundKey : XOnlyKey) (payment : TaprootPayment)
    (hpayment : TaprootPayment.build paymentKey hash claimKey expiry refundKey = .ok payment) :
    (∀ sig, state.output.OpenedBy (state.updateWitness sig) (updateLeaf lockTime) fun ctx =>
      ctx.SignsLeaf (updateLeaf lockTime) stateKey sig ∧ ctx.LockTimePasses lockTime) ∧
    (∀ sig, state.output.OpenedBy (state.settleWitness sig) (settleLeaf window) fun ctx =>
      ctx.SignsLeaf (settleLeaf window) stateKey sig ∧ ctx.SequencePasses window) ∧
    (∀ sig preimage, payment.output.OpenedBy (payment.claimWitness sig preimage)
      (claimLeaf hash claimKey) fun ctx =>
        hash160 ((preimage.map (·.toBytes)).getD []) = hash ∧
          ctx.SchnorrSigns (claimLeaf hash claimKey) claimKey sig) ∧
    (∀ sig, payment.output.OpenedBy (payment.refundWitness sig) (refundLeaf expiry refundKey)
      fun ctx => ctx.SchnorrSigns (refundLeaf expiry refundKey) refundKey sig ∧
        ctx.LockTimePasses expiry) := by
  obtain ⟨output, houtput, rfl⟩ := map_eq_ok.1 hstate
  obtain ⟨output', houtput', rfl⟩ := map_eq_ok.1 hpayment
  obtain ⟨rfl, hfirst, hsecond, hholds⟩ := TwoLeafOutput.build_eq_ok houtput
  obtain ⟨rfl, hfirst', hsecond', hholds'⟩ := TwoLeafOutput.build_eq_ok houtput'
  simp only [TaprootState.updateWitness, TaprootState.settleWitness, TaprootPayment.claimWitness,
    TaprootPayment.refundWitness, TwoLeafOutput.firstWitness, TwoLeafOutput.secondWitness, hfirst,
    hsecond, hfirst', hsecond']
  refine ⟨fun sig => ?_, fun sig => ?_, fun sig preimage => ?_, fun sig => ?_⟩
  · exact hholds.openedBy fun ctx => SpendContext.evaluate_updateLeaf
  · exact hholds.symm.openedBy fun ctx => SpendContext.evaluate_settleLeaf
  · exact hholds'.openedBy fun ctx => SpendContext.evaluate_claimLeaf
  · exact hholds'.symm.openedBy fun ctx => SpendContext.evaluate_refundLeaf

/-! ## Outputs that every leaf opens -/

namespace SpendContext

/-- The only input of a transaction, with a relative lock of ten blocks, that shows a witness. -/
def showing (output : Bytes) (witness : List Bytes) : SpendContext where
  tx := ⟨2, 500000000, [{ outpoint := .null, sequence := 10, witness }], []⟩
  index := 0
  input := { outpoint := .null, sequence := 10, witness }
  spent := ⟨1000000, output⟩
  prevouts := [⟨1000000, output⟩]
  scriptCode := output

variable {output : Bytes} {witness : List Bytes}

omit [KeyScheme] in
theorem lockTimePasses_showing : (showing output witness).LockTimePasses 500000000 where
  kind := Iff.rfl
  reached := UInt32.le_refl 500000000
  enabled := by
    show (10 : UInt32) ≠ LockTime.finalSequence
    decide

omit [KeyScheme] in
theorem sequencePasses_showing : (showing output witness).SequencePasses 10 where
  version := Int32.le_refl 2
  enabled := by
    show (10 : UInt32) &&& LockTime.disableFlag = 0
    decide
  kind := by
    show (10 : UInt32) &&& LockTime.timeFlag = 0
    decide
  elapsed := by
    show (10 : UInt16).toUInt32 ≤ (10 : UInt32) &&& LockTime.lengthMask
    decide

-- The digests do not depend on the witness, so a witness can hold a signature of its transaction.

theorem exists_signsLeaf [LawfulKeyScheme] (output leaf : Bytes) (key : SecretKey) :
    ∃ sig, ∀ witness, (showing output witness).SignsLeaf leaf key.xOnlyKey sig := by
  have hsame (witness : List Bytes) :
      (showing output witness).tx.tapscriptHash 0 ⟨1000000, output⟩ leaf .anyPrevOut =
        (showing output []).tx.tapscriptHash 0 ⟨1000000, output⟩ leaf .anyPrevOut := rfl
  obtain ⟨digest, hdigest⟩ : ∃ digest,
      (showing output []).tx.tapscriptHash 0 ⟨1000000, output⟩ leaf .anyPrevOut = .ok digest :=
    ⟨_, rfl⟩
  refine ⟨⟨KeyScheme.schnorrSign key digest, .anyPrevOut⟩, fun witness => signsLeaf_iff.2 ?_⟩
  exact map_eq_ok.2 ⟨digest, (hsame witness).trans hdigest,
    LawfulKeyScheme.schnorrVerify_sign key digest⟩

theorem exists_schnorrSigns [LawfulKeyScheme] (output leaf : Bytes) (key : SecretKey) :
    ∃ sig, ∀ witness, (showing output witness).SchnorrSigns leaf key.xOnlyKey sig := by
  have hsame (witness : List Bytes) :
      (showing output witness).tx.leafSignatureHash 0 [⟨1000000, output⟩] leaf =
        (showing output []).tx.leafSignatureHash 0 [⟨1000000, output⟩] leaf := rfl
  obtain ⟨digest, hdigest⟩ : ∃ digest,
      (showing output []).tx.leafSignatureHash 0 [⟨1000000, output⟩] leaf = .ok digest :=
    ⟨_, rfl⟩
  exact ⟨KeyScheme.schnorrSign key digest, fun witness =>
    ⟨digest, (hsame witness).trans hdigest, LawfulKeyScheme.schnorrVerify_sign key digest⟩⟩

end SpendContext

theorem TwoLeafOutput.OpenedBy.verify_showing {o : TwoLeafOutput} {witness : List Bytes}
    {leaf : Bytes} {condition : SpendContext → Prop} (h : o.OpenedBy witness leaf condition)
    (hcondition : condition (.showing o.script witness)) :
    (SpendContext.showing o.script witness).verify = .ok () := by
  obtain ⟨hverify, hiff⟩ := h.opens (.showing o.script witness) ⟨rfl, rfl⟩
  rw [hverify]
  exact hiff.2 hcondition

open SpendContext in
omit [KeyScheme] in
/-- Outputs over the smallest secret key are built, and each of their leaves is opened. -/
theorem Taproot.leaves_open_sample :
    letI : KeyScheme := .secp256k1
    letI key := sampleKey.xOnlyKey
    ∃ state payment, TaprootState.build key 500000000 10 = .ok state ∧
      TaprootPayment.build key (hash160 []) key 500000000 key = .ok payment ∧
      (∃ sig, (showing state.output.script (state.updateWitness sig)).verify = .ok ()) ∧
      (∃ sig, (showing state.output.script (state.settleWitness sig)).verify = .ok ()) ∧
      (∃ sig, (showing payment.output.script (payment.claimWitness sig none)).verify = .ok ()) ∧
      ∃ sig, (showing payment.output.script (payment.refundWitness sig)).verify = .ok () := by
  let _ : KeyScheme := .secp256k1
  have _ : LawfulKeyScheme := lawful_secp256k1
  let key := sampleKey.xOnlyKey
  obtain ⟨state, hstate⟩ := exists_of_isOk
    (show (TaprootState.build key 500000000 10).isOk = true by decide +kernel)
  obtain ⟨payment, hpayment⟩ := exists_of_isOk
    (show (TaprootPayment.build key (hash160 []) key 500000000 key).isOk = true by decide +kernel)
  obtain ⟨hupdate, hsettle, hclaim, hrefund⟩ := Taproot.leaves_open_iff key 500000000 10 state
    hstate key (hash160 []) key 500000000 key payment hpayment
  have hsigned (leaf : Bytes) := exists_signsLeaf state.output.script leaf sampleKey
  have hsigned' (leaf : Bytes) := exists_schnorrSigns payment.output.script leaf sampleKey
  refine ⟨state, payment, hstate, hpayment, ?_, ?_, ?_, ?_⟩
  · obtain ⟨sig, hsig⟩ := hsigned (updateLeaf 500000000)
    exact ⟨sig, (hupdate sig).verify_showing ⟨hsig _, lockTimePasses_showing⟩⟩
  · obtain ⟨sig, hsig⟩ := hsigned (settleLeaf 10)
    exact ⟨sig, (hsettle sig).verify_showing ⟨hsig _, sequencePasses_showing⟩⟩
  · obtain ⟨sig, hsig⟩ := hsigned' (claimLeaf (hash160 []) key)
    exact ⟨sig, (hclaim sig none).verify_showing ⟨rfl, hsig _⟩⟩
  · obtain ⟨sig, hsig⟩ := hsigned' (refundLeaf 500000000 key)
    exact ⟨sig, (hrefund sig).verify_showing ⟨hsig _, lockTimePasses_showing⟩⟩

end Supersede
