import Supersede.Proofs.Execution

/-!
# What unlocks the scripts of a channel

**Theorem (`SpendContext.update_unlocked_iff`).** An update script is unlocked by exactly two kinds
of witness: two update signatures on a transaction whose lock time has reached the state's own, or
two settle signatures, above two items that are not both valid update signatures, on an input whose
relative lock spans the dispute window. Nothing may be left over, and a lock time or a window of
zero cannot be passed at all, since the number stays on the stack as the outcome.

**Theorem (`SpendContext.payment_unlocked_iff`).** A payment script is unlocked by a preimage of its
hash with the receiver's signature, or after its expiry by the sender's signature, and by nothing
else.

The proofs cut the scripts into blocks (`Script.updateCode_eq`, `Script.paymentCode_eq`) and say of
each block when it succeeds and with which stack.
-/

namespace Supersede

open Result

/-! ## The blocks of the scripts -/

namespace Script

/-- Pushes two keys with their counts. -/
def twoKeys (k k' : PublicKey) : List Instruction :=
  [.number 2, .push k.toBytes, .push k'.toBytes, .number 2]

/-- The check of both update signatures. -/
def updateCheck (keys : UpdateKeys) : List Instruction :=
  twoKeys keys.funderUpdate keys.otherUpdate ++ [.op .checkMultisig]

/-- The branch of an update script that pays the balances out. -/
def settleBranch (keys : UpdateKeys) (window : UInt16) : List Instruction :=
  twoKeys keys.funderSettle keys.otherSettle ++
    [.op .checkMultisigVerify, .number window.toNat, .op .checkSequence]

/-- The branch of an update script that passes the funds on to a later state. -/
def updateBranch (lockTime : UInt32) : List Instruction :=
  [.number lockTime.toNat, .op .checkLockTime]

theorem updateCode_eq (keys : UpdateKeys) (window : UInt16) (lockTime : UInt32) :
    updateCode keys window lockTime = updateCheck keys ++ .op .ifFalse ::
      (settleBranch keys window ++ .op .otherwise :: (updateBranch lockTime ++ [.op .endIf])) :=
  rfl

/-- The branch of a payment script that shows the secret. -/
def claimBranch (paymentKey : PublicKey) (hash : Hash160) : List Instruction :=
  [.op .hash160, .push hash.toBytes, .op .equalVerify, .push paymentKey.toBytes]

/-- The branch of a payment script that waits for the expiry. -/
def refundBranch (refundKey : PublicKey) (expiry : UInt32) : List Instruction :=
  [.number expiry.toNat, .op .checkLockTime, .op .drop, .push refundKey.toBytes]

theorem paymentCode_eq (refundKey paymentKey : PublicKey) (hash : Hash160) (expiry : UInt32) :
    paymentCode refundKey paymentKey hash expiry = .op .ifTrue ::
      (claimBranch paymentKey hash ++ .op .otherwise :: (refundBranch refundKey expiry ++
        [.op .endIf])) ++ [.op .checkSig] :=
  rfl

theorem isBlock_updateCheck (keys : UpdateKeys) : IsBlock (updateCheck keys) := by
  simp [IsBlock, updateCheck, twoKeys, Op.isConditional]

theorem isBlock_settleBranch (keys : UpdateKeys) (window : UInt16) :
    IsBlock (settleBranch keys window) := by
  simp [IsBlock, settleBranch, twoKeys, Op.isConditional]

theorem isBlock_updateBranch (lockTime : UInt32) : IsBlock (updateBranch lockTime) := by
  simp [IsBlock, updateBranch, Op.isConditional]

theorem isBlock_claimBranch (paymentKey : PublicKey) (hash : Hash160) :
    IsBlock (claimBranch paymentKey hash) := by
  simp [IsBlock, claimBranch, Op.isConditional]

theorem isBlock_refundBranch (refundKey : PublicKey) (expiry : UInt32) :
    IsBlock (refundBranch refundKey expiry) := by
  simp [IsBlock, refundBranch, Op.isConditional]

end Script

open Script

variable [KeyScheme]

namespace SpendContext

variable {ctx : SpendContext} {script : Bytes}

theorem block_twoKeys (ctx : SpendContext) (k k' : PublicKey) (stack : List Bytes)
    (instructions : List Instruction) :
    ctx.block stack (twoKeys k k' ++ instructions) = ctx.block (ScriptNumber.encode 2 ::
      k'.toBytes :: k.toBytes :: ScriptNumber.encode 2 :: stack) instructions := by
  simp only [twoKeys, List.cons_append, List.nil_append, block_cons, executeOne_number,
    executeOne_push, ok_bind]

/-- The check of the update signatures takes two items and leaves its outcome. -/
theorem ForScript.block_updateCheck (h : ctx.ForScript script) {keys : UpdateKeys}
    {stack rest : List Bytes} :
    ctx.block stack (updateCheck keys) = .ok rest ↔ ∃ a b valid rest',
      stack = b :: a :: [] :: rest' ∧ rest = ScriptNumber.ofBool valid :: rest' ∧
      (valid = true ↔ ctx.Accepts a keys.funderUpdate ∧ ctx.Accepts b keys.otherUpdate) := by
  rw [updateCheck, block_twoKeys, block_cons, bind_eq_ok]
  constructor
  · rintro ⟨stack', hcheck, heq⟩
    obtain rfl : stack' = rest := Except.ok.inj heq
    obtain ⟨valid, rest', hmultisig, rfl⟩ := executeOne_checkMultisig.1 hcheck
    obtain ⟨a, b, hstack, hvalid⟩ := (h.checkMultisig_two _ _ _ _ _).1 hmultisig
    exact ⟨a, b, valid, rest', hstack, rfl, hvalid⟩
  · rintro ⟨a, b, valid, rest', hstack, rfl, hvalid⟩
    have hcheck := (h.checkMultisig_two _ _ _ _ _).2 ⟨a, b, hstack, hvalid⟩
    exact ⟨_, executeOne_checkMultisig.2 ⟨valid, rest', hcheck, rfl⟩, rfl⟩

/-- The settle branch takes two valid signatures and leaves the window. -/
theorem ForScript.block_settleBranch (h : ctx.ForScript script) {keys : UpdateKeys}
    {window : UInt16} {stack rest : List Bytes} :
    ctx.block stack (settleBranch keys window) = .ok rest ↔ ∃ a b rest',
      stack = b :: a :: [] :: rest' ∧ rest = ScriptNumber.encode window.toNat :: rest' ∧
      ctx.Accepts a keys.funderSettle ∧ ctx.Accepts b keys.otherSettle ∧
      ctx.SequencePasses window := by
  rw [settleBranch, block_twoKeys, block_cons, bind_eq_ok]
  constructor
  · rintro ⟨rest', hcheck, hrest⟩
    obtain ⟨hpasses, heq⟩ := block_checkSequence.1 hrest
    obtain ⟨a, b, hstack, hvalid⟩ :=
      (h.checkMultisig_two _ _ _ _ _).1 (executeOne_checkMultisigVerify.1 hcheck)
    obtain ⟨ha, hb⟩ := hvalid.1 rfl
    exact ⟨a, b, rest', hstack, (Except.ok.inj heq).symm, ha, hb, hpasses⟩
  · rintro ⟨a, b, rest', hstack, rfl, ha, hb, hpasses⟩
    have hcheck := (h.checkMultisig_two keys.funderSettle keys.otherSettle stack rest' true).2
      ⟨a, b, hstack, by simp [ha, hb]⟩
    exact ⟨rest', executeOne_checkMultisigVerify.2 hcheck, block_checkSequence.2 ⟨hpasses, rfl⟩⟩

/-- The update branch leaves the lock time. -/
theorem block_updateBranch {lockTime : UInt32} {stack rest : List Bytes} :
    ctx.block stack (updateBranch lockTime) = .ok rest ↔
      ctx.LockTimePasses lockTime ∧ ScriptNumber.encode lockTime.toNat :: stack = rest := by
  rw [updateBranch, block_checkLockTime, block_nil, Except.ok.injEq]

/-- The refund branch leaves the sender's key. -/
theorem block_refundBranch {refundKey : PublicKey} {expiry : UInt32} {stack rest : List Bytes} :
    ctx.block stack (refundBranch refundKey expiry) = .ok rest ↔
      ctx.LockTimePasses expiry ∧ refundKey.toBytes :: stack = rest := by
  rw [refundBranch, block_checkLockTime, block_cons, executeOne_drop, ok_bind, block_cons,
    executeOne_push, ok_bind, block_nil, Except.ok.injEq]

/-- The branch of the secret takes a preimage of the hash and leaves the receiver's key. -/
theorem block_claimBranch {paymentKey : PublicKey} {hash : Hash160} {stack rest : List Bytes} :
    ctx.block stack (claimBranch paymentKey hash) = .ok rest ↔ ∃ preimage rest',
      stack = preimage :: rest' ∧ hash160 preimage = hash ∧ paymentKey.toBytes :: rest' = rest := by
  cases stack with
  | nil => exact ⟨nofun, nofun⟩
  | cons preimage stack =>
    rw [claimBranch, block_preimage]
    constructor
    · rintro ⟨hhash, hrest⟩
      exact ⟨preimage, stack, rfl, hhash, Except.ok.inj hrest⟩
    · rintro ⟨preimage', stack', hstack, hhash, rfl⟩
      cases hstack
      exact ⟨hhash, rfl⟩

end SpendContext

/-! ## Whole scripts -/

namespace Machine

variable {ctx : SpendContext}

/-- The branch of an update script is chosen by the check of the update signatures. -/
theorem run_update (keys : UpdateKeys) (window : UInt16) (lockTime : UInt32)
    (stack : List Bytes) :
    run ctx { stack } (updateCode keys window lockTime) =
      ctx.block stack (updateCheck keys) >>= fun stack =>
        SpendContext.popCondition stack >>= fun (valid, stack) =>
          ctx.block stack (if valid then updateBranch lockTime else settleBranch keys window) >>=
            fun stack => .ok { stack } := by
  rw [updateCode_eq, run_append, run_block rfl (isBlock_updateCheck keys)]
  cases ctx.block stack (updateCheck keys) with
  | error e => rfl
  | ok stack' =>
    show run ctx { stack := stack' } _ = _
    rw [run_conditional rfl (fun _ => rfl) (isBlock_settleBranch keys window)
      (isBlock_updateBranch lockTime)]
    show _ = SpendContext.popCondition stack' >>= _
    cases SpendContext.popCondition stack' with
    | error e => rfl
    | ok popped =>
      obtain ⟨valid, stack''⟩ := popped
      cases valid <;> rfl

/-- The branch of a payment script is chosen by the top item. -/
theorem run_payment (refundKey paymentKey : PublicKey) (hash : Hash160) (expiry : UInt32)
    (stack : List Bytes) :
    run ctx { stack } (paymentCode refundKey paymentKey hash expiry) =
      SpendContext.popCondition stack >>= fun (claims, stack) =>
        ctx.block stack (if claims then claimBranch paymentKey hash
          else refundBranch refundKey expiry) >>= fun stack =>
            ctx.block stack [.op .checkSig] >>= fun stack => .ok { stack } := by
  have hcheckSig : IsBlock [.op .checkSig] := by simp [IsBlock, Op.isConditional]
  rw [paymentCode_eq, run_append, run_conditional rfl (fun _ => rfl)
    (isBlock_claimBranch paymentKey hash) (isBlock_refundBranch refundKey expiry)]
  show (SpendContext.popCondition stack >>= _) >>= _ = _
  cases SpendContext.popCondition stack with
  | error e => rfl
  | ok popped =>
    obtain ⟨claims, stack'⟩ := popped
    have hbranch : (if claims == true then claimBranch paymentKey hash
        else refundBranch refundKey expiry) = if claims then claimBranch paymentKey hash
        else refundBranch refundKey expiry := by
      cases claims <;> rfl
    show (ctx.block stack' _ >>= _) >>= _ = ctx.block stack' _ >>= _
    rw [hbranch]
    cases ctx.block stack' _ with
    | error e => rfl
    | ok stack'' => exact run_block rfl hcheckSig

end Machine

/-! ## Update scripts -/

namespace SpendContext

variable {ctx : SpendContext} {script : Bytes}

omit [KeyScheme] in
/-- A condition is the item of a truth value. -/
theorem popCondition_eq_ok {stack rest : List Bytes} {condition : Bool} :
    popCondition stack = .ok (condition, rest) ↔ stack = ScriptNumber.ofBool condition :: rest := by
  cases stack with
  | nil => exact ⟨nofun, nofun⟩
  | cons item stack =>
    show (if item = [] then _ else if item = [0x01] then _ else _) = _ ↔ _
    by_cases hitem : item = []
    · cases condition <;> simp [hitem, pure_eq_ok, ScriptNumber.ofBool]
    · by_cases hone : item = [0x01]
      · cases condition <;> simp [hone, pure_eq_ok, ScriptNumber.ofBool]
      · cases condition <;> simp [hitem, hone, ScriptNumber.ofBool]

omit [KeyScheme] in
theorem popCondition_ofBool (valid : Bool) (stack : List Bytes) :
    popCondition (ScriptNumber.ofBool valid :: stack) = .ok (valid, stack) :=
  popCondition_eq_ok.2 rfl

/-- An update script takes two items and an empty one; whether these are two valid update signatures
decides which branch has to succeed on the rest. -/
theorem ForScript.evaluate_update (h : ctx.ForScript script) {keys : UpdateKeys}
    {window : UInt16} {lockTime : UInt32} {stack : List Bytes} :
    Machine.evaluate ctx (update keys window lockTime) stack = .ok () ↔
      ∃ x y valid rest item, stack = y :: x :: [] :: rest ∧
        (valid = true ↔ ctx.Accepts x keys.funderUpdate ∧ ctx.Accepts y keys.otherUpdate) ∧
        ctx.block rest (if valid then updateBranch lockTime else settleBranch keys window) =
          .ok [item] ∧ ScriptNumber.isTrue item = true := by
  rw [Machine.evaluate_eq_ok (ofBytes_update keys window lockTime), Machine.run_update]
  simp only [bind_eq_ok]
  constructor
  · rintro ⟨m, ⟨checked, hcheck, ⟨valid, rest⟩, hpop, left, hbranch, heq⟩, hfinish⟩
    cases heq
    obtain ⟨item, rfl, htrue⟩ := Machine.finish_eq_ok.1 hfinish
    obtain ⟨x, y, valid', rest', hstack, rfl, hvalid⟩ := h.block_updateCheck.1 hcheck
    rw [popCondition_ofBool] at hpop
    cases hpop
    exact ⟨x, y, valid, rest, item, hstack, hvalid, hbranch, htrue⟩
  · rintro ⟨x, y, valid, rest, item, hstack, hvalid, hbranch, htrue⟩
    have hcheck := h.block_updateCheck.2 ⟨x, y, valid, rest, hstack, rfl, hvalid⟩
    exact ⟨{ stack := [item] }, ⟨_, hcheck, (valid, rest), popCondition_ofBool valid rest, [item],
      hbranch, rfl⟩, Machine.finish_eq_ok.2 ⟨item, rfl, htrue⟩⟩

/-- With two valid update signatures, the script asks for the lock time only. -/
theorem ForScript.evaluate_update_of_accepts (h : ctx.ForScript script) {keys : UpdateKeys}
    {window : UInt16} {lockTime : UInt32} {a b : Bytes} (ha : ctx.Accepts a keys.funderUpdate)
    (hb : ctx.Accepts b keys.otherUpdate) :
    Machine.evaluate ctx (update keys window lockTime) [b, a, []] = .ok () ↔
      ctx.LockTimePasses lockTime ∧ lockTime ≠ 0 := by
  rw [h.evaluate_update, ← ScriptNumber.isTrue_encode_toNat]
  constructor
  · rintro ⟨x, y, valid, rest, item, hstack, hvalid, hbranch, htrue⟩
    cases hstack
    obtain rfl : valid = true := hvalid.2 ⟨ha, hb⟩
    obtain ⟨hreached, heq⟩ := block_updateBranch.1 hbranch
    cases heq
    exact ⟨hreached, htrue⟩
  · rintro ⟨hreached, htrue⟩
    exact ⟨a, b, true, [], _, rfl, by simp [ha, hb], block_updateBranch.2 ⟨hreached, rfl⟩, htrue⟩

/-- Without them, it asks for two settle signatures and the dispute window. -/
theorem ForScript.evaluate_update_of_refused (h : ctx.ForScript script) {keys : UpdateKeys}
    {window : UInt16} {lockTime : UInt32} {a b x y : Bytes}
    (hrefused : ¬ (ctx.Accepts x keys.funderUpdate ∧ ctx.Accepts y keys.otherUpdate)) :
    Machine.evaluate ctx (update keys window lockTime) [y, x, [], b, a, []] = .ok () ↔
      ctx.Accepts a keys.funderSettle ∧ ctx.Accepts b keys.otherSettle ∧
        ctx.SequencePasses window ∧ window ≠ 0 := by
  rw [h.evaluate_update, ← ScriptNumber.isTrue_encode_blocks]
  constructor
  · rintro ⟨x', y', valid, rest, item, hstack, hvalid, hbranch, htrue⟩
    cases hstack
    obtain rfl : valid = false := Bool.eq_false_iff.2 (hvalid.not.2 hrefused)
    obtain ⟨a', b', rest', hstack, heq, ha, hb, helapsed⟩ := h.block_settleBranch.1 hbranch
    cases hstack
    cases heq
    exact ⟨ha, hb, helapsed, htrue⟩
  · rintro ⟨ha, hb, helapsed, htrue⟩
    have hbranch := h.block_settleBranch.2 ⟨a, b, [], rfl, rfl, ha, hb, helapsed⟩
    exact ⟨x, y, false, [b, a, []], _, rfl, by simpa using hrefused, hbranch, htrue⟩

/-- The witness items, first to last, that unlock an update script. -/
inductive UnlocksUpdate (ctx : SpendContext) (keys : UpdateKeys) (window : UInt16)
    (lockTime : UInt32) : List Bytes → Prop
  | update {a b : Bytes} (funder : ctx.Accepts a keys.funderUpdate)
      (other : ctx.Accepts b keys.otherUpdate) (reached : ctx.LockTimePasses lockTime)
      (nonzero : lockTime ≠ 0) : UnlocksUpdate ctx keys window lockTime [[], a, b]
  | settle {a b x y : Bytes}
      (refused : ¬ (ctx.Accepts x keys.funderUpdate ∧ ctx.Accepts y keys.otherUpdate))
      (funder : ctx.Accepts a keys.funderSettle) (other : ctx.Accepts b keys.otherSettle)
      (elapsed : ctx.SequencePasses window) (nonzero : window ≠ 0) :
      UnlocksUpdate ctx keys window lockTime [[], a, b, [], x, y]

/-- **What unlocks an update script.** -/
theorem update_unlocked_iff (keys : UpdateKeys) (window : UInt16) (lockTime : UInt32)
    (ctx : SpendContext) (h : ctx.ForScript (Script.update keys window lockTime))
    (items : List Bytes) :
    Machine.evaluate ctx (Script.update keys window lockTime) items.reverse = .ok () ↔
      ctx.UnlocksUpdate keys window lockTime items := by
  constructor
  · intro hevaluate
    obtain ⟨x, y, valid, rest, item, hstack, hvalid, hbranch, htrue⟩ :=
      h.evaluate_update.1 hevaluate
    have hitems := List.reverse_eq_iff.1 hstack
    rw [hstack] at hevaluate
    cases valid with
    | true =>
      obtain ⟨-, heq⟩ := block_updateBranch.1 hbranch
      cases heq
      obtain ⟨hx, hy⟩ := hvalid.1 rfl
      obtain ⟨hreached, hzero⟩ := (h.evaluate_update_of_accepts hx hy).1 hevaluate
      rw [hitems]
      exact .update hx hy hreached hzero
    | false =>
      obtain ⟨a, b, left, rfl, heq, -⟩ := h.block_settleBranch.1 hbranch
      cases heq
      have hrefused : ¬ (ctx.Accepts x keys.funderUpdate ∧ ctx.Accepts y keys.otherUpdate) :=
        fun hboth => nomatch hvalid.2 hboth
      obtain ⟨ha, hb, helapsed, hzero⟩ := (h.evaluate_update_of_refused hrefused).1 hevaluate
      rw [hitems]
      exact .settle hrefused ha hb helapsed hzero
  · intro hunlocks
    cases hunlocks with
    | update funder other reached nonzero =>
      exact (h.evaluate_update_of_accepts funder other).2 ⟨reached, nonzero⟩
    | settle refused funder other elapsed nonzero =>
      exact (h.evaluate_update_of_refused refused).2 ⟨funder, other, elapsed, nonzero⟩

/-! ## Payment scripts -/

/-- The check of a signature takes it and its key, and leaves its outcome. -/
theorem ForScript.block_checkSig (h : ctx.ForScript script) {key : PublicKey}
    {stack rest : List Bytes} :
    ctx.block (key.toBytes :: stack) [.op .checkSig] = .ok rest ↔ ∃ sig valid rest',
      stack = sig :: rest' ∧ rest = ScriptNumber.ofBool valid :: rest' ∧
      (valid = true ↔ ctx.Accepts sig key) := by
  rw [block_cons]
  cases stack with
  | nil => exact ⟨nofun, fun ⟨_, _, _, hstack, _⟩ => nomatch hstack⟩
  | cons sig stack =>
    obtain ⟨valid, hvalid⟩ := h.exists_checkSig sig key
    have haccepts : valid = true ↔ ctx.Accepts sig key := by
      rw [Accepts, hvalid, Except.ok.injEq]
    have hcheck : ctx.executeOne (key.toBytes :: sig :: stack) (.op .checkSig) =
        .ok (ScriptNumber.ofBool valid :: stack) := by
      show ctx.checkSig sig key.toBytes >>= _ = _
      rw [hvalid]
      rfl
    rw [hcheck, ok_bind, block_nil, Except.ok.injEq]
    constructor
    · intro hrest
      exact ⟨sig, valid, stack, rfl, hrest.symm, haccepts⟩
    · rintro ⟨sig', valid', rest', hstack, hrest, hvalid'⟩
      cases hstack
      rw [hrest, Bool.eq_iff_iff.2 (haccepts.trans hvalid'.symm)]

/-- After a branch has left its key, one valid signature has to be all that is left. -/
theorem ForScript.checkSig_finishes (h : ctx.ForScript script) {key : PublicKey}
    {stack : List Bytes} :
    (∃ left, ctx.block (key.toBytes :: stack) [.op .checkSig] = .ok left ∧
      Machine.finish { stack := left } = .ok ()) ↔ ∃ sig, stack = [sig] ∧ ctx.Accepts sig key := by
  constructor
  · rintro ⟨left, hcheck, hfinish⟩
    obtain ⟨item, rfl, htrue⟩ := Machine.finish_eq_ok.1 hfinish
    obtain ⟨sig, valid, rest, rfl, hleft, hvalid⟩ := h.block_checkSig.1 hcheck
    cases hleft
    cases valid with
    | false => cases htrue
    | true => exact ⟨sig, rfl, hvalid.1 rfl⟩
  · rintro ⟨sig, rfl, hsig⟩
    have hvalid : true = true ↔ ctx.Accepts sig key := by simp [hsig]
    have hcheck := h.block_checkSig.2 ⟨sig, true, [], rfl, rfl, hvalid⟩
    exact ⟨_, hcheck, Machine.finish_eq_ok.2 ⟨_, rfl, rfl⟩⟩

/-- A payment script takes a condition, runs the branch that it names and checks a signature. -/
theorem evaluate_payment {refundKey paymentKey : PublicKey} {hash : Hash160} {expiry : UInt32}
    {stack : List Bytes} :
    Machine.evaluate ctx (payment refundKey paymentKey hash expiry) stack = .ok () ↔
      ∃ claims rest keyed, stack = ScriptNumber.ofBool claims :: rest ∧
        ctx.block rest (if claims then claimBranch paymentKey hash
          else refundBranch refundKey expiry) = .ok keyed ∧
        ∃ left, ctx.block keyed [.op .checkSig] = .ok left ∧
          Machine.finish { stack := left } = .ok () := by
  rw [Machine.evaluate_eq_ok (ofBytes_payment refundKey paymentKey hash expiry),
    Machine.run_payment]
  simp only [bind_eq_ok]
  constructor
  · rintro ⟨m, ⟨⟨claims, rest⟩, hpop, keyed, hbranch, left, hcheck, heq⟩, hfinish⟩
    cases heq
    exact ⟨claims, rest, keyed, popCondition_eq_ok.1 hpop, hbranch, left, hcheck, hfinish⟩
  · rintro ⟨claims, rest, keyed, hstack, hbranch, left, hcheck, hfinish⟩
    exact ⟨{ stack := left }, ⟨(claims, rest), popCondition_eq_ok.2 hstack, keyed, hbranch, left,
      hcheck, rfl⟩, hfinish⟩

/-- On an empty item a payment script asks for the expiry and the sender's signature. -/
theorem ForScript.evaluate_refund (h : ctx.ForScript script) {refundKey paymentKey : PublicKey}
    {hash : Hash160} {expiry : UInt32} {stack : List Bytes} :
    Machine.evaluate ctx (payment refundKey paymentKey hash expiry) ([] :: stack) = .ok () ↔
      ctx.LockTimePasses expiry ∧ ∃ sig, stack = [sig] ∧ ctx.Accepts sig refundKey := by
  rw [evaluate_payment]
  constructor
  · rintro ⟨claims, rest, keyed, hstack, hbranch, hcheck⟩
    cases claims with
    | true => cases hstack
    | false =>
      cases hstack
      obtain ⟨hreached, rfl⟩ := block_refundBranch.1 hbranch
      exact ⟨hreached, h.checkSig_finishes.1 hcheck⟩
  · rintro ⟨hreached, hsig⟩
    exact ⟨false, stack, _, rfl, block_refundBranch.2 ⟨hreached, rfl⟩, h.checkSig_finishes.2 hsig⟩

/-- On the byte `1` it asks for a preimage of the hash and the receiver's signature. -/
theorem ForScript.evaluate_claim (h : ctx.ForScript script) {refundKey paymentKey : PublicKey}
    {hash : Hash160} {expiry : UInt32} {stack : List Bytes} :
    Machine.evaluate ctx (payment refundKey paymentKey hash expiry) ([0x01] :: stack) = .ok () ↔
      ∃ preimage sig, stack = [preimage, sig] ∧ hash160 preimage = hash ∧
        ctx.Accepts sig paymentKey := by
  rw [evaluate_payment]
  constructor
  · rintro ⟨claims, rest, keyed, hstack, hbranch, hcheck⟩
    cases claims with
    | false => cases hstack
    | true =>
      cases hstack
      obtain ⟨preimage, left, rfl, hhash, rfl⟩ := block_claimBranch.1 hbranch
      obtain ⟨sig, rfl, hsig⟩ := h.checkSig_finishes.1 hcheck
      exact ⟨preimage, sig, rfl, hhash, hsig⟩
  · rintro ⟨preimage, sig, rfl, hhash, hsig⟩
    exact ⟨true, _, _, rfl, block_claimBranch.2 ⟨preimage, [sig], rfl, hhash, rfl⟩,
      h.checkSig_finishes.2 ⟨sig, rfl, hsig⟩⟩

/-- The witness items, first to last, that unlock a payment script. -/
inductive UnlocksPayment (ctx : SpendContext) (refundKey paymentKey : PublicKey) (hash : Hash160)
    (expiry : UInt32) : List Bytes → Prop
  | claim {sig preimage : Bytes} (secret : hash160 preimage = hash)
      (receiver : ctx.Accepts sig paymentKey) :
      UnlocksPayment ctx refundKey paymentKey hash expiry [sig, preimage, [0x01]]
  | refund {sig : Bytes} (expired : ctx.LockTimePasses expiry)
      (sender : ctx.Accepts sig refundKey) :
      UnlocksPayment ctx refundKey paymentKey hash expiry [sig, []]

/-- **What unlocks a payment script.** -/
theorem payment_unlocked_iff (refundKey paymentKey : PublicKey) (hash : Hash160)
    (expiry : UInt32) (ctx : SpendContext)
    (h : ctx.ForScript (Script.payment refundKey paymentKey hash expiry)) (items : List Bytes) :
    Machine.evaluate ctx (Script.payment refundKey paymentKey hash expiry) items.reverse =
      .ok () ↔ ctx.UnlocksPayment refundKey paymentKey hash expiry items := by
  constructor
  · intro hevaluate
    obtain ⟨claims, rest, keyed, hstack, -⟩ := evaluate_payment.1 hevaluate
    have hitems := List.reverse_eq_iff.1 hstack
    rw [hstack] at hevaluate
    cases claims with
    | true =>
      obtain ⟨preimage, sig, rfl, hhash, hsig⟩ := h.evaluate_claim.1 hevaluate
      rw [hitems]
      exact .claim hhash hsig
    | false =>
      obtain ⟨hreached, sig, rfl, hsig⟩ := h.evaluate_refund.1 hevaluate
      rw [hitems]
      exact .refund hreached hsig
  · intro hunlocks
    cases hunlocks with
    | claim secret receiver => exact h.evaluate_claim.2 ⟨_, _, rfl, secret, receiver⟩
    | refund expired sender => exact h.evaluate_refund.2 ⟨expired, _, rfl, sender⟩

/-! ## Scripts that are unlocked both ways -/

/-- The only input of a transaction, with a relative lock of ten blocks, that runs a script. -/
def sample (script : Bytes) : SpendContext where
  tx := ⟨2, 500000000, [{ outpoint := .null, sequence := 10 }], []⟩
  index := 0
  input := { outpoint := .null, sequence := 10 }
  spent := ⟨1000000, Script.lock script⟩
  prevouts := [⟨1000000, Script.lock script⟩]
  scriptCode := script

/-- The smallest secret key. -/
def sampleKey : SecretKey := ⟨1, by decide, by decide⟩

omit [KeyScheme] in
/-- A script that both branches unlock. -/
theorem update_unlocked_sample :
    letI : KeyScheme := .secp256k1
    letI key := sampleKey.publicKey
    letI script := Script.update ⟨key, key, key, key⟩ 10 500000000
    (sample script).ForScript script ∧
      ∃ sig, Machine.evaluate (sample script) script [sig, sig, []] = .ok () ∧
        Machine.evaluate (sample script) script [[], [], [], sig, sig, []] = .ok () := by
  let _ : KeyScheme := .secp256k1
  have _ : LawfulKeyScheme := lawful_secp256k1
  let key := sampleKey.publicKey
  let script := Script.update ⟨key, key, key, key⟩ 10 500000000
  have h : (sample script).ForScript script := ⟨rfl, rfl, rfl, rfl⟩
  obtain ⟨sig, haccepts⟩ := exists_accepts h.input 1000000 sampleKey
  have hsig : (sample script).Accepts sig key := haccepts h ⟨rfl, rfl, rfl, rfl, rfl⟩
  have hreached : (sample script).LockTimePasses 500000000 := ⟨Iff.rfl, by decide, by decide⟩
  have helapsed : (sample script).SequencePasses 10 := ⟨by decide, by decide, by decide, by decide⟩
  refine ⟨h, sig, ?_, ?_⟩
  · exact (update_unlocked_iff _ _ _ _ h [[], sig, sig]).2 (.update hsig hsig hreached (by decide))
  · exact (update_unlocked_iff _ _ _ _ h [[], sig, sig, [], [], []]).2
      (.settle (fun hboth => h.not_accepts_nil key hboth.1) hsig hsig helapsed (by decide))

omit [KeyScheme] in
/-- A payment that its receiver can take and its sender can take back. -/
theorem payment_unlocked_sample :
    letI : KeyScheme := .secp256k1
    letI key := sampleKey.publicKey
    ∃ hash, letI script := Script.payment key key hash 500000000
      (sample script).ForScript script ∧ hash160 [] = hash ∧
      ∃ sig, Machine.evaluate (sample script) script [[0x01], [], sig] = .ok () ∧
        Machine.evaluate (sample script) script [[], sig] = .ok () := by
  let _ : KeyScheme := .secp256k1
  have _ : LawfulKeyScheme := lawful_secp256k1
  let key := sampleKey.publicKey
  obtain ⟨hash, hhash⟩ : ∃ hash, hash160 [] = hash := ⟨_, rfl⟩
  let script := Script.payment key key hash 500000000
  have h : (sample script).ForScript script := ⟨rfl, rfl, rfl, rfl⟩
  obtain ⟨sig, haccepts⟩ := exists_accepts h.input 1000000 sampleKey
  have hsig : (sample script).Accepts sig key := haccepts h ⟨rfl, rfl, rfl, rfl, rfl⟩
  have henabled : (10 : UInt32) ≠ LockTime.finalSequence := by decide
  have hreached : (sample script).LockTimePasses 500000000 :=
    ⟨Iff.rfl, UInt32.le_refl 500000000, henabled⟩
  refine ⟨hash, h, hhash, sig, ?_, ?_⟩
  · exact (payment_unlocked_iff _ _ _ _ _ h [sig, [], [0x01]]).2 (.claim hhash hsig)
  · exact (payment_unlocked_iff _ _ _ _ _ h [sig, []]).2 (.refund hreached hsig)

end SpendContext

end Supersede
