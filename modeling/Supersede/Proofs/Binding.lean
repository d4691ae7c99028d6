import Supersede.Proofs.Settling

/-!
# Settlements are bound to their state

The signatures of a settlement do not commit to the output that it spends, so they must not be valid
on the output of another state. What keeps them from it is the script: the number of a state enters
its script as a lock time of one to five bytes, and what a signature is made over holds the script
behind its length.

* `Snapshot.updateScript_ne`: the scripts of two states differ, since each can be read back.
* `Transaction.scriptCode_of_signaturePreimage`: what a signature is made over determines the
  script.

**Theorem (`SettleTx.bound_to_state`).** A settlement is not accepted on an output of another state,
unless the scripts of both states have the same hash. With any other witness for the script of that
output, what the signatures would have to be made over is not what they were made over.
-/

namespace Supersede

open Result

/-! ## Scripts of different states -/

theorem Instruction.eq_of_number {n m : Nat} (hn : n < 2 ^ 64) (hm : m < 2 ^ 64)
    (h : number n = number m) : n = m := by
  unfold number at h
  by_cases hsmall : 1 ≤ n ∧ n ≤ 16
  · by_cases hsmall' : 1 ≤ m ∧ m ≤ 16
    · rw [dif_pos hsmall, dif_pos hsmall'] at h
      injection h with hop
      injection hop with hfin
      have hpred : n - 1 = m - 1 := Fin.mk.inj hfin
      omega
    · rw [dif_pos hsmall, dif_neg hsmall'] at h
      cases h
  · by_cases hsmall' : 1 ≤ m ∧ m ≤ 16
    · rw [dif_neg hsmall, dif_pos hsmall'] at h
      cases h
    · rw [dif_neg hsmall, dif_neg hsmall'] at h
      have hitem : ScriptNumber.encode n = ScriptNumber.encode m := push.inj h
      have hvalue : (n : Int) = m := by
        rw [← ScriptNumber.value_encode hn, hitem, ScriptNumber.value_encode hm]
      exact Int.ofNat.inj hvalue

namespace Script

/-- An update script determines its lock time. -/
theorem lockTime_of_update {keys keys' : UpdateKeys} {window window' : UInt16}
    {lockTime lockTime' : UInt32} (h : update keys window lockTime = update keys' window' lockTime') :
    lockTime = lockTime' := by
  have hread := congrArg Code.ofBytes h
  rw [ofBytes_update, ofBytes_update] at hread
  have hcode : updateCode keys window lockTime = updateCode keys' window' lockTime' :=
    (Code.mk.inj hread).1
  have hnumber : Instruction.number lockTime.toNat = Instruction.number lockTime'.toNat :=
    Option.some.inj (congrArg (·[14]?) hcode)
  have hlt (n : UInt32) : n.toNat < 2 ^ 64 := n.toNat_lt.trans (by decide)
  exact UInt32.toNat_inj.1 (Instruction.eq_of_number (hlt _) (hlt _) hnumber)

theorem sha256_of_lock {script script' : Bytes} (h : lock script = lock script') :
    sha256 script = sha256 script' := by
  rw [lock_eq, lock_eq] at h
  injection h with _ htail
  injection htail with _ hbytes
  exact FixedBytes.ext hbytes

end Script

theorem Snapshot.updateScript_ne {n m : Snapshot} {p : Params} {script script' : Bytes}
    (hstates : n.state ≠ m.state) (hscript : n.updateScript p = .ok script)
    (hscript' : m.updateScript p = .ok script') : script ≠ script' := by
  intro heq
  simp only [updateScript, bind_eq_ok, pure_eq_ok] at hscript hscript'
  obtain ⟨lockTime, hlockTime, hupdate⟩ := hscript
  obtain ⟨lockTime', hlockTime', hupdate'⟩ := hscript'
  obtain rfl : lockTime = lockTime' := Script.lockTime_of_update (by rw [hupdate, hupdate', heq])
  have hsum := toNat_addState hlockTime
  have hsum' := toNat_addState hlockTime'
  apply hstates
  rw [← UInt32.toNat_inj]
  omega

/-! ## What signatures are made over -/

/-- A byte string behind its length is determined: a longer string takes more bytes in all, since
the bytes for the length do not get fewer. -/
theorem Bytes.withLength_injective : Function.Injective withLength := by
  intro a b h
  have hlengths := congrArg List.length h
  rw [withLength, withLength, List.length_append, List.length_append] at hlengths
  have hlength : a.length = b.length := by
    unfold compactSize at hlengths
    grind [length_ofNatLE]
  exact (List.append_inj h (by rw [hlength])).2

namespace Transaction

/-- What a floating signature that commits to the script is made over: parts of fixed length on both
sides of the script. -/
theorem exists_floatingPreimage_eq (tx : Transaction) (input : TxIn) (value : UInt64)
    {mode : SigningMode} (hmode : mode.commitsToScript = true) :
    ∃ first last : Bytes, first.length = 68 ∧ last.length = 52 ∧ ∀ scriptCode,
      tx.floatingPreimage input scriptCode value mode =
        first ++ (Bytes.withLength scriptCode ++ last) := by
  refine ⟨tx.versionBytes ++ List.replicate 64 0, Bytes.le64 value ++ (Bytes.le32 input.sequence ++
    ((sha256d tx.outputBytes).toBytes ++ (Bytes.le32 tx.lockTime ++ flagBytes mode))), ?_, ?_, ?_⟩
  · simp [versionBytes, Bytes.le32]
  · simp [Bytes.le64, Bytes.le32, flagBytes]
  · intro scriptCode
    simp only [floatingPreimage, hmode, if_true, List.append_assoc]

/-- What a signature in mode `anyPrevOut` is made over determines the script. -/
theorem scriptCode_of_signaturePreimage {tx tx' : Transaction} {input input' : TxIn}
    {value value' : UInt64} {scriptCode scriptCode' : Bytes}
    (h : tx.signaturePreimage input scriptCode value .anyPrevOut =
      tx'.signaturePreimage input' scriptCode' value' .anyPrevOut) : scriptCode = scriptCode' := by
  have hmode : SigningMode.anyPrevOut.commitsToScript = true := rfl
  obtain ⟨first, last, hfirst, hlast, heq⟩ :=
    tx.exists_floatingPreimage_eq input value hmode
  obtain ⟨first', last', hfirst', hlast', heq'⟩ :=
    tx'.exists_floatingPreimage_eq input' value' hmode
  simp only [signaturePreimage, heq, heq'] at h
  have hrest := (List.append_inj h (hfirst.trans hfirst'.symm)).2
  have hcode := (List.append_inj' hrest (hlast.trans hlast'.symm)).1
  exact Bytes.withLength_injective hcode

end Transaction

/-- What the signatures on a document are made over. -/
def SigningSubject.signedBytes? (s : SigningSubject) : Option Bytes :=
  s.transaction.inputs[0]?.map fun input =>
    s.transaction.signaturePreimage input s.scriptCode s.value s.mode

/-- What a signature in a mode must have been made over to be valid in a context. -/
def SpendContext.signedBytes (ctx : SpendContext) (mode : SigningMode) : Bytes :=
  ctx.tx.signaturePreimage ctx.input ctx.scriptCode ctx.spent.value mode

variable [KeyScheme]

theorem Transaction.verifyInput_eq {tx : Transaction} {index : Nat} {input : TxIn}
    (hinput : tx.inputs[index]? = some input) (scriptCode : Bytes) (value : UInt64)
    (sig : ChannelSignature) (key : PublicKey) :
    tx.verifyInput index scriptCode value sig key = .ok (KeyScheme.ecdsaVerify key
      (sha256d (tx.signaturePreimage input scriptCode value sig.mode)) sig.signature) := by
  rw [verifyInput, signatureHash, hinput]
  rfl

theorem SpendContext.ForScript.accepts_iff_ecdsaVerify {ctx : SpendContext} {script : Bytes}
    (h : ctx.ForScript script) (sig : ChannelSignature) (key : PublicKey) :
    ctx.Accepts sig.toBytes key ↔
      KeyScheme.ecdsaVerify key (sha256d (ctx.signedBytes sig.mode)) sig.signature = true := by
  rw [h.accepts_iff, Transaction.verifyInput_eq h.input, Except.ok.injEq]
  rfl

theorem Cosigned.ecdsaVerify_of_verify {α : Type} [Signable α] {d : Cosigned α}
    (hverify : d.verify = .ok ()) {signed : Bytes}
    (hsigned : (Signable.subject d.document).signedBytes? = some signed) {role : Role}
    {sig : ChannelSignature} (hsig : d.signature role = some sig) :
    KeyScheme.ecdsaVerify ((Signable.subject d.document).key role) (sha256d signed) sig.signature =
      true := by
  obtain ⟨hmode, hvalid⟩ := valid_of_verify hverify hsig
  obtain ⟨input, hinput, rfl⟩ := Option.map_eq_some_iff.1 hsigned
  rw [Transaction.verifyInput_eq hinput, hmode] at hvalid
  exact Except.ok.inj hvalid

/-! ## Outputs of other states -/

/-- An output that is locked by the hash of a script is not spent with a script of another hash. -/
theorem SpendContext.lock_eq_of_verify {ctx : SpendContext} {script script' : Bytes}
    {items : List Bytes} (hspent : ctx.spent.script = Script.lock script')
    (hwitness : ctx.input.witness = items ++ [script]) (h : ctx.verify = .ok ()) :
    Script.lock script = Script.lock script' := by
  by_contra hne
  have hreverse : ctx.input.witness.reverse = script :: items.reverse := by
    rw [hwitness, List.reverse_append]
    rfl
  simp only [verify, hspent, Script.kind_lock, verifyScriptHash, hreverse, ne_eq, hne,
    not_false_eq_true, if_true] at h
  cases h

namespace SettleTx

omit [KeyScheme] in
theorem signedBytes_of_built {s : SettleTx} {c : Snapshot} {p : Params}
    (hbuilt : s.document.Built c p) : (Signable.subject s.document).signedBytes? =
      some (s.document.template.signaturePreimage (Settlement.templateInput p)
        s.document.updateScript s.document.snapshot.capacity .anyPrevOut) := by
  show s.document.template.inputs[0]?.map _ = _
  rw [hbuilt.inputs]
  rfl

/-- A settlement is accepted only on an output whose lock is that of its state's script. -/
theorem lock_eq_of_validate {s : SettleTx} {c : Snapshot} {p : Params}
    (hbuilt : s.document.Built c p) {o : OutPoint} {tx : Transaction} (hspend : s.spend o = .ok tx)
    {chain : Chain} {coin : Coin} {script : Bytes} (hcoin : chain.coins.get? o = some coin)
    (hlock : coin.output.script = Script.lock script) (h : chain.validate tx = .ok ()) :
    Script.lock s.document.updateScript = Script.lock script := by
  obtain ⟨f, g, -, -, -, htx⟩ := (spend_eq_ok hbuilt).1 hspend
  have hinput : tx.inputs[0]? = some (spendingInput p f g s.document.updateScript o) := by
    rw [htx]
    rfl
  have hwitness : (spendingInput p f g s.document.updateScript o).witness =
      [[], f.toBytes, g.toBytes, [], [], []] ++ [s.document.updateScript] := rfl
  obtain ⟨coins, hadmits⟩ := Chain.validate_eq_ok_iff.1 h
  exact SpendContext.lock_eq_of_verify hlock hwitness (hadmits.verify hinput hcoin)

/-- **Settlements are bound to their state.** -/
theorem bound_to_state (p : Params) (n m : Snapshot) (script script' : Bytes)
    (hstates : n.state ≠ m.state) (hscript : n.updateScript p = .ok script)
    (hscript' : m.updateScript p = .ok script') :
    script ≠ script' ∧
    ∀ (s : SettleTx) (o : OutPoint) (tx : Transaction) (chain : Chain) (coin : Coin),
      Settlement.build n p = .ok s.document → s.spend o = .ok tx →
      chain.coins.get? o = some coin → coin.output.script = Script.lock script' →
      (sha256 script ≠ sha256 script' → chain.validate tx ≠ .ok ()) ∧
      ∃ signed, (Signable.subject s.document).signedBytes? = some signed ∧
        (∀ role sig, s.signature role = some sig → sig.mode = .anyPrevOut ∧
          KeyScheme.ecdsaVerify (n.party role).settleKey (sha256d signed) sig.signature = true) ∧
        ∀ items, ∃ input, (tx.withWitness 0 (items ++ [script'])).inputs = [input] ∧
          input.witness = items ++ [script'] ∧
          letI ctx := chain.scriptContext (tx.withWitness 0 (items ++ [script'])) 0 input
            coin.output script'
          (∀ (sig : ChannelSignature) (key : PublicKey), sig.mode = .anyPrevOut →
            (ctx.Accepts sig.toBytes key ↔ KeyScheme.ecdsaVerify key
              (sha256d (ctx.signedBytes .anyPrevOut)) sig.signature = true)) ∧
          ctx.signedBytes .anyPrevOut ≠ signed := by
  have hne := Snapshot.updateScript_ne hstates hscript hscript'
  refine ⟨hne, ?_⟩
  intro s o tx chain coin hbuild hspend hcoin hlock
  have hbuilt := Settlement.built_of_build hbuild
  obtain rfl : script = s.document.updateScript :=
    Except.ok.inj (hscript.symm.trans hbuilt.script)
  obtain ⟨f, g, -, -, hverify, htx⟩ := (spend_eq_ok hbuilt).1 hspend
  have hsigned := signedBytes_of_built hbuilt
  refine ⟨?_, _, hsigned, ?_, ?_⟩
  · intro hhash haccepted
    exact hhash (Script.sha256_of_lock (lock_eq_of_validate hbuilt hspend hcoin hlock haccepted))
  · intro role sig hsig
    rw [← hbuilt.snapshot]
    exact ⟨(Cosigned.valid_of_verify hverify hsig).1,
      Cosigned.ecdsaVerify_of_verify hverify hsigned hsig⟩
  · intro items
    let input : TxIn :=
      { spendingInput p f g s.document.updateScript o with witness := items ++ [script'] }
    have hinputs : (tx.withWitness 0 (items ++ [script'])).inputs = [input] := by
      rw [htx]
      rfl
    have hctx := Chain.forScript_singleton hinputs hcoin script'
    refine ⟨input, hinputs, rfl, ?_, ?_⟩
    · intro sig key hmode
      rw [← hmode]
      exact hctx.accepts_iff_ecdsaVerify sig key
    · intro heq
      exact hne (Transaction.scriptCode_of_signaturePreimage heq).symm

omit [KeyScheme] in
/-- With keys drawn from zeros and the default parameters, the settlement of state 0 is not accepted
on an output of state 1, although its lock time and its window have passed. -/
theorem bound_to_state_zeros :
    letI : KeyScheme := .secp256k1
    ∃ (n m : Snapshot) (script script' : Bytes) (s : SettleTx) (tx : Transaction),
      n.state = 0 ∧ m.state = 1 ∧ n.updateScript {} = .ok script ∧
      m.updateScript {} = .ok script' ∧ Settlement.build n {} = .ok s.document ∧
      s.spend .null = .ok tx ∧ script ≠ script' ∧ sha256 script ≠ sha256 script' ∧
      (holding ⟨⟨1000000, Script.lock script'⟩, some 100⟩).validate tx ≠ .ok () := by
  let _ : KeyScheme := .secp256k1
  have _ : LawfulKeyScheme := lawful_secp256k1
  obtain ⟨keys, k, k', script, script', -, hk, -, hscript, hscript', hhash⟩ := exists_scripts_zeros
  have hparty (role : Role) : (Snapshot.first 1000000 k k).party role = k := by cases role <;> rfl
  obtain ⟨s, hbuild, hspend⟩ :=
    exists_settlement_first hk (Snapshot.conserved_first 1000000 k k) rfl hparty 20
  obtain ⟨tx, htx⟩ := hspend .null
  let coin : Coin := ⟨⟨1000000, Script.lock script'⟩, some 100⟩
  have hcoin : (holding coin).coins.get? .null = some coin := SortedMap.get?_insert_self _ _ _
  obtain ⟨hne, hbound⟩ := bound_to_state {} (.first 1000000 k k)
    { Snapshot.first 1000000 k' k' with state := 1 } script script' (show (0 : UInt32) ≠ 1 by decide)
    hscript hscript'
  exact ⟨_, _, script, script', s, tx, rfl, rfl, hscript, hscript', hbuild, htx, hne, hhash,
    (hbound s .null tx (holding coin) coin hbuild htx hcoin rfl).1 hhash⟩

end SettleTx

end Supersede
