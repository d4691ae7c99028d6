import Supersede.Chain.Basic
import Supersede.Proofs.Execution

/-!
# What a chain accepts

`Chain.validate` is taken apart once: an accepted transaction is one that the chain *admits* with
the coins that its inputs spend (`Chain.Admits`). From there, what holds of a single input is read
off by its index: the coin, its relative lock and its script.

* `Chain.validate_eq_ok_iff`: the conditions under which a transaction is accepted.
* `Chain.isFinal_iff`: a lock time that an input leaves on must have been reached.
* `SpendContext.verify_lock`: an output locked by the hash of a script is spent by running the
  script on the other witness items.
-/

namespace Supersede

open Result

/-! ## Outcomes of lists -/

namespace Result

variable {ε α β : Type}

theorem forM_eq_ok {f : α → Except ε Unit} {l : List α} :
    l.forM f = .ok () ↔ ∀ a ∈ l, f a = .ok () := by
  induction l with
  | nil => exact ⟨fun _ a ha => (nomatch ha), fun _ => rfl⟩
  | cons a l ih =>
    rw [List.forall_mem_cons, ← ih]
    show f a >>= (fun _ => l.forM f) = .ok () ↔ _
    rw [bind_eq_ok]
    exact ⟨fun ⟨_, ha, hl⟩ => ⟨ha, hl⟩, fun ⟨ha, hl⟩ => ⟨(), ha, hl⟩⟩

theorem mapM_eq_ok {f : α → Except ε β} {l : List α} {bs : List β} :
    l.mapM f = .ok bs ↔ l.map f = bs.map .ok := by
  induction l generalizing bs with
  | nil =>
    rw [List.mapM_nil, pure_eq_ok, List.map_nil, eq_comm (a := []), eq_comm (a := []),
      List.map_eq_nil_iff]
  | cons a l ih =>
    simp only [List.mapM_cons, bind_eq_ok, pure_eq_ok, List.map_cons]
    constructor
    · rintro ⟨b, hb, bs', hbs, rfl⟩
      rw [hb, ih.1 hbs, List.map_cons]
    · intro h
      cases bs with
      | nil => cases h
      | cons b bs =>
        obtain ⟨hb, hbs⟩ := List.cons.inj h
        exact ⟨b, hb, bs, ih.2 hbs, rfl⟩

end Result

/-! ## Outputs locked by a script -/

theorem Transaction.mem_spendContexts {tx : Transaction} {prevouts : List TxOut} {index : Nat}
    {input : TxIn} {spent : TxOut} (hinput : tx.inputs[index]? = some input)
    (hspent : prevouts[index]? = some spent) :
    { tx, index, input, spent, prevouts, scriptCode := spent.script : SpendContext } ∈
      tx.spendContexts prevouts := by
  have hzip := (List.getElem?_zip_eq_some (z := (input, spent))).2 ⟨hinput, hspent⟩
  rw [List.mem_iff_getElem?]
  refine ⟨index, ?_⟩
  rw [spendContexts, List.getElem?_mapIdx, hzip]
  rfl

theorem Transaction.forScript_of_mem_spendContexts {tx : Transaction} {prevouts : List TxOut}
    {ctx : SpendContext} (h : ctx ∈ tx.spendContexts prevouts) :
    ctx.tx = tx ∧ ctx.prevouts = prevouts ∧ ctx.ForScript ctx.spent.script := by
  obtain ⟨index, hindex, rfl⟩ := List.mem_mapIdx.1 h
  have hzip := List.getElem?_eq_getElem hindex
  obtain ⟨hinput, hspent⟩ := List.getElem?_zip_eq_some.1 hzip
  exact ⟨rfl, rfl, hinput, hspent, rfl, rfl⟩

namespace SpendContext

variable [KeyScheme]

/-- An output locked by the hash of a script is spent by running the script on the other items. -/
theorem verify_lock {ctx : SpendContext} {script : Bytes} {items : List Bytes}
    (hspent : ctx.spent.script = Script.lock script)
    (hwitness : ctx.input.witness = items ++ [script]) :
    ctx.verify = Machine.evaluate { ctx with scriptCode := script } script items.reverse := by
  have hreverse : ctx.input.witness.reverse = script :: items.reverse := by
    rw [hwitness, List.reverse_append]
    rfl
  simp only [verify, hspent, Script.kind_lock, verifyScriptHash, hreverse, ne_eq,
    not_true_eq_false, if_false]

end SpendContext

/-! ## Chains -/

namespace Chain

/-- The lock time has been reached. -/
def Reached (c : Chain) (lockTime : UInt32) : Prop :=
  if lockTime < LockTime.threshold then lockTime ≤ c.height else lockTime ≤ c.time

/-- The outputs that the inputs of a transaction spend. -/
def prevouts (c : Chain) (tx : Transaction) : List TxOut :=
  tx.inputs.filterMap fun input => c.unspent? input.outpoint

theorem spendable_eq_ok {c : Chain} {input : TxIn} {coin : Coin} :
    c.spendable input = .ok coin ↔
      input.outpoint ∉ c.mempoolSpends ∧ c.coins.get? input.outpoint = some coin := by
  rw [spendable, ite_error_eq_ok]
  cases c.coins.get? input.outpoint <;> simp

theorem totalValue_singleton (output : TxOut) : totalValue [output] = output.value :=
  UInt64.add_zero _

/-- A sequence number with the disabling bit has no relative lock. -/
theorem checkRelativeLock_of_disabled {c : Chain} {input : TxIn}
    (h : input.sequence &&& LockTime.disableFlag ≠ 0) (coin : Coin) :
    c.checkRelativeLock input coin = .ok () :=
  if_pos h

theorem checkRelativeLocks_singleton {c : Chain} {tx : Transaction} {input : TxIn} {coin : Coin}
    (hversion : tx.version = 2) (hinputs : tx.inputs = [input]) :
    c.checkRelativeLocks tx [coin] = .ok () ↔ c.checkRelativeLock input coin = .ok () := by
  rw [checkRelativeLocks, hversion, if_neg (by decide), hinputs]
  exact forM_eq_ok.trans List.forall_mem_singleton

/-- A lock time counts as soon as one input leaves it on. -/
theorem isFinal_iff {c : Chain} {tx : Transaction} {input : TxIn} (hinput : input ∈ tx.inputs)
    (henabled : input.sequence ≠ LockTime.finalSequence) :
    c.isFinal tx = true ↔ c.Reached tx.lockTime := by
  have hzero : c.Reached 0 := UInt32.zero_le
  have hsome : tx.inputs.all (·.sequence == LockTime.finalSequence) = false := by
    rw [List.all_eq_false]
    exact ⟨input, hinput, by simpa using henabled⟩
  have hreached : (if tx.lockTime < LockTime.threshold then decide (tx.lockTime ≤ c.height)
      else decide (tx.lockTime ≤ c.time)) = true ↔ c.Reached tx.lockTime := by
    rw [Reached]
    split <;> exact decide_eq_true_iff
  rw [isFinal, hsome, Bool.or_false, Bool.or_eq_true, beq_iff_eq, hreached]
  constructor
  · rintro (h | h)
    · rw [h]
      exact hzero
    · exact h
  · exact .inr

/-- Unspent outputs that nothing in the mempool spends can be spent. -/
theorem exists_spendable {c : Chain} {inputs : List TxIn} {spent : List TxOut}
    (hunspent : inputs.map (fun input => c.unspent? input.outpoint) = spent.map some)
    (hfree : ∀ input ∈ inputs, input.outpoint ∉ c.mempoolSpends) :
    ∃ coins : List Coin, inputs.map c.spendable = coins.map .ok ∧ coins.map (·.output) = spent := by
  induction inputs generalizing spent with
  | nil =>
    obtain rfl : spent = [] := List.map_eq_nil_iff.1 hunspent.symm
    exact ⟨[], rfl, rfl⟩
  | cons input inputs ih =>
    cases spent with
    | nil => cases hunspent
    | cons output spent =>
      obtain ⟨hhead, htail⟩ := List.cons.inj hunspent
      obtain ⟨coin, hcoin, rfl⟩ := Option.map_eq_some_iff.1 hhead
      obtain ⟨coins, hcoins, rfl⟩ := ih htail fun i hi => hfree i (List.mem_cons_of_mem _ hi)
      have hspendable := spendable_eq_ok.2 ⟨hfree input List.mem_cons_self, hcoin⟩
      exact ⟨coin :: coins, by rw [List.map_cons, hspendable, hcoins]; rfl, rfl⟩

variable [KeyScheme]

theorem checkScript_eq_ok {ctx : SpendContext} :
    checkScript ctx = .ok () ↔ ctx.verify = .ok () := by
  unfold checkScript
  split <;> simp_all

/-- The chain accepts a transaction that spends the given coins. -/
structure Admits (c : Chain) (tx : Transaction) (coins : List Coin) : Prop where
  inputs : tx.inputs ≠ []
  spendable : tx.inputs.map c.spendable = coins.map .ok
  final : c.isFinal tx = true
  relative : c.checkRelativeLocks tx coins = .ok ()
  value : totalValue tx.outputs ≤ totalValue (coins.map (·.output))
  scripts : ∀ ctx ∈ tx.spendContexts (coins.map (·.output)), ctx.verify = .ok ()

theorem validate_eq_ok_iff {c : Chain} {tx : Transaction} :
    c.validate tx = .ok () ↔ ∃ coins, c.Admits tx coins := by
  simp only [validate, ite_error_eq_ok, bind_eq_ok, forM_eq_ok, mapM_eq_ok, checkScript_eq_ok,
    List.isEmpty_iff, Bool.not_eq_eq_eq_not, UInt64.not_lt]
  constructor
  · rintro ⟨hinputs, coins, hcoins, hfinal, ⟨⟩, hrelative, hvalue, hscripts⟩
    exact ⟨coins, hinputs, hcoins, by simpa using hfinal, hrelative, hvalue, hscripts⟩
  · rintro ⟨coins, hinputs, hcoins, hfinal, hrelative, hvalue, hscripts⟩
    exact ⟨hinputs, coins, hcoins, by simpa using hfinal, (), hrelative, hvalue, hscripts⟩

/-! ## One input of an accepted transaction -/

/-- The context in which the witness script of an input runs. -/
def scriptContext (c : Chain) (tx : Transaction) (index : Nat) (input : TxIn) (spent : TxOut)
    (script : Bytes) : SpendContext :=
  { tx, index, input, spent, prevouts := c.prevouts tx, scriptCode := script }

omit [KeyScheme] in
theorem prevouts_of_spendable {c : Chain} {inputs : List TxIn} {coins : List Coin}
    (h : inputs.map c.spendable = coins.map .ok) :
    inputs.filterMap (fun input => c.unspent? input.outpoint) = coins.map (·.output) := by
  induction inputs generalizing coins with
  | nil =>
    cases coins with
    | nil => rfl
    | cons coin coins => cases h
  | cons input inputs ih =>
    cases coins with
    | nil => cases h
    | cons coin coins =>
      obtain ⟨hcoin, hcoins⟩ := List.cons.inj h
      have hunspent : c.unspent? input.outpoint = some coin.output := by
        rw [unspent?, (spendable_eq_ok.1 hcoin).2]
        rfl
      rw [List.filterMap_cons, hunspent, ih hcoins]
      rfl

namespace Admits

variable {c : Chain} {tx : Transaction} {coins : List Coin} {index : Nat} {input : TxIn}
  {coin : Coin}

/-- The coin that an input spends stands at the input's index. -/
theorem coin_eq (h : c.Admits tx coins) (hinput : tx.inputs[index]? = some input)
    (hcoin : c.coins.get? input.outpoint = some coin) : coins[index]? = some coin := by
  have hat : (tx.inputs.map c.spendable)[index]? = (coins.map Except.ok)[index]? := by
    rw [h.spendable]
  rw [List.getElem?_map, List.getElem?_map, hinput] at hat
  obtain ⟨coin', hcoin', hspendable⟩ := Option.map_eq_some_iff.1 hat.symm
  have hget := (spendable_eq_ok.1 hspendable.symm).2
  rw [hcoin', ← hget, hcoin]

theorem prevouts_eq (h : c.Admits tx coins) : coins.map (·.output) = c.prevouts tx :=
  (prevouts_of_spendable h.spendable).symm

theorem forScript (h : c.Admits tx coins) (hinput : tx.inputs[index]? = some input)
    (hcoin : c.coins.get? input.outpoint = some coin) (script : Bytes) :
    (c.scriptContext tx index input coin.output script).ForScript script where
  input := hinput
  spent := by
    show (c.prevouts tx)[index]? = _
    rw [← h.prevouts_eq, List.getElem?_map, h.coin_eq hinput hcoin]
    rfl
  scriptCode := rfl
  internalKey := rfl

/-- An accepted input may spend its output. -/
theorem verify (h : c.Admits tx coins) (hinput : tx.inputs[index]? = some input)
    (hcoin : c.coins.get? input.outpoint = some coin) :
    (c.scriptContext tx index input coin.output coin.output.script).verify = .ok () := by
  have hscripts := h.scripts
  rw [h.prevouts_eq] at hscripts
  have hspent : (c.prevouts tx)[index]? = some coin.output :=
    (h.forScript hinput hcoin coin.output.script).spent
  exact hscripts _ (Transaction.mem_spendContexts hinput hspent)

/-- The witness script of an accepted input succeeds. -/
theorem evaluate (h : c.Admits tx coins) (hinput : tx.inputs[index]? = some input)
    (hcoin : c.coins.get? input.outpoint = some coin) {script : Bytes} {items : List Bytes}
    (hlock : coin.output.script = Script.lock script)
    (hwitness : input.witness = items ++ [script]) :
    Machine.evaluate (c.scriptContext tx index input coin.output script) script items.reverse =
      .ok () := by
  have hverify := h.verify hinput hcoin
  rw [SpendContext.verify_lock hlock hwitness] at hverify
  exact hverify

/-- The relative lock of an accepted input is met, if the version gives it force. -/
theorem relativeLock (h : c.Admits tx coins) (hversion : 2 ≤ tx.version)
    (hinput : tx.inputs[index]? = some input)
    (hcoin : c.coins.get? input.outpoint = some coin) :
    c.checkRelativeLock input coin = .ok () := by
  have hlocks := h.relative
  have hzip := (List.getElem?_zip_eq_some (z := (input, coin))).2 ⟨hinput, h.coin_eq hinput hcoin⟩
  rw [checkRelativeLocks, if_neg (Int32.not_lt.2 hversion), forM_eq_ok] at hlocks
  exact hlocks (input, coin) (List.mem_iff_getElem?.2 ⟨index, hzip⟩)

end Admits

/-- A transaction with one input. -/
theorem validate_singleton {c : Chain} {tx : Transaction} {input : TxIn} {coin : Coin}
    (hinputs : tx.inputs = [input]) (hcoin : c.coins.get? input.outpoint = some coin)
    (hfree : input.outpoint ∉ c.mempoolSpends) :
    c.validate tx = .ok () ↔ c.isFinal tx = true ∧ c.checkRelativeLocks tx [coin] = .ok () ∧
      totalValue tx.outputs ≤ totalValue [coin.output] ∧
      ({ tx, index := 0, input, spent := coin.output, prevouts := [coin.output],
         scriptCode := coin.output.script } : SpendContext).verify = .ok () := by
  have hspendable : c.spendable input = .ok coin := spendable_eq_ok.2 ⟨hfree, hcoin⟩
  have hcontexts : tx.spendContexts [coin.output] =
      [{ tx, index := 0, input, spent := coin.output, prevouts := [coin.output],
         scriptCode := coin.output.script }] := by
    rw [Transaction.spendContexts, hinputs]
    rfl
  rw [validate_eq_ok_iff]
  constructor
  · rintro ⟨coins, h⟩
    have hcoins : coins.map Except.ok = [c.spendable input] := by rw [← h.spendable, hinputs]; rfl
    obtain ⟨coin', rfl, hcoin'⟩ := List.map_eq_singleton_iff.1 hcoins
    obtain rfl : coin = coin' := Except.ok.inj (hspendable.symm.trans hcoin'.symm)
    refine ⟨h.final, h.relative, h.value, h.scripts _ ?_⟩
    show _ ∈ tx.spendContexts [coin.output]
    rw [hcontexts]
    exact List.mem_singleton_self _
  · rintro ⟨hfinal, hrelative, hvalue, hverify⟩
    refine ⟨[coin], by simp [hinputs], by simp [hinputs, hspendable], hfinal, hrelative, hvalue, ?_⟩
    show ∀ ctx ∈ tx.spendContexts [coin.output], _
    rw [hcontexts, List.forall_mem_singleton]
    exact hverify

/-- A transaction whose one input spends an output that is locked by a script. The context is given
by what it holds, so that nothing computes the script's hash. -/
theorem exists_validate_locked {c : Chain} {tx : Transaction} {input : TxIn} {coin : Coin}
    (hinputs : tx.inputs = [input]) (hcoin : c.coins.get? input.outpoint = some coin)
    (hfree : input.outpoint ∉ c.mempoolSpends) {script : Bytes} {items : List Bytes}
    (hlock : coin.output.script = Script.lock script)
    (hwitness : input.witness = items ++ [script]) :
    ∃ ctx : SpendContext, ctx.ForScript script ∧ ctx.tx = tx ∧ ctx.input = input ∧
      ctx.spent = coin.output ∧
      (c.validate tx = .ok () ↔ c.isFinal tx = true ∧ c.checkRelativeLocks tx [coin] = .ok () ∧
        totalValue tx.outputs ≤ coin.output.value ∧
        Machine.evaluate ctx script items.reverse = .ok ()) := by
  refine ⟨{ tx, index := 0, input, spent := coin.output, prevouts := [coin.output],
            scriptCode := script }, ⟨?_, rfl, rfl, rfl⟩, rfl, rfl, rfl, ?_⟩
  · show tx.inputs[0]? = some input
    rw [hinputs]
    rfl
  · rw [validate_singleton hinputs hcoin hfree, SpendContext.verify_lock hlock hwitness,
      totalValue_singleton]

/-- A transaction that sets no relative locks and spends the given unspent outputs. -/
theorem validate_of_unspent {c : Chain} {tx : Transaction} {spent : List TxOut}
    (hinputs : tx.inputs ≠ [])
    (hunspent : tx.inputs.map (fun input => c.unspent? input.outpoint) = spent.map some)
    (hfree : ∀ input ∈ tx.inputs, input.outpoint ∉ c.mempoolSpends)
    (hfinal : c.isFinal tx = true)
    (hdisabled : ∀ input ∈ tx.inputs, input.sequence &&& LockTime.disableFlag ≠ 0)
    (hvalue : totalValue tx.outputs ≤ totalValue spent)
    (hscripts : ∀ ctx ∈ tx.spendContexts spent, ctx.verify = .ok ()) :
    c.validate tx = .ok () := by
  obtain ⟨coins, hcoins, houtputs⟩ := exists_spendable hunspent hfree
  refine validate_eq_ok_iff.2 ⟨coins, hinputs, hcoins, hfinal, ?_, ?_, ?_⟩
  · unfold checkRelativeLocks
    split
    · rfl
    · rw [forM_eq_ok]
      rintro ⟨input, coin⟩ hmem
      exact checkRelativeLock_of_disabled (hdisabled input (List.of_mem_zip hmem).1) coin
  · rwa [houtputs]
  · rwa [houtputs]

omit [KeyScheme] in
theorem forScript_singleton {c : Chain} {tx : Transaction} {input : TxIn} {coin : Coin}
    (hinputs : tx.inputs = [input]) (hcoin : c.coins.get? input.outpoint = some coin)
    (script : Bytes) : (c.scriptContext tx 0 input coin.output script).ForScript script where
  input := by
    show tx.inputs[0]? = some input
    rw [hinputs]
    rfl
  spent := by
    show (tx.inputs.filterMap fun input => c.unspent? input.outpoint)[0]? = some coin.output
    rw [hinputs, List.filterMap_cons, unspent?, hcoin]
    rfl
  scriptCode := rfl
  internalKey := rfl

end Chain

end Supersede
