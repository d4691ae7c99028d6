import Supersede.Proofs.Validation

/-!
# Runs of a chain

A chain starts empty and changes in three ways: a coin is made, a transaction is accepted, or blocks
are added. What holds of every chain that can come about is shown for one step and carried along the
run.

* `Chain.advance_eq_iterate`: blocks are added one after the other.
* `Chain.Step`, `Chain.Reachable`: the steps and the chains that they lead to.
* `Chain.coins_advance`, `Chain.coins_apply`: the unspent outputs after blocks were added and after
  a transaction was accepted.
* `Chain.Reachable.threshold_le`: the clock never shows what counts as a height.
-/

namespace Supersede

open Result

namespace Chain

/-! ## Blocks -/

theorem add_blockInterval (time blocks : UInt32) :
    time + blockInterval + (blocks - 1) * blockInterval = time + blocks * blockInterval := by
  rw [UInt32.sub_mul, UInt32.one_mul, UInt32.add_assoc, UInt32.add_comm blockInterval,
    UInt32.sub_add_cancel]

/-- After one block, another one finds nothing to confirm: only the height and the clock go on. -/
theorem mine_mine (c : Chain) :
    c.mine.mine = { c.mine with
      height := c.mine.height + 1, time := c.mine.time + blockInterval } := by
  have hcoins : (c.mine.coins.filterMap fun _ coin =>
      some (Coin.confirmAt (c.mine.height + 1) coin)) = c.mine.coins := by
    apply SortedMap.ext_get?
    intro o
    simp only [mine, SortedMap.get?_filterMap]
    cases c.coins.get? o <;> rfl
  conv_lhs => rw [mine, hcoins]
  rfl

/-- One block and then the others, as long as all of them can be counted. -/
theorem advance_succ (c : Chain) {blocks : UInt32} (h : blocks + 1 ≠ 0) :
    c.advance (blocks + 1) = c.mine.advance blocks := by
  have hfirst : c.advance (blocks + 1) = { c.mine with
      height := c.mine.height + blocks, time := c.mine.time + blocks * blockInterval } := by
    rw [advance, if_neg h, UInt32.add_sub_cancel]
  rw [hfirst, advance]
  by_cases hzero : blocks = 0
  · rw [if_pos hzero, hzero, UInt32.zero_mul, UInt32.add_zero, UInt32.add_zero]
  · rw [if_neg hzero, mine_mine]
    have hheight : c.mine.height + 1 + (blocks - 1) = c.mine.height + blocks := by
      rw [UInt32.add_assoc, UInt32.add_comm 1, UInt32.sub_add_cancel]
    rw [← hheight, ← add_blockInterval]

/-- Blocks are added one after the other. -/
theorem advance_eq_iterate (c : Chain) (blocks : UInt32) :
    c.advance blocks = mine^[blocks.toNat] c := by
  induction hn : blocks.toNat generalizing c blocks with
  | zero =>
    obtain rfl : blocks = 0 := UInt32.toNat_inj.1 hn
    rfl
  | succ n ih =>
    have hprev : (blocks - 1).toNat = n := by
      rw [UInt32.toNat_sub_of_le _ _ (UInt32.le_iff_toNat_le.2 (hn ▸ Nat.le_add_left 1 n)), hn]
      rfl
    have hne : blocks - 1 + 1 ≠ 0 := by
      rw [UInt32.sub_add_cancel]
      rintro rfl
      cases hn
    rw [← UInt32.sub_add_cancel blocks 1, advance_succ c hne, ih c.mine (blocks - 1) hprev,
      Function.iterate_succ_apply]

theorem toNat_time_advance {c : Chain} {blocks : UInt32}
    (h : c.time.toNat + blocks.toNat * blockInterval.toNat < UInt32.size) :
    (c.advance blocks).time.toNat = c.time.toNat + blocks.toNat * blockInterval.toNat := by
  have htime : (c.advance blocks).time = c.time + blocks * blockInterval := by
    unfold advance
    by_cases hzero : blocks = 0
    · rw [if_pos hzero, hzero, UInt32.zero_mul, UInt32.add_zero]
    · rw [if_neg hzero]
      exact add_blockInterval c.time blocks
  have hblocks : (blocks * blockInterval).toNat = blocks.toNat * blockInterval.toNat := by
    rw [UInt32.toNat_mul, Nat.mod_eq_of_lt ((Nat.le_add_left _ _).trans_lt h)]
  rw [htime, UInt32.toNat_add, hblocks, Nat.mod_eq_of_lt h]

theorem coins_fund (c : Chain) (value : Amount) :
    (c.fund value).2.coins.get? (c.fund value).1 =
      some ⟨⟨value, anyoneScript⟩, some c.height⟩ :=
  SortedMap.get?_insert_self _ _ _

theorem coins_advance {c : Chain} {blocks : UInt32} (h : blocks ≠ 0) (o : OutPoint) :
    (c.advance blocks).coins.get? o = (c.coins.get? o).map (Coin.confirmAt (c.height + 1)) := by
  rw [advance, if_neg h]
  show (c.coins.filterMap fun _ coin => some (Coin.confirmAt (c.height + 1) coin)).get? o = _
  rw [SortedMap.get?_filterMap]
  cases c.coins.get? o <;> rfl

theorem unspent?_advance (c : Chain) (blocks : UInt32) (o : OutPoint) :
    (c.advance blocks).unspent? o = c.unspent? o := by
  by_cases h : blocks = 0
  · rw [advance, if_pos h]
  · rw [unspent?, coins_advance h, Option.map_map, unspent?]
    rfl

theorem mempoolSpends_advance {c : Chain} {blocks : UInt32} (h : blocks ≠ 0) :
    (c.advance blocks).mempoolSpends = [] := by
  rw [advance, if_neg h]
  rfl

/-! ## Transactions -/

/-- The outputs of a transaction stand in the order of their positions. -/
theorem compare_vout {txid : Txid} {i j : Nat} (hij : i < j) (hj : j < UInt32.size) :
    compare (⟨txid, UInt32.ofNat i⟩ : OutPoint) ⟨txid, UInt32.ofNat j⟩ = .lt := by
  have hvout : compare (UInt32.ofNat i) (UInt32.ofNat j) = .lt := by
    rw [Std.compare_eq_lt, UInt32.lt_iff_toNat_lt, UInt32.toNat_ofNat', UInt32.toNat_ofNat',
      Nat.mod_eq_of_lt (hij.trans hj), Nat.mod_eq_of_lt hj]
    exact hij
  show (compare txid txid).then (compare (UInt32.ofNat i) (UInt32.ofNat j)) = .lt
  rw [Std.ReflOrd.compare_self, hvout]
  rfl

/-- The coins of a transaction's outputs, before blocks confirm them. -/
def created (tx : Transaction) : List (OutPoint × Coin) :=
  tx.outputs.mapIdx fun vout output => (⟨tx.txid, UInt32.ofNat vout⟩, ⟨output, none⟩)

/-- An accepted transaction leaves its outputs unspent. -/
theorem coins_apply (c : Chain) {tx : Transaction} {vout : Nat} {output : TxOut}
    (hlength : tx.outputs.length ≤ UInt32.size) (h : tx.outputs[vout]? = some output) :
    (c.apply tx).coins.get? ⟨tx.txid, UInt32.ofNat vout⟩ = some ⟨output, none⟩ := by
  have hsorted : (created tx).Pairwise fun a b => compare a.1 b.1 = .lt := by
    rw [List.pairwise_iff_getElem]
    intro i j hi hj hij
    rw [created, List.length_mapIdx] at hj
    simp only [created, List.getElem_mapIdx]
    exact compare_vout hij (hj.trans_le hlength)
  have hmem : (⟨tx.txid, UInt32.ofNat vout⟩, ⟨output, none⟩) ∈ created tx := by
    obtain ⟨hlt, rfl⟩ := List.getElem?_eq_some_iff.1 h
    exact List.mem_mapIdx.2 ⟨vout, hlt, rfl⟩
  let left := (tx.inputs.map (·.outpoint)).foldl SortedMap.erase c.coins
  show ((created tx).foldl (fun m e => m.insert e.1 e.2) left).get? _ = _
  rw [SortedMap.get?_foldl_insert hsorted, (SortedMap.find_eq_some_iff hsorted).2 hmem]
  rfl

variable [KeyScheme]

/-- An output that anyone can spend asks for nothing. -/
theorem verify_anyone {ctx : SpendContext} (h : ctx.spent.script = anyoneScript) :
    ctx.verify = .ok () := by
  have hkind : OutputKind.of anyoneScript = .other := rfl
  have hrun : Machine.evaluate ctx anyoneScript [] = .ok () := rfl
  simp only [SpendContext.verify, h, hkind, hrun]

/-- A coin that anyone can spend. -/
theorem validate_anyone {c : Chain} {tx : Transaction} {input : TxIn} {coin : Coin}
    (hinputs : tx.inputs = [input]) (hcoin : c.coins.get? input.outpoint = some coin)
    (hfree : input.outpoint ∉ c.mempoolSpends) (hscript : coin.output.script = anyoneScript) :
    c.validate tx = .ok () ↔ c.isFinal tx = true ∧ c.checkRelativeLocks tx [coin] = .ok () ∧
      totalValue tx.outputs ≤ coin.output.value := by
  rw [validate_singleton hinputs hcoin hfree, totalValue_singleton]
  refine and_congr_right fun _ => and_congr_right fun _ => and_iff_left ?_
  exact verify_anyone hscript

/-! ## Steps -/

/-- What can happen to a chain: a coin is made, a transaction is accepted, or blocks are added as
long as the clock can show their time. -/
inductive Step : Chain → Chain → Prop
  | fund (c : Chain) (value : Amount) : Step c (c.fund value).2
  | submit {c c' : Chain} {tx : Transaction} {txid : Txid} (h : c.submit tx = .ok (txid, c')) :
      Step c c'
  | advance (c : Chain) (blocks : UInt32)
      (h : c.time.toNat + blocks.toNat * blockInterval.toNat < UInt32.size) :
      Step c (c.advance blocks)

/-- A chain that a new one can become. -/
def Reachable : Chain → Prop := Relation.ReflTransGen Step {}

/-- Time does not run backwards. -/
theorem Step.time_le {c c' : Chain} (h : Step c c') : c.time ≤ c'.time := by
  cases h with
  | fund value => exact UInt32.le_refl _
  | submit h =>
    simp only [Chain.submit, bind_eq_ok, pure_eq_ok] at h
    obtain ⟨-, -, heq⟩ := h
    cases heq
    exact UInt32.le_refl _
  | advance blocks h =>
    rw [UInt32.le_iff_toNat_le, toNat_time_advance h]
    exact Nat.le_add_right _ _

/-- The clock shows times that count as times and not as heights. -/
theorem Reachable.threshold_le {c : Chain} (h : c.Reachable) : LockTime.threshold ≤ c.time := by
  induction h with
  | refl =>
    show LockTime.threshold ≤ 1500000000
    decide
  | tail _ hstep ih => exact UInt32.le_trans ih hstep.time_le

end Chain

end Supersede
