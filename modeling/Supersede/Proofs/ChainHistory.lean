import Supersede.Proofs.ChainRuns

/-!
# The history of a chain

A chain is asked to make coins, to accept transactions and to add blocks (`Chain.Request`). It
handles one request after the other (`Chain.run`); a transaction that it refuses leaves it as it
was. Its *history* are the transactions by which outputs came about: those that made coins and those
that were accepted (`Chain.history`).

* `Chain.handles`: what a request does to a chain and adds to its history.
* `Chain.coins_apply_cases`, `Chain.coins_apply_of_txid_ne`: the unspent outputs after a transaction
  was accepted, whether or not its outputs take the place of others.
* `Chain.submit_of_unspendable`: a transaction is refused for its first input that cannot be spent.
-/

namespace Supersede

open Result

namespace Transaction

/-- The outputs that a transaction consumes. -/
def outpoints (tx : Transaction) : List OutPoint := tx.inputs.map (·.outpoint)

/-- The exact value of the outputs of a transaction. -/
def outputValue (tx : Transaction) : Nat := Amount.total (tx.outputs.map (·.value))

/-- A transaction creates the given output at a reference. Positions are counted in 32 bits. -/
def Creates (tx : Transaction) (o : OutPoint) (output : TxOut) : Prop :=
  ∃ vout, tx.outputs[vout]? = some output ∧ o = ⟨tx.txid, UInt32.ofNat vout⟩

theorem Creates.txid_eq {tx : Transaction} {o : OutPoint} {output : TxOut}
    (h : tx.Creates o output) : o.txid = tx.txid := by
  obtain ⟨vout, -, rfl⟩ := h
  rfl

end Transaction

namespace Chain

/-! ## Unspent outputs -/

/-- The new coin stands beside the old ones. -/
theorem coins_fund_cases {c : Chain} {value : Amount} {o : OutPoint} {coin : Coin}
    (h : (c.fund value).2.coins.get? o = some coin) :
    (fundingTransaction (c.funded + 1) value).Creates o coin.output ∧ coin.height = some c.height ∨
      c.coins.get? o = some coin := by
  let made := fundingTransaction (c.funded + 1) value
  have hinsert : (c.fund value).2.coins = c.coins.insert ⟨made.txid, 0⟩
    ⟨⟨value, anyoneScript⟩, some c.height⟩ := rfl
  rw [hinsert] at h
  by_cases ho : o = ⟨made.txid, 0⟩
  · rw [ho, SortedMap.get?_insert_self] at h
    cases h
    exact .inl ⟨⟨0, rfl, ho⟩, rfl⟩
  · rw [SortedMap.get?_insert_of_ne _ ho] at h
    exact .inr h

theorem coins_fund_of_txid_ne {c : Chain} {value : Amount} {o : OutPoint}
    (h : o.txid ≠ (fundingTransaction (c.funded + 1) value).txid) :
    (c.fund value).2.coins.get? o = c.coins.get? o := by
  refine SortedMap.get?_insert_of_ne _ ?_ _
  rintro rfl
  exact h rfl

theorem coins_apply_eq (c : Chain) (tx : Transaction) :
    (c.apply tx).coins = (created tx).foldl (fun m e => m.insert e.1 e.2)
      (c.coins.filter fun o _ => decide (o ∉ tx.outpoints)) := by
  rw [← SortedMap.foldl_erase]
  rfl

theorem creates_of_mem_created {tx : Transaction} {o : OutPoint} {coin : Coin}
    (h : (o, coin) ∈ created tx) : tx.Creates o coin.output ∧ coin.height = none := by
  obtain ⟨vout, hlt, heq⟩ := List.mem_mapIdx.1 h
  cases heq
  exact ⟨⟨vout, List.getElem?_eq_getElem hlt, rfl⟩, rfl⟩

/-- What is unspent after a transaction was accepted was created by it, or was unspent before and
has not been consumed. -/
theorem coins_apply_cases {c : Chain} {tx : Transaction} {o : OutPoint} {coin : Coin}
    (h : (c.apply tx).coins.get? o = some coin) :
    tx.Creates o coin.output ∧ coin.height = none ∨
      o ∉ tx.outpoints ∧ c.coins.get? o = some coin := by
  rw [coins_apply_eq] at h
  rcases SortedMap.get?_foldl_insert_eq_some h with hcreated | hleft
  · exact .inl (creates_of_mem_created hcreated)
  · rw [SortedMap.get?_filter_eq_some_iff, decide_eq_true_iff] at hleft
    exact .inr ⟨hleft.2, hleft.1⟩

theorem coins_apply_of_txid_ne {c : Chain} {tx : Transaction} {o : OutPoint}
    (h : o.txid ≠ tx.txid) :
    (c.apply tx).coins.get? o = if o ∈ tx.outpoints then none else c.coins.get? o := by
  have hnew : o ∉ (created tx).map (·.1) := by
    intro hmem
    obtain ⟨⟨o', coin⟩, hcreated, rfl⟩ := List.mem_map.1 hmem
    exact h (creates_of_mem_created hcreated).1.txid_eq
  rw [coins_apply_eq, SortedMap.get?_foldl_insert_of_notMem hnew]
  apply Option.ext
  intro coin
  rw [SortedMap.get?_filter_eq_some_iff]
  by_cases ho : o ∈ tx.outpoints <;> simp [ho]

/-! ## Requests -/

/-- What a chain can be asked. -/
inductive Request where
  | fund (value : Amount)
  | submit (tx : Transaction)
  | advance (blocks : UInt32)

variable [KeyScheme]

/-- The chain after a request. A transaction that is refused leaves it as it was. -/
def handle (c : Chain) : Request → Chain
  | .fund value => (c.fund value).2
  | .submit tx =>
    match c.submit tx with
    | .ok (_, c') => c'
    | .error _ => c
  | .advance blocks => c.advance blocks

/-- The transactions by which a request brings outputs about. -/
def makes (c : Chain) : Request → List Transaction
  | .fund value => [fundingTransaction (c.funded + 1) value]
  | .submit tx =>
    match c.submit tx with
    | .ok _ => [tx]
    | .error _ => []
  | .advance _ => []

/-- The chain after some requests. -/
def run (c : Chain) (requests : List Request) : Chain := requests.foldl handle c

theorem run_cons (c : Chain) (request : Request) (requests : List Request) :
    c.run (request :: requests) = (c.handle request).run requests := rfl

/-- The transactions by which some requests bring outputs about, oldest first. -/
def history (c : Chain) : List Request → List Transaction
  | [] => []
  | request :: requests => c.makes request ++ (c.handle request).history requests

theorem submit_eq_ok {c c' : Chain} {tx : Transaction} {txid : Txid} :
    c.submit tx = .ok (txid, c') ↔ c.validate tx = .ok () ∧ txid = tx.txid ∧ c' = c.apply tx := by
  simp only [submit, bind_eq_ok, pure_eq_ok, Prod.mk.injEq]
  constructor
  · rintro ⟨⟨⟩, hvalid, rfl, rfl⟩
    exact ⟨hvalid, rfl, rfl⟩
  · rintro ⟨hvalid, rfl, rfl⟩
    exact ⟨(), hvalid, rfl, rfl⟩

/-- What a request can do to a chain, and what it adds to the history. -/
inductive Handles (c : Chain) : Request → List Transaction → Chain → Prop
  | funded (value : Amount) :
      Handles c (.fund value) [fundingTransaction (c.funded + 1) value] (c.fund value).2
  | accepted {tx : Transaction} {coins : List Coin} (admits : c.Admits tx coins) :
      Handles c (.submit tx) [tx] (c.apply tx)
  | refused {tx : Transaction} : Handles c (.submit tx) [] c
  | idle : Handles c (.advance 0) [] c
  | mined {blocks : UInt32} (some : blocks ≠ 0) : Handles c (.advance blocks) [] (c.advance blocks)

theorem handles (c : Chain) (request : Request) :
    c.Handles request (c.makes request) (c.handle request) := by
  cases request with
  | fund value => exact .funded value
  | submit tx =>
    cases hsubmit : c.submit tx with
    | error rejection =>
      simp only [makes, handle, hsubmit]
      exact .refused
    | ok r =>
      obtain ⟨txid, c'⟩ := r
      obtain ⟨hvalid, -, rfl⟩ := submit_eq_ok.1 hsubmit
      obtain ⟨coins, hadmits⟩ := validate_eq_ok_iff.1 hvalid
      simp only [makes, handle, hsubmit]
      exact .accepted hadmits
  | advance blocks =>
    by_cases hzero : blocks = 0
    · subst hzero
      exact .idle
    · exact .mined hzero

/-- A valid transaction is accepted and enters the history. -/
theorem handle_of_validate {c : Chain} {tx : Transaction} (h : c.validate tx = .ok ()) :
    c.handle (.submit tx) = c.apply tx ∧ c.makes (.submit tx) = [tx] := by
  have hsubmit : c.submit tx = .ok (tx.txid, c.apply tx) := submit_eq_ok.2 ⟨h, rfl, rfl⟩
  simp only [handle, makes, hsubmit]
  exact ⟨trivial, trivial⟩

/-! ## Inputs of a transaction -/

/-- What an accepted transaction consumes is unspent. -/
theorem Admits.exists_coin {c : Chain} {tx : Transaction} {coins : List Coin}
    (h : c.Admits tx coins) {o : OutPoint} (ho : o ∈ tx.outpoints) :
    ∃ coin, c.coins.get? o = some coin := by
  obtain ⟨input, hinput, rfl⟩ := List.mem_map.1 ho
  have hmem : c.spendable input ∈ coins.map Except.ok := by
    rw [← h.spendable]
    exact List.mem_map_of_mem hinput
  obtain ⟨coin, -, hcoin⟩ := List.mem_map.1 hmem
  exact ⟨coin, (spendable_eq_ok.1 hcoin.symm).2⟩

omit [KeyScheme] in
/-- Of several lookups, the first that fails decides. -/
theorem mapM_spendable_of_error {c : Chain} {before : List TxIn} {input : TxIn}
    {rejection : Rejection} (hbefore : ∀ i ∈ before, ∃ coin, c.spendable i = .ok coin)
    (h : c.spendable input = .error rejection) (after : List TxIn) :
    (before ++ input :: after).mapM c.spendable = .error rejection := by
  induction before with
  | nil =>
    rw [List.nil_append, List.mapM_cons, h]
    rfl
  | cons i before ih =>
    obtain ⟨⟨coin, hcoin⟩, hrest⟩ := List.forall_mem_cons.1 hbefore
    rw [List.cons_append, List.mapM_cons, hcoin, ok_bind, ih hrest]
    rfl

/-- A transaction is refused for its first input that cannot be spent. -/
theorem submit_of_unspendable {c : Chain} {tx : Transaction} {before after : List TxIn}
    {input : TxIn} {rejection : Rejection} (hinputs : tx.inputs = before ++ input :: after)
    (hbefore : ∀ i ∈ before, ∃ coin, c.spendable i = .ok coin)
    (h : c.spendable input = .error rejection) : c.submit tx = .error rejection := by
  have hsome : tx.inputs.isEmpty = false := by simp [hinputs]
  have hfirst := mapM_spendable_of_error hbefore h after
  rw [← hinputs] at hfirst
  simp only [submit, validate, hsome, hfirst, Bool.false_eq_true, if_false]
  rfl

/-! ## A chain with one transaction -/

/-- A transaction that spends the first coin of a chain, if that is worth a thousand units. -/
def firstSpend : Transaction :=
  ⟨2, 0, [{ outpoint := (({} : Chain).fund 1000).1 }], [⟨900, anyoneScript⟩]⟩

theorem validate_firstSpend : (({} : Chain).fund 1000).2.validate firstSpend = .ok () := by
  let input : TxIn := { outpoint := (({} : Chain).fund 1000).1 }
  have hinputs : firstSpend.inputs = [input] := rfl
  have hlocks (coin : Coin) :
      (({} : Chain).fund 1000).2.checkRelativeLocks firstSpend [coin] = .ok () :=
    (checkRelativeLocks_singleton rfl hinputs).2 (checkRelativeLock_of_disabled (by decide) _)
  exact (validate_anyone hinputs (coins_fund {} 1000) List.not_mem_nil rfl).2
    ⟨rfl, hlocks _, (by decide : (900 : Amount) ≤ 1000)⟩

/-- The chain with that transaction in its mempool. -/
def firstSpent : Chain := (({} : Chain).fund 1000).2.apply firstSpend

theorem handle_firstSpend :
    (({} : Chain).handle (.fund 1000)).handle (.submit firstSpend) = firstSpent ∧
      (({} : Chain).handle (.fund 1000)).makes (.submit firstSpend) = [firstSpend] :=
  handle_of_validate validate_firstSpend

theorem run_firstSpend (requests : List Request) :
    ({} : Chain).run (.fund 1000 :: .submit firstSpend :: requests) = firstSpent.run requests := by
  rw [run_cons, run_cons, handle_firstSpend.1]

theorem history_firstSpend (requests : List Request) :
    ({} : Chain).history (.fund 1000 :: .submit firstSpend :: requests) =
      fundingTransaction 1 1000 :: firstSpend :: firstSpent.history requests := by
  have hfund : ({} : Chain).makes (.fund 1000) = [fundingTransaction 1 1000] := rfl
  rw [history, history, hfund, handle_firstSpend.1, handle_firstSpend.2]
  rfl

end Chain

end Supersede
