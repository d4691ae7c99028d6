import Supersede.Proofs.ChainHistory

/-!
# No output is spent twice

A chain keeps five books: the unspent outputs with their heights, the transactions that wait for a
block, what these spend, the heights of those that have confirmed, and a count of the coins that
were made. Funding, acceptance and blocks each change some of them.

**Theorem (`Chain.bookkeeping`).** After any requests the books agree with the history of the chain
(`Chain.Bookkeeping`). No output is both unspent and spent by a waiting transaction. A coin has no
height exactly while the transaction that created it waits, and no height exceeds that of the tip.
Over the whole history no output is consumed twice: a second attempt is a conflict while the first
spender waits, and has no input to spend once it has confirmed.

It is assumed that the counters do not run over (`Chain.Fits`) and that the identifiers of the
transactions in the history tell them apart (`Transaction.TellApart`).

The proof is an induction over the requests with the invariant `Chain.Consistent`. What carries it
is that every identifier in the history is used once: a transaction with the identifier of an older
one would consume the same outputs, which are gone, and coins are numbered. So new outputs never
take the place of old ones, and what has been consumed never comes back.
-/

namespace Supersede

namespace Transaction

/-- The transaction without its witnesses, which its identifier does not cover. -/
def withoutWitnesses (tx : Transaction) : Transaction :=
  { tx with inputs := tx.inputs.map fun input => { input with witness := [] } }

/-- Of these transactions, those with the same identifier differ in their witnesses only. -/
def TellApart (txs : List Transaction) : Prop :=
  ∀ tx ∈ txs, ∀ tx' ∈ txs, tx.txid = tx'.txid → tx.withoutWitnesses = tx'.withoutWitnesses

theorem TellApart.mono {txs txs' : List Transaction} (h : TellApart txs') (hsub : txs ⊆ txs') :
    TellApart txs :=
  fun tx htx tx' htx' => h tx (hsub htx) tx' (hsub htx')

theorem outpoints_withoutWitnesses (tx : Transaction) :
    tx.withoutWitnesses.outpoints = tx.outpoints := by
  simp [withoutWitnesses, outpoints, Function.comp_def]

theorem inputs_withoutWitnesses_eq_nil {tx : Transaction} :
    tx.withoutWitnesses.inputs = [] ↔ tx.inputs = [] :=
  List.map_eq_nil_iff

/-- The identifiers of some transactions. -/
def ids (txs : List Transaction) : List Txid := txs.map (·.txid)

theorem mem_ids_append {txid : Txid} {txs txs' : List Transaction} :
    txid ∈ ids (txs ++ txs') ↔ txid ∈ ids txs ∨ txid ∈ ids txs' := by
  rw [ids, List.map_append, List.mem_append]
  rfl

end Transaction

open Transaction

namespace Chain

/-! ## Blocks -/

theorem toNat_height_advance {c : Chain} {blocks : UInt32} (hne : blocks ≠ 0)
    (h : c.height.toNat + blocks.toNat < UInt32.size) :
    (c.advance blocks).height.toNat = c.height.toNat + blocks.toNat := by
  have hheight : (c.advance blocks).height = c.height + blocks := by
    rw [advance, if_neg hne]
    show c.height + 1 + (blocks - 1) = _
    rw [UInt32.add_assoc, UInt32.add_comm 1, UInt32.sub_add_cancel]
  rw [hheight, UInt32.toNat_add, Nat.mod_eq_of_lt h]

theorem confirmed_advance {c : Chain} {blocks : UInt32} (h : blocks ≠ 0) (txid : Txid) :
    (c.advance blocks).confirmed.get? txid =
      if txid ∈ c.mempool then some (c.height + 1) else c.confirmed.get? txid := by
  rw [advance, if_neg h]
  exact SortedMap.get?_foldl_insert_const c.mempool (c.height + 1) c.confirmed txid

theorem mempool_advance {c : Chain} {blocks : UInt32} (h : blocks ≠ 0) :
    (c.advance blocks).mempool = [] := by
  rw [advance, if_neg h]
  rfl

/-! ## The invariant -/

/-- The books of a chain agree with its history. -/
structure Consistent (c : Chain) (log : List Transaction) : Prop where
  /-- Unspent outputs were created. -/
  created : ∀ o coin, c.coins.get? o = some coin → ∃ t ∈ log, t.Creates o coin.output
  /-- A coin has no height while its creator waits. -/
  waits : ∀ o coin, c.coins.get? o = some coin → (coin.height = none ↔ o.txid ∈ c.mempool)
  height_le : ∀ o coin h, c.coins.get? o = some coin → coin.height = some h → h ≤ c.height
  /-- What was consumed had been created, and is gone. -/
  consumed : ∀ t ∈ log, ∀ o ∈ t.outpoints, o.txid ∈ ids log ∧ c.coins.get? o = none
  once : log.Pairwise fun t t' => ∀ o ∈ t.outpoints, o ∉ t'.outpoints
  spends : ∀ o, o ∈ c.mempoolSpends ↔ ∃ t ∈ log, t.txid ∈ c.mempool ∧ o ∈ t.outpoints
  waiting : ∀ txid ∈ c.mempool, txid ∈ ids log
  confirmed : ∀ txid h, c.confirmed.get? txid = some h →
    txid ∈ ids log ∧ 0 < h.toNat ∧ h ≤ c.height
  /-- An accepted transaction waits until it is confirmed. -/
  status : ∀ t ∈ log, t.inputs ≠ [] → (t.txid ∈ c.mempool ↔ c.confirmed.get? t.txid = none)
  /-- The transactions that make coins are numbered. -/
  numbered : ∀ t ∈ log, t.inputs = [] → t.lockTime ≤ c.funded

namespace Consistent

variable {c : Chain} {log : List Transaction}

theorem new : Consistent {} [] where
  created := fun _ _ h => nomatch h
  waits := fun _ _ h => nomatch h
  height_le := fun _ _ _ h => nomatch h
  consumed := fun _ h => nomatch h
  once := .nil
  spends := by simp
  waiting := fun _ h => nomatch h
  confirmed := fun _ _ h => nomatch h
  status := fun _ h => nomatch h
  numbered := fun _ h => nomatch h

theorem txid_mem (h : Consistent c log) {o : OutPoint} {coin : Coin}
    (hcoin : c.coins.get? o = some coin) : o.txid ∈ ids log := by
  obtain ⟨t, ht, hcreates⟩ := h.created o coin hcoin
  rw [hcreates.txid_eq]
  exact List.mem_map_of_mem ht

/-! ## New identifiers -/

/-- The transaction that makes the next coin has a new number, so it has a new identifier. -/
theorem txid_fund_notMem (h : Consistent c log) {value : Amount}
    (hfits : c.funded.toNat + 1 < UInt32.size)
    (hids : TellApart (log ++ [fundingTransaction (c.funded + 1) value])) :
    (fundingTransaction (c.funded + 1) value).txid ∉ ids log := by
  intro hmem
  obtain ⟨t, ht, hid⟩ := List.mem_map.1 hmem
  have hsame := hids t (by simp [ht]) _ (by simp) hid
  have hinputs : t.inputs = [] := by
    rw [← inputs_withoutWitnesses_eq_nil, hsame]
    rfl
  have hnumber : t.lockTime = c.funded + 1 := congrArg Transaction.lockTime hsame
  have hle := h.numbered t ht hinputs
  rw [hnumber, UInt32.le_iff_toNat_le, UInt32.toNat_add, UInt32.toNat_one,
    Nat.mod_eq_of_lt hfits] at hle
  omega

variable [KeyScheme]

/-- What an accepted transaction consumes is unspent, so none before it has consumed the same. -/
theorem txid_accepted_notMem (h : Consistent c log) {tx : Transaction} {coins : List Coin}
    (hadmits : c.Admits tx coins) (hids : TellApart (log ++ [tx])) : tx.txid ∉ ids log := by
  intro hmem
  obtain ⟨t, ht, hid⟩ := List.mem_map.1 hmem
  have hsame := hids t (by simp [ht]) tx (by simp) hid
  have houtpoints : t.outpoints = tx.outpoints := by
    rw [← outpoints_withoutWitnesses, hsame, outpoints_withoutWitnesses]
  obtain ⟨input, hinput⟩ := List.exists_mem_of_ne_nil _ hadmits.inputs
  have ho : input.outpoint ∈ tx.outpoints := List.mem_map_of_mem hinput
  obtain ⟨coin, hcoin⟩ := hadmits.exists_coin ho
  have hgone := (h.consumed t ht _ (houtpoints ▸ ho)).2
  rw [hcoin] at hgone
  cases hgone

/-! ## Steps -/

omit [KeyScheme] in
theorem fund (h : Consistent c log) {value : Amount} (hfits : c.funded.toNat + 1 < UInt32.size)
    (hnew : (fundingTransaction (c.funded + 1) value).txid ∉ ids log) :
    Consistent (c.fund value).2 (log ++ [fundingTransaction (c.funded + 1) value]) where
  created o coin hcoin := by
    rcases coins_fund_cases hcoin with ⟨hcreates, -⟩ | hcoin
    · exact ⟨_, List.mem_concat_self, hcreates⟩
    · obtain ⟨t, ht, hcreates⟩ := h.created o coin hcoin
      exact ⟨t, List.mem_append_left _ ht, hcreates⟩
  waits o coin hcoin := by
    rcases coins_fund_cases hcoin with ⟨hcreates, hheight⟩ | hcoin
    · have hidle : o.txid ∉ c.mempool := by
        rw [hcreates.txid_eq]
        exact fun hwaits => hnew (h.waiting _ hwaits)
      rw [hheight]
      exact iff_of_false nofun hidle
    · exact h.waits o coin hcoin
  height_le o coin height hcoin hheight := by
    rcases coins_fund_cases hcoin with ⟨-, htip⟩ | hcoin
    · rw [htip] at hheight
      cases hheight
      exact UInt32.le_refl _
    · exact h.height_le o coin height hcoin hheight
  consumed t ht o ho := by
    rcases List.mem_append.1 ht with ht | ht
    · obtain ⟨hid, hgone⟩ := h.consumed t ht o ho
      refine ⟨mem_ids_append.2 (.inl hid), ?_⟩
      rw [coins_fund_of_txid_ne fun heq => hnew (heq ▸ hid), hgone]
    · obtain rfl := List.mem_singleton.1 ht
      cases ho
  once := by
    refine List.pairwise_append.2 ⟨h.once, List.pairwise_singleton .., ?_⟩
    intro t _ t' ht' o _
    obtain rfl := List.mem_singleton.1 ht'
    exact List.not_mem_nil
  spends o := by
    refine (h.spends o).trans ⟨?_, ?_⟩
    · rintro ⟨t, ht, hspends⟩
      exact ⟨t, List.mem_append_left _ ht, hspends⟩
    · rintro ⟨t, ht, hspends⟩
      rcases List.mem_append.1 ht with ht | ht
      · exact ⟨t, ht, hspends⟩
      · obtain rfl := List.mem_singleton.1 ht
        cases hspends.2
  waiting txid htxid := mem_ids_append.2 (.inl (h.waiting txid htxid))
  confirmed txid height hheight := by
    obtain ⟨hid, hheight⟩ := h.confirmed txid height hheight
    exact ⟨mem_ids_append.2 (.inl hid), hheight⟩
  status t ht hinputs := by
    rcases List.mem_append.1 ht with ht | ht
    · exact h.status t ht hinputs
    · obtain rfl := List.mem_singleton.1 ht
      exact absurd rfl hinputs
  numbered t ht hinputs := by
    rcases List.mem_append.1 ht with ht | ht
    · refine UInt32.le_trans (h.numbered t ht hinputs) ?_
      show c.funded ≤ c.funded + 1
      rw [UInt32.le_iff_toNat_le, UInt32.toNat_add, UInt32.toNat_one, Nat.mod_eq_of_lt hfits]
      exact Nat.le_succ _
    · obtain rfl := List.mem_singleton.1 ht
      exact UInt32.le_refl _

theorem accept (h : Consistent c log) {tx : Transaction} {coins : List Coin}
    (hadmits : c.Admits tx coins) (hnew : tx.txid ∉ ids log) :
    Consistent (c.apply tx) (log ++ [tx]) where
  created o coin hcoin := by
    rcases coins_apply_cases hcoin with ⟨hcreates, -⟩ | ⟨-, hcoin⟩
    · exact ⟨tx, List.mem_concat_self, hcreates⟩
    · obtain ⟨t, ht, hcreates⟩ := h.created o coin hcoin
      exact ⟨t, List.mem_append_left _ ht, hcreates⟩
  waits o coin hcoin := by
    show _ ↔ o.txid ∈ c.mempool ++ [tx.txid]
    rw [List.mem_append, List.mem_singleton]
    rcases coins_apply_cases hcoin with ⟨hcreates, hheight⟩ | ⟨-, hcoin⟩
    · exact iff_of_true hheight (.inr hcreates.txid_eq)
    · have hne : o.txid ≠ tx.txid := fun heq => hnew (heq ▸ h.txid_mem hcoin)
      rw [h.waits o coin hcoin, or_iff_left hne]
  height_le o coin height hcoin hheight := by
    rcases coins_apply_cases hcoin with ⟨-, hnone⟩ | ⟨-, hcoin⟩
    · rw [hnone] at hheight
      cases hheight
    · exact h.height_le o coin height hcoin hheight
  consumed t ht o ho := by
    have hold : o.txid ∈ ids log ∧ (o ∈ tx.outpoints ∨ c.coins.get? o = none) := by
      rcases List.mem_append.1 ht with ht | ht
      · obtain ⟨hid, hgone⟩ := h.consumed t ht o ho
        exact ⟨hid, .inr hgone⟩
      · obtain rfl := List.mem_singleton.1 ht
        obtain ⟨coin, hcoin⟩ := hadmits.exists_coin ho
        exact ⟨h.txid_mem hcoin, .inl ho⟩
    refine ⟨mem_ids_append.2 (.inl hold.1), ?_⟩
    rw [coins_apply_of_txid_ne fun heq => hnew (heq ▸ hold.1)]
    rcases hold.2 with hspent | hgone
    · exact if_pos hspent
    · rw [hgone, ite_self]
  once := by
    refine List.pairwise_append.2 ⟨h.once, List.pairwise_singleton .., ?_⟩
    intro t ht t' ht' o ho hspent
    obtain rfl := List.mem_singleton.1 ht'
    obtain ⟨coin, hcoin⟩ := hadmits.exists_coin hspent
    rw [(h.consumed t ht o ho).2] at hcoin
    cases hcoin
  spends o := by
    show o ∈ tx.outpoints ++ c.mempoolSpends ↔
      ∃ t ∈ log ++ [tx], t.txid ∈ c.mempool ++ [tx.txid] ∧ o ∈ t.outpoints
    rw [List.mem_append, h.spends o]
    constructor
    · rintro (ho | ⟨t, ht, hwaits, ho⟩)
      · exact ⟨tx, List.mem_concat_self, List.mem_concat_self, ho⟩
      · exact ⟨t, List.mem_append_left _ ht, List.mem_append_left _ hwaits, ho⟩
    · rintro ⟨t, ht, hwaits, ho⟩
      rcases List.mem_append.1 ht with ht | ht
      · rcases List.mem_append.1 hwaits with hwaits | hself
        · exact .inr ⟨t, ht, hwaits, ho⟩
        · exact absurd (List.mem_singleton.1 hself ▸ List.mem_map_of_mem ht) hnew
      · exact .inl (List.mem_singleton.1 ht ▸ ho)
  waiting txid htxid := by
    rcases List.mem_append.1 htxid with htxid | hself
    · exact mem_ids_append.2 (.inl (h.waiting txid htxid))
    · exact mem_ids_append.2 (.inr hself)
  confirmed txid height hheight := by
    obtain ⟨hid, hheight⟩ := h.confirmed txid height hheight
    exact ⟨mem_ids_append.2 (.inl hid), hheight⟩
  status t ht hinputs := by
    show t.txid ∈ c.mempool ++ [tx.txid] ↔ c.confirmed.get? t.txid = none
    rw [List.mem_append, List.mem_singleton]
    rcases List.mem_append.1 ht with ht | ht
    · have hne : t.txid ≠ tx.txid := fun heq => hnew (heq ▸ List.mem_map_of_mem ht)
      rw [← h.status t ht hinputs, or_iff_left hne]
    · obtain rfl := List.mem_singleton.1 ht
      refine iff_of_true (.inr rfl) (Option.eq_none_iff_forall_ne_some.2 ?_)
      intro height hheight
      exact hnew (h.confirmed _ _ hheight).1
  numbered t ht hinputs := by
    rcases List.mem_append.1 ht with ht | ht
    · exact h.numbered t ht hinputs
    · obtain rfl := List.mem_singleton.1 ht
      exact absurd hinputs hadmits.inputs

omit [KeyScheme] in
theorem advance (h : Consistent c log) {blocks : UInt32} (hne : blocks ≠ 0)
    (hfits : c.height.toNat + blocks.toNat < UInt32.size) :
    Consistent (c.advance blocks) log := by
  have hheight := toNat_height_advance hne hfits
  have hpos : 0 < blocks.toNat := Nat.pos_of_ne_zero fun hzero => hne (UInt32.toNat_inj.1 hzero)
  have hblock : (c.height + 1).toNat = c.height.toNat + 1 := by
    rw [UInt32.toNat_add, UInt32.toNat_one,
      Nat.mod_eq_of_lt (Nat.lt_of_le_of_lt (Nat.add_le_add_left hpos _) hfits)]
  have hle : c.height ≤ (c.advance blocks).height := by
    rw [UInt32.le_iff_toNat_le]
    omega
  have hle' : c.height + 1 ≤ (c.advance blocks).height := by
    rw [UInt32.le_iff_toNat_le]
    omega
  exact {
    created := fun o coin hcoin => by
      rw [coins_advance hne, Option.map_eq_some_iff] at hcoin
      obtain ⟨coin, hcoin, rfl⟩ := hcoin
      exact h.created o coin hcoin
    waits := fun o coin hcoin => by
      rw [coins_advance hne, Option.map_eq_some_iff] at hcoin
      obtain ⟨coin, -, rfl⟩ := hcoin
      rw [mempool_advance hne]
      exact iff_of_false nofun List.not_mem_nil
    height_le := fun o coin height hcoin hsome => by
      rw [coins_advance hne, Option.map_eq_some_iff] at hcoin
      obtain ⟨coin, hcoin, rfl⟩ := hcoin
      cases hold : coin.height with
      | none =>
        rw [Coin.confirmAt, hold] at hsome
        cases hsome
        exact hle'
      | some old =>
        rw [Coin.confirmAt, hold] at hsome
        cases hsome
        exact UInt32.le_trans (h.height_le o coin old hcoin hold) hle
    consumed := fun t ht o ho => by
      obtain ⟨hid, hgone⟩ := h.consumed t ht o ho
      rw [coins_advance hne, hgone]
      exact ⟨hid, rfl⟩
    once := h.once
    spends := fun o => by
      simp [mempoolSpends_advance hne, mempool_advance hne]
    waiting := fun txid htxid => by
      rw [mempool_advance hne] at htxid
      cases htxid
    confirmed := fun txid height hsome => by
      rw [confirmed_advance hne] at hsome
      split at hsome
      · rename_i hwaits
        cases hsome
        exact ⟨h.waiting txid hwaits, by omega, hle'⟩
      · obtain ⟨hid, hpositive, hold⟩ := h.confirmed txid height hsome
        exact ⟨hid, hpositive, UInt32.le_trans hold hle⟩
    status := fun t ht hinputs => by
      rw [mempool_advance hne, confirmed_advance hne]
      refine iff_of_false List.not_mem_nil ?_
      split
      · exact nofun
      · rename_i hwaits
        rwa [← h.status t ht hinputs]
    numbered := fun t ht hinputs => by
      have hfunded : (c.advance blocks).funded = c.funded := by
        rw [Chain.advance, if_neg hne]
        rfl
      rw [hfunded]
      exact h.numbered t ht hinputs }

end Consistent

/-! ## Runs -/

variable [KeyScheme]

/-- The counters have room for what a request adds to them. -/
def HasRoom (c : Chain) : Request → Prop
  | .fund _ => c.funded.toNat + 1 < UInt32.size
  | .submit _ => True
  | .advance blocks => c.height.toNat + blocks.toNat < UInt32.size

/-- No counter runs over while a chain handles some requests. -/
def Fits (c : Chain) : List Request → Prop
  | [] => True
  | request :: requests => c.HasRoom request ∧ (c.handle request).Fits requests

namespace Consistent

variable {c : Chain} {log : List Transaction}

theorem handle (h : Consistent c log) {request : Request} (hroom : c.HasRoom request)
    (hids : TellApart (log ++ c.makes request)) :
    Consistent (c.handle request) (log ++ c.makes request) := by
  have hhandles := c.handles request
  generalize c.makes request = made at hhandles hids ⊢
  generalize c.handle request = c' at hhandles ⊢
  cases hhandles with
  | funded value => exact h.fund hroom (h.txid_fund_notMem hroom hids)
  | accepted hadmits => exact h.accept hadmits (h.txid_accepted_notMem hadmits hids)
  | refused | idle =>
    rw [List.append_nil]
    exact h
  | mined hne =>
    rw [List.append_nil]
    exact h.advance hne hroom

theorem run (h : Consistent c log) {requests : List Request} (hfits : c.Fits requests)
    (hids : TellApart (log ++ c.history requests)) :
    Consistent (c.run requests) (log ++ c.history requests) := by
  induction requests generalizing c log with
  | nil =>
    rw [history, List.append_nil]
    exact h
  | cons request requests ih =>
    rw [history, ← List.append_assoc] at hids ⊢
    exact ih (h.handle hfits.1 (hids.mono (List.subset_append_left _ _))) hfits.2 hids

/-! ## What the books say -/

omit [KeyScheme] in
/-- What was consumed was consumed by one transaction. -/
theorem eq_of_mem_outpoints (h : Consistent c log) {t t' : Transaction} (ht : t ∈ log)
    (ht' : t' ∈ log) {o : OutPoint} (ho : o ∈ t.outpoints) (ho' : o ∈ t'.outpoints) : t = t' := by
  by_contra hne
  have _ : Std.Symm fun t t' : Transaction => ∀ o ∈ t.outpoints, o ∉ t'.outpoints :=
    ⟨fun _ _ hdisjoint o ho' ho => hdisjoint o ho ho'⟩
  exact h.once.forall ht ht' hne o ho ho'

omit [KeyScheme] in
theorem toNat_confirmations (h : Consistent c log) {txid : Txid} {height : UInt32}
    (hheight : c.confirmed.get? txid = some height) :
    height ≤ c.height ∧ (c.confirmations txid).toNat = c.height.toNat - height.toNat + 1 := by
  obtain ⟨-, hpos, hle⟩ := h.confirmed txid height hheight
  refine ⟨hle, ?_⟩
  have hlt := c.height.toNat_lt
  have hle' := UInt32.le_iff_toNat_le.1 hle
  rw [confirmations, hheight, UInt32.toNat_add, UInt32.toNat_sub_of_le _ _ hle, UInt32.toNat_one,
    Nat.mod_eq_of_lt (by omega)]

omit [KeyScheme] in
theorem confirmations_eq_zero_iff (h : Consistent c log) {txid : Txid} :
    c.confirmations txid = 0 ↔ c.confirmed.get? txid = none := by
  cases hheight : c.confirmed.get? txid with
  | none => simp [confirmations, hheight]
  | some height =>
    refine iff_of_false ?_ nofun
    intro hzero
    have hcount := (h.toNat_confirmations hheight).2
    rw [hzero] at hcount
    cases hcount

omit [KeyScheme] in
/-- What a transaction has consumed cannot be spent again. -/
theorem spendable_eq_error (h : Consistent c log) {t : Transaction} (ht : t ∈ log) {input : TxIn}
    (ho : input.outpoint ∈ t.outpoints) :
    c.spendable input = .error (if c.confirmations t.txid = 0 then .conflict input.outpoint
      else .missingInputs input.outpoint) := by
  have hinputs : t.inputs ≠ [] := by
    rintro hnil
    simp [outpoints, hnil] at ho
  have hunconfirmed : c.confirmations t.txid = 0 ↔ t.txid ∈ c.mempool := by
    rw [h.confirmations_eq_zero_iff, h.status t ht hinputs]
  by_cases hwaits : t.txid ∈ c.mempool
  · have hspent := (h.spends _).2 ⟨t, ht, hwaits, ho⟩
    rw [if_pos (hunconfirmed.2 hwaits), spendable, if_pos hspent]
  · have hfree : input.outpoint ∉ c.mempoolSpends := by
      rw [h.spends]
      rintro ⟨t', ht', hwaits', ho'⟩
      exact hwaits (h.eq_of_mem_outpoints ht' ht ho' ho ▸ hwaits')
    rw [if_neg (mt hunconfirmed.1 hwaits), spendable, if_neg hfree, (h.consumed t ht _ ho).2]

end Consistent

/-- What the books of a chain say, given its history. -/
structure Bookkeeping (c : Chain) (made : List Transaction) : Prop where
  /-- What a waiting transaction spends is not unspent. -/
  disjoint : ∀ o ∈ c.mempoolSpends, c.coins.get? o = none
  /-- A coin has no height exactly while the transaction that created it waits. -/
  waits : ∀ o coin, c.coins.get? o = some coin →
    (coin.height = none ↔ ∃ t ∈ made, t.txid ∈ c.mempool ∧ t.Creates o coin.output)
  height_le : ∀ o coin height, c.coins.get? o = some coin → coin.height = some height →
    height ≤ c.height
  /-- Confirmations are counted from the tip down, without running under zero. -/
  confirmations : ∀ txid height, c.confirmed.get? txid = some height →
    height ≤ c.height ∧ (c.confirmations txid).toNat = c.height.toNat - height.toNat + 1
  /-- No output is consumed twice. -/
  once : made.Pairwise fun t t' => ∀ o ∈ t.outpoints, o ∉ t'.outpoints
  /-- A transaction is refused for its first input that has been consumed before. -/
  refused : ∀ t ∈ made, ∀ tx before input after, tx.inputs = before ++ input :: after →
    input.outpoint ∈ t.outpoints → (∀ i ∈ before, ∃ coin, c.spendable i = .ok coin) →
    c.submit tx = .error (if c.confirmations t.txid = 0 then .conflict input.outpoint
      else .missingInputs input.outpoint)

/-- **The books agree with the history**, and no output is spent twice. -/
theorem bookkeeping (requests : List Request) (hfits : ({} : Chain).Fits requests)
    (hids : TellApart (({} : Chain).history requests)) :
    (({} : Chain).run requests).Bookkeeping (({} : Chain).history requests) := by
  have h : Consistent (({} : Chain).run requests) (({} : Chain).history requests) :=
    Consistent.new.run hfits hids
  refine ⟨?_, ?_, h.height_le, fun _ _ => h.toNat_confirmations, h.once, ?_⟩
  · intro o ho
    obtain ⟨t, ht, -, hspent⟩ := (h.spends o).1 ho
    exact (h.consumed t ht o hspent).2
  · intro o coin hcoin
    rw [h.waits o coin hcoin]
    constructor
    · intro hwaits
      obtain ⟨t, ht, hcreates⟩ := h.created o coin hcoin
      exact ⟨t, ht, hcreates.txid_eq ▸ hwaits, hcreates⟩
    · rintro ⟨t, -, hwaits, hcreates⟩
      rwa [hcreates.txid_eq]
  · intro t ht tx before input after hinputs ho hbefore
    exact submit_of_unspendable hinputs hbefore (h.spendable_eq_error ht ho)

omit [KeyScheme] in
/-- A coin is spent. To spend it again is a conflict, and after a block there is no such coin. -/
theorem bookkeeping_sample :
    letI : KeyScheme := .secp256k1
    (({} : Chain).run [.fund 1000, .submit firstSpend]).submit firstSpend =
      .error (.conflict (({} : Chain).fund 1000).1) ∧
    (({} : Chain).run [.fund 1000, .submit firstSpend, .advance 1]).submit firstSpend =
      .error (.missingInputs (({} : Chain).fund 1000).1) := by
  let _ : KeyScheme := .secp256k1
  have hdiffer : (fundingTransaction 1 1000).txid ≠ firstSpend.txid := by decide +kernel
  have hapart : TellApart [fundingTransaction 1 1000, firstSpend] := by
    intro t ht t' ht' hid
    rcases List.mem_pair.1 ht with rfl | rfl <;> rcases List.mem_pair.1 ht' with rfl | rfl
    · rfl
    · exact absurd hid hdiffer
    · exact absurd hid.symm hdiffer
    · rfl
  have hroom : ({} : Chain).HasRoom (.fund 1000) := (by decide : 0 + 1 < UInt32.size)
  let input : TxIn := { outpoint := (({} : Chain).fund 1000).1 }
  have hinputs : firstSpend.inputs = [] ++ input :: [] := rfl
  have hspent : input.outpoint ∈ firstSpend.outpoints := List.mem_singleton_self _
  have hroom' : firstSpent.HasRoom (.advance 1) := (by decide : 200 + 1 < UInt32.size)
  constructor
  · have hbooks := bookkeeping [.fund 1000, .submit firstSpend] ⟨hroom, trivial, trivial⟩
      (by rw [history_firstSpend]; exact hapart)
    rw [history_firstSpend, run_firstSpend] at hbooks
    rw [run_firstSpend]
    exact hbooks.refused firstSpend (by simp) firstSpend [] input [] hinputs hspent nofun
  · have hbooks := bookkeeping [.fund 1000, .submit firstSpend, .advance 1]
      ⟨hroom, trivial, by rw [handle_firstSpend.1]; exact hroom', trivial⟩
      (by rw [history_firstSpend]; exact hapart)
    rw [history_firstSpend, run_firstSpend] at hbooks
    have hwaits : firstSpend.txid ∈ firstSpent.mempool := List.mem_singleton_self _
    have hconfirmed : (firstSpent.run [.advance 1]).confirmed.get? firstSpend.txid =
        some (firstSpent.height + 1) := by
      have hadvance : firstSpent.run [.advance 1] = firstSpent.advance 1 := rfl
      rw [hadvance, confirmed_advance (by decide), if_pos hwaits]
    have hcount : (firstSpent.run [.advance 1]).confirmations firstSpend.txid ≠ 0 := by
      intro hzero
      have hpos := (hbooks.confirmations _ _ hconfirmed).2
      rw [hzero] at hpos
      cases hpos
    have hrefused := hbooks.refused firstSpend (by simp) firstSpend [] input [] hinputs hspent nofun
    rw [run_firstSpend]
    rwa [if_neg hcount] at hrefused

end Chain

end Supersede
