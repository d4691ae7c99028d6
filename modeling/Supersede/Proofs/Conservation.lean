import Supersede.Proofs.ChainHistory
import Supersede.Proofs.Settling

/-!
# Where value comes from

A chain compares what a transaction creates with what its inputs bring. It adds up the inputs one
by one, in 64 bits, while the coins that they consume are removed from a map. A transaction that
names a coin twice is credited with it twice (`Chain.exists_value_created`), and outputs whose sum
does not fit 64 bits are counted as less than they are. Nothing else creates value.

**Theorem (`Chain.value_conserved`).** After any requests, an accepted transaction that names no
coin twice, and whose outputs can be counted, creates at most the value of the coins that it
consumes. While all transactions are of that kind, the unspent outputs are worth at most what was
made by funding.

The second part is an induction over the requests, in which only two steps count: funding adds the
value of the new coin, and an accepted transaction puts its outputs in the place of the coins it
consumes. An output that takes the place of another, as it would with equal identifiers, only lowers
the total.
-/

namespace Supersede

/-- A transaction that names no coin twice and whose outputs can be counted in 64 bits. -/
structure Transaction.Plain (tx : Transaction) : Prop where
  distinct : tx.outpoints.Nodup
  countable : tx.outputValue < 2 ^ 64

namespace Chain

/-! ## Values of coins -/

/-- The exact value of some coins. -/
def worth (coins : SortedMap OutPoint Coin) : Nat :=
  Amount.total (coins.values.map (·.output.value))

/-- The coins that a transaction consumes, each of them once. -/
def consumed (c : Chain) (tx : Transaction) : SortedMap OutPoint Coin :=
  c.coins.filter fun o _ => decide (o ∈ tx.outpoints)

theorem le_worth {coins : SortedMap OutPoint Coin} {o : OutPoint} {coin : Coin}
    (h : coins.get? o = some coin) : coin.output.value.toNat ≤ worth coins := by
  rw [worth, Amount.total_erase h fun coin => coin.output.value]
  exact Nat.le_add_right _ _

/-- Coins found at different references are worth what they are worth in the map. -/
theorem total_found {coins : SortedMap OutPoint Coin} {l : List OutPoint} {found : List Coin}
    (hdistinct : l.Nodup) (h : l.map coins.get? = found.map some) :
    Amount.total (found.map (·.output.value)) =
      worth (coins.filter fun o _ => decide (o ∈ l)) := by
  induction l generalizing found with
  | nil =>
    obtain rfl : found = [] := List.map_eq_nil_iff.1 h.symm
    rw [SortedMap.filter_eq_empty fun _ _ _ => by simp]
    rfl
  | cons o l ih =>
    cases found with
    | nil => cases h
    | cons coin found =>
      obtain ⟨hcoin, hfound⟩ := List.cons.inj h
      obtain ⟨hnew, hdistinct⟩ := List.nodup_cons.1 hdistinct
      have hget : (coins.filter fun o' _ => decide (o' ∈ o :: l)).get? o = some coin := by
        rw [SortedMap.get?_filter_eq_some_iff]
        simp [hcoin]
      -- Without the first coin, the others are left.
      have hrest : (coins.filter fun o' _ => decide (o' ∈ o :: l)).erase o =
          coins.filter fun o' _ => decide (o' ∈ l) := by
        rw [SortedMap.erase, SortedMap.filter_filter]
        refine SortedMap.filter_congr ?_
        intro o' _ _
        by_cases ho : o' = o
        · simp [ho, hnew]
        · have hne : compare o o' ≠ .eq := fun he => ho (Std.LawfulEqOrd.eq_of_compare he).symm
          simp [ho, hne]
      rw [worth, Amount.total_erase hget fun coin => coin.output.value, hrest, List.map_cons,
        Amount.total, ih hdistinct hfound]
      rfl

theorem worth_foldl_insert_le (l : List (OutPoint × Coin)) (coins : SortedMap OutPoint Coin) :
    worth (l.foldl (fun m e => m.insert e.1 e.2) coins) ≤
      Amount.total (l.map (·.2.output.value)) + worth coins := by
  induction l generalizing coins with
  | nil => exact Nat.le_add_left _ _
  | cons e l ih =>
    have hrest := ih (coins.insert e.1 e.2)
    have hhead := Amount.total_insert_le coins e.1 e.2 fun coin => coin.output.value
    rw [List.foldl_cons, List.map_cons, Amount.total]
    unfold worth at hrest ⊢
    omega

theorem total_created (tx : Transaction) :
    Amount.total ((created tx).map (·.2.output.value)) = tx.outputValue := by
  have hvalues : (created tx).map (·.2.output.value) = tx.outputs.map (·.value) := by
    apply List.ext_getElem?
    intro vout
    simp [created, Function.comp_def]
  rw [hvalues, Transaction.outputValue]

/-! ## Steps -/

theorem worth_fund_le (c : Chain) (value : Amount) :
    worth (c.fund value).2.coins ≤ value.toNat + worth c.coins :=
  Amount.total_insert_le c.coins _ _ fun coin => coin.output.value

theorem worth_advance (c : Chain) (blocks : UInt32) :
    worth (c.advance blocks).coins = worth c.coins := by
  by_cases hzero : blocks = 0
  · rw [advance, if_pos hzero]
  · rw [advance, if_neg hzero]
    simp [worth, mine, SortedMap.values, SortedMap.filterMap, Coin.confirmAt, Function.comp_def]

/-- Inputs that can be spent find their coins. -/
theorem map_get?_of_spendable {c : Chain} {inputs : List TxIn} {coins : List Coin}
    (h : inputs.map c.spendable = coins.map .ok) :
    (inputs.map (·.outpoint)).map c.coins.get? = coins.map some := by
  induction inputs generalizing coins with
  | nil =>
    obtain rfl : coins = [] := List.map_eq_nil_iff.1 h.symm
    rfl
  | cons input inputs ih =>
    cases coins with
    | nil => cases h
    | cons coin coins =>
      obtain ⟨hcoin, hcoins⟩ := List.cons.inj h
      rw [List.map_cons, List.map_cons, List.map_cons, ih hcoins, (spendable_eq_ok.1 hcoin).2]

variable [KeyScheme]

/-- A plain transaction creates no more than it consumes. -/
theorem Admits.outputValue_le {c : Chain} {tx : Transaction} {coins : List Coin}
    (h : c.Admits tx coins) (hplain : tx.Plain) : tx.outputValue ≤ worth (c.consumed tx) := by
  calc tx.outputValue
      = (totalValue tx.outputs).toNat := by
        rw [toNat_totalValue, ← Transaction.outputValue, Nat.mod_eq_of_lt hplain.countable]
    _ ≤ (totalValue (coins.map (·.output))).toNat := UInt64.le_iff_toNat_le.1 h.value
    _ ≤ Amount.total ((coins.map (·.output)).map (·.value)) := by
        rw [toNat_totalValue]
        exact Nat.mod_le _ _
    _ = worth (c.consumed tx) := by
        rw [List.map_map]
        exact total_found hplain.distinct (map_get?_of_spendable h.spendable)

theorem worth_apply_le {c : Chain} {tx : Transaction} {coins : List Coin}
    (h : c.Admits tx coins) (hplain : tx.Plain) : worth (c.apply tx).coins ≤ worth c.coins := by
  have hparts := Amount.total_filter_add c.coins (·.output.value)
    fun o _ => decide (o ∈ tx.outpoints)
  have hin := worth_foldl_insert_le (created tx)
    (c.coins.filter fun o _ => decide (o ∉ tx.outpoints))
  have hout := h.outputValue_le hplain
  rw [coins_apply_eq]
  rw [total_created] at hin
  simp only [← decide_not] at hparts
  unfold worth consumed at *
  omega

/-- The value that a request makes from nothing. -/
def Request.fundedValue : Request → Nat
  | .fund value => value.toNat
  | .submit _ | .advance _ => 0

/-- The value that requests make from nothing. -/
def fundedValue : List Request → Nat
  | [] => 0
  | request :: requests => request.fundedValue + fundedValue requests

theorem worth_run_le {c : Chain} {requests : List Request}
    (h : ∀ tx ∈ c.history requests, tx.Plain) :
    worth (c.run requests).coins ≤ worth c.coins + fundedValue requests := by
  induction requests generalizing c with
  | nil => exact Nat.le_refl _
  | cons request requests ih =>
    rw [history, List.forall_mem_append] at h
    have hrest := ih h.2
    have hmade := h.1
    have hhandles := c.handles request
    rw [run_cons]
    generalize c.makes request = made at hhandles hmade
    generalize c.handle request = c' at hhandles hrest ⊢
    cases hhandles with
    | funded value =>
      have hfund := c.worth_fund_le value
      rw [fundedValue, Request.fundedValue]
      omega
    | accepted hadmits =>
      have happly := worth_apply_le hadmits (hmade _ (List.mem_singleton_self _))
      rw [fundedValue, Request.fundedValue]
      omega
    | refused | idle =>
      rw [fundedValue, Request.fundedValue, Nat.zero_add]
      exact hrest
    | mined =>
      rw [worth_advance] at hrest
      rw [fundedValue, Request.fundedValue, Nat.zero_add]
      exact hrest

/-- **Value comes from funding only**, as far as transactions are plain. -/
theorem value_conserved (requests : List Request) :
    (∀ tx txid c', (({} : Chain).run requests).submit tx = .ok (txid, c') → tx.Plain →
      tx.outputValue ≤ worth ((({} : Chain).run requests).consumed tx)) ∧
    ((∀ tx ∈ ({} : Chain).history requests, tx.Plain) →
      worth (({} : Chain).run requests).coins ≤ fundedValue requests) := by
  constructor
  · intro tx txid c' hsubmit hplain
    obtain ⟨coins, hadmits⟩ := validate_eq_ok_iff.1 (submit_eq_ok.1 hsubmit).1
    exact hadmits.outputValue_le hplain
  · intro hplain
    have hle := worth_run_le hplain
    rwa [show worth ({} : Chain).coins = 0 from rfl, Nat.zero_add] at hle

/-- A coin that is named twice counts twice. -/
theorem exists_value_created (value : Amount) (hpos : 0 < value.toNat)
    (hfits : value.toNat + value.toNat < 2 ^ 64) :
    ∃ tx c', (({} : Chain).run [.fund value]).submit tx = .ok (tx.txid, c') ∧
      fundedValue [.fund value] < worth c'.coins := by
  let c : Chain := (({} : Chain).fund value).2
  let input : TxIn := { outpoint := (({} : Chain).fund value).1 }
  let coin : TxOut := ⟨value, anyoneScript⟩
  let tx : Transaction := ⟨2, 0, [input, input], [⟨value + value, anyoneScript⟩]⟩
  have hunspent : c.unspent? input.outpoint = some coin := by
    rw [unspent?, coins_fund {} value]
    rfl
  have hvalid : c.validate tx = .ok () := by
    have hboth : tx.inputs.map (fun i => c.unspent? i.outpoint) = [coin, coin].map some := by
      simp [tx, hunspent]
    refine validate_of_unspent (by simp [tx]) hboth ?_ rfl ?_ ?_ ?_
    · intro _ _
      exact List.not_mem_nil
    · intro i hi
      obtain rfl : i = input := by simpa [tx] using hi
      exact (by decide : (0xffffffff : UInt32) &&& LockTime.disableFlag ≠ 0)
    · simp [tx, totalValue, coin]
    · intro ctx hctx
      obtain ⟨-, hprevouts, hfor⟩ := Transaction.forScript_of_mem_spendContexts hctx
      have hspent := List.mem_of_getElem? hfor.spent
      rw [hprevouts] at hspent
      obtain hcoin : ctx.spent = coin := by simpa using hspent
      exact verify_anyone (by rw [hcoin])
  refine ⟨tx, c.apply tx, submit_eq_ok.2 ⟨hvalid, rfl, rfl⟩, ?_⟩
  have hleft : (c.apply tx).coins.get? ⟨tx.txid, UInt32.ofNat 0⟩ =
      some ⟨⟨value + value, anyoneScript⟩, none⟩ := c.coins_apply (by simp [tx]) rfl
  have hle : (value + value).toNat ≤ worth (c.apply tx).coins := le_worth hleft
  have hsum : (value + value).toNat = value.toNat + value.toNat := by
    rw [UInt64.toNat_add, Nat.mod_eq_of_lt hfits]
  rw [fundedValue, fundedValue, Request.fundedValue]
  omega

omit [KeyScheme] in
/-- A coin of a thousand units is spent for 900. If it is named twice, more can be had for it. -/
theorem value_conserved_sample :
    letI : KeyScheme := .secp256k1
    (∃ txid c', (({} : Chain).run [.fund 1000]).submit firstSpend = .ok (txid, c')) ∧
    firstSpend.outputValue ≤ worth ((({} : Chain).run [.fund 1000]).consumed firstSpend) ∧
    worth (({} : Chain).run [.fund 1000, .submit firstSpend]).coins ≤ 1000 ∧
    ∃ tx c', (({} : Chain).run [.fund 1000]).submit tx = .ok (tx.txid, c') ∧
      1000 < worth c'.coins := by
  let _ : KeyScheme := .secp256k1
  have hplain : firstSpend.Plain := ⟨List.nodup_singleton _, by decide⟩
  have hsubmit : (({} : Chain).run [.fund 1000]).submit firstSpend = .ok (_, _) :=
    submit_eq_ok.2 ⟨validate_firstSpend, rfl, rfl⟩
  have hhistory : ∀ tx ∈ ({} : Chain).history [.fund 1000, .submit firstSpend], tx.Plain := by
    rw [history_firstSpend []]
    rintro tx (_ | ⟨_, _ | ⟨_, ⟨⟩⟩⟩)
    · exact ⟨List.nodup_nil, by decide⟩
    · exact hplain
  exact ⟨⟨_, _, hsubmit⟩, (value_conserved [.fund 1000]).1 _ _ _ hsubmit hplain,
    (value_conserved [.fund 1000, .submit firstSpend]).2 hhistory,
    exists_value_created 1000 (by decide) (by decide)⟩

end Chain

end Supersede
