import Supersede.Ledger.Snapshot
import Supersede.Proofs.SortedMap

/-!
# Balances and next states

What a snapshot becomes when a payment is offered or payments are resolved. Arithmetic that would
overflow gives no result, so where there is one the balances are exact as natural numbers.

* `Snapshot.Follows`: the next state of the same channel, with the keys of that state and
  conserved balances.
* `Snapshot.offers_of_offer`, `Snapshot.resolves_of_resolve`: the two ways to the next state.
* `Snapshot.exists_offer`, `Snapshot.exists_resolve`: they are open where the keys of the next state
  can be derived, and no sum on the way overflows.
-/

namespace Supersede

/-! ## Outcomes -/

namespace Result

variable {ε α β : Type}

/-- A sequence succeeds exactly when its parts do. -/
theorem bind_eq_ok {x : Except ε α} {f : α → Except ε β} {b : β} :
    x >>= f = .ok b ↔ ∃ a, x = .ok a ∧ f a = .ok b := by
  cases x with
  | error e => exact ⟨nofun, fun ⟨_, h, _⟩ => nomatch h⟩
  | ok a => exact ⟨fun h => ⟨a, rfl, h⟩, fun ⟨_, h, hf⟩ => Except.ok.inj h ▸ hf⟩

theorem ok_bind (a : α) (f : α → Except ε β) : (Except.ok a >>= f : Except ε β) = f a := rfl

theorem error_bind (e : ε) (f : α → Except ε β) :
    (Except.error e >>= f : Except ε β) = .error e := rfl

theorem pure_eq_ok {a b : α} : (pure a : Except ε α) = .ok b ↔ a = b :=
  ⟨Except.ok.inj, congrArg _⟩

theorem map_eq_ok {f : α → β} {x : Except ε α} {b : β} :
    x.map f = .ok b ↔ ∃ a, x = .ok a ∧ f a = b := by
  cases x with
  | error e => exact ⟨nofun, fun ⟨_, h, _⟩ => nomatch h⟩
  | ok a => exact ⟨fun h => ⟨a, rfl, Except.ok.inj h⟩, fun ⟨_, h, hf⟩ => by cases h; rw [← hf]; rfl⟩

theorem exists_of_isOk {x : Except ε α} (h : x.isOk = true) : ∃ a, x = .ok a := by
  cases x with
  | error e => cases h
  | ok a => exact ⟨a, rfl⟩

theorem toOption_eq_some {x : Except ε α} {a : α} : x.toOption = some a ↔ x = .ok a := by
  cases x with
  | error e => exact ⟨nofun, nofun⟩
  | ok b => exact ⟨fun h => congrArg _ (Option.some.inj h), fun h => congrArg _ (Except.ok.inj h)⟩

/-- What comes after a failed check is not reached. -/
theorem ite_error_eq_ok {p : Prop} [Decidable p] {e : ε} {x : Except ε α} {a : α} :
    (if p then .error e else x) = .ok a ↔ ¬ p ∧ x = .ok a := by
  by_cases hp : p
  · rw [if_pos hp]
    exact ⟨nofun, fun h => absurd hp h.1⟩
  · rw [if_neg hp]
    exact ⟨fun h => ⟨hp, h⟩, And.right⟩

end Result

open Result

/-! ## Exact sums -/

/-- The exact sum of some amounts. -/
def Amount.total : List Amount → Nat
  | [] => 0
  | a :: amounts => a.toNat + total amounts

theorem Amount.total_le_of_sublist {amounts amounts' : List Amount}
    (h : amounts.Sublist amounts') : total amounts ≤ total amounts' := by
  induction h with
  | slnil => exact Nat.le_refl 0
  | cons a _ ih => exact Nat.le_trans ih (Nat.le_add_left _ _)
  | cons_cons a _ ih => exact Nat.add_le_add_left ih _

/-- The amounts that pass a test and those that do not add up to all of them. -/
theorem Amount.total_partition {α : Type} (l : List α) (f : α → Amount) (q : α → Bool) :
    total ((l.filter q).map f) + total ((l.filter fun a => !q a).map f) = total (l.map f) := by
  induction l with
  | nil => rfl
  | cons a l ih =>
    by_cases hq : q a = true
    · simp [hq, total, ← ih, Nat.add_assoc]
    · simp [hq, total, ← ih, Nat.add_left_comm]

section Maps

variable {α β : Type} [Ord α]

theorem Amount.total_filter_add (m : SortedMap α β) (f : β → Amount) (q : α → β → Bool) :
    total ((m.filter q).values.map f) + total ((m.filter fun k v => !q k v).values.map f) =
      total (m.values.map f) := by
  simp only [SortedMap.values, SortedMap.filter, List.map_map]
  exact total_partition m.entries (fun e => f e.2) fun e => q e.1 e.2

/-- The value at one key and the others add up to all of them. -/
theorem Amount.total_erase [Std.LawfulEqOrd α] {m : SortedMap α β} {k : α} {v : β}
    (h : m.get? k = some v) (f : β → Amount) :
    total (m.values.map f) = (f v).toNat + total ((m.erase k).values.map f) := by
  have hparts := total_filter_add m f fun k' _ => compare k k' != .eq
  have hone : (m.filter fun k' _ => !(compare k k' != .eq)).entries = [(k, v)] := by
    refine SortedMap.entries_eq_singleton ?_ ?_
    · rw [SortedMap.get?_filter_eq_some_iff]
      simp [h]
    · intro k' v' hget
      rw [SortedMap.get?_filter_eq_some_iff] at hget
      have heq : k = k' := by simpa using hget.2
      exact heq.symm
  have hsum : total ((m.filter fun k' _ => !(compare k k' != .eq)).values.map f) =
      (f v).toNat := by
    simp [SortedMap.values, hone, total]
  rw [SortedMap.erase, ← hparts, hsum, Nat.add_comm]

/-- An insertion adds at most the new value. -/
theorem Amount.total_insert_le [Std.TransOrd α] (m : SortedMap α β) (k : α) (v : β)
    (f : β → Amount) :
    total ((m.insert k v).values.map f) ≤ (f v).toNat + total (m.values.map f) := by
  simp only [SortedMap.values, SortedMap.insert, List.map_map]
  induction m.entries with
  | nil => simp [SortedMap.insertEntry, total]
  | cons e l ih =>
    unfold SortedMap.insertEntry
    split
    · simp [total]
    · simp [total]
    · simp only [List.map_cons, total, Function.comp_apply]
      omega

end Maps

/-- The exact sum of some invoices. -/
def Invoice.sum : List Invoice → Nat
  | [] => 0
  | invoice :: invoices => invoice.amount.toNat + sum invoices

theorem Invoice.sum_eq (invoices : List Invoice) :
    sum invoices = Amount.total (invoices.map (·.amount)) := by
  induction invoices with
  | nil => rfl
  | cons invoice invoices ih => rw [sum, ih, List.map_cons, Amount.total]

theorem Amount.toNat_foldlM_add? {amounts : List Amount} {a t : Amount}
    (h : amounts.foldlM add? a = some t) : t.toNat = a.toNat + total amounts := by
  induction amounts generalizing a with
  | nil => cases h; rfl
  | cons amount amounts ih =>
    obtain ⟨b, hb, ht⟩ := Option.bind_eq_some_iff.1 h
    rw [ih ht, toNat_add? hb, total, Nat.add_assoc]

theorem Amount.toNat_sum? {amounts : List Amount} {t : Amount} (h : sum? amounts = some t) :
    t.toNat = total amounts := by
  rw [toNat_foldlM_add? h]
  exact Nat.zero_add _

theorem Amount.exists_foldlM_add? {amounts : List Amount} {a : Amount}
    (h : a.toNat + total amounts < UInt64.size) : ∃ t, amounts.foldlM add? a = some t := by
  induction amounts generalizing a with
  | nil => exact ⟨a, rfl⟩
  | cons amount amounts ih =>
    rw [total] at h
    have hb : a.add? amount = some (a + amount) := if_pos (by omega)
    obtain ⟨t, ht⟩ := ih (a := a + amount) (by rw [toNat_add? hb]; omega)
    exact ⟨t, Option.bind_eq_some_iff.2 ⟨_, hb, ht⟩⟩

/-- A sum that fits is found. -/
theorem Amount.exists_sum? {amounts : List Amount} (h : total amounts < UInt64.size) :
    ∃ t, sum? amounts = some t :=
  exists_foldlM_add? (a := 0) (by simpa using h)

theorem Snapshot.toNat_invoiceTotal {l : List Invoice} {t : Amount}
    (h : invoiceTotal l = .ok t) : t.toNat = Invoice.sum l := by
  unfold invoiceTotal at h
  split at h
  · rename_i total hsum
    cases h
    rw [Amount.toNat_sum? hsum, Invoice.sum_eq]
  · cases h

theorem Snapshot.toNat_addBalance {a b s : Amount} (h : addBalance a b = .ok s) :
    s.toNat = a.toNat + b.toNat := by
  unfold addBalance at h
  split at h
  · rename_i sum hsum
    cases h
    exact Amount.toNat_add? hsum
  · cases h

theorem Snapshot.exists_invoiceTotal {l : List Invoice} (h : Invoice.sum l < UInt64.size) :
    ∃ t, invoiceTotal l = .ok t := by
  rw [Invoice.sum_eq] at h
  obtain ⟨t, ht⟩ := Amount.exists_sum? h
  exact ⟨t, by rw [invoiceTotal, ht]⟩

theorem Snapshot.exists_addBalance {a b : Amount} (h : a.toNat + b.toNat < UInt64.size) :
    ∃ s, addBalance a b = .ok s :=
  ⟨a + b, by rw [addBalance, Amount.add?, if_pos h]⟩

theorem toNat_addState {a b s : UInt32} (h : addState a b = .ok s) :
    s.toNat = a.toNat + b.toNat := by
  unfold addState at h
  split at h
  · rename_i hlt
    cases h
    rw [UInt32.toNat_add, Nat.mod_eq_of_lt hlt]
  · cases h

theorem addState_of_toNat {a b s : UInt32} (h : s.toNat = a.toNat + b.toNat) :
    addState a b = .ok s := by
  have hlt : a.toNat + b.toNat < UInt32.size := by
    rw [← h]
    exact s.toNat_lt
  have hsum : a + b = s := by
    rw [← UInt32.toNat_inj, UInt32.toNat_add, h]
    exact Nat.mod_eq_of_lt hlt
  rw [addState, if_pos hlt, hsum]

namespace Snapshot

/-- The settled balances and the payments on offer add up to what the channel holds. -/
def Conserved (c : Snapshot) : Prop :=
  c.refund.toNat + c.payment.toNat + Invoice.sum c.offered.values = c.capacity.toNat

theorem conserved_of_check {c : Snapshot} (h : c.checkConservation = .ok ()) : c.Conserved := by
  simp only [checkConservation, total, bind_eq_ok] at h
  obtain ⟨actual, ⟨settled, hs, offered, ho, ha⟩, hc⟩ := h
  split at hc
  · rename_i heq
    rw [Conserved, ← heq, toNat_addBalance ha, toNat_addBalance hs, toNat_invoiceTotal ho]
  · cases hc

/-- Conserved balances pass the check: no sum exceeds what the channel holds. -/
theorem check_of_conserved {c : Snapshot} (h : c.Conserved) : c.checkConservation = .ok () := by
  have hcapacity : c.capacity.toNat < UInt64.size := c.capacity.toNat_lt
  unfold Conserved at h
  obtain ⟨settled, hs⟩ := exists_addBalance (a := c.refund) (b := c.payment) (by omega)
  obtain ⟨offered, ho⟩ := exists_invoiceTotal (l := c.offered.values) (by omega)
  have hsum : settled.toNat + offered.toNat = c.capacity.toNat := by
    rw [toNat_addBalance hs, toNat_invoiceTotal ho, h]
  obtain ⟨actual, ha⟩ := exists_addBalance (a := settled) (b := offered) (by omega)
  have heq : actual = c.capacity := UInt64.toNat_inj.1 (by rw [toNat_addBalance ha, hsum])
  simp only [checkConservation, total, offeredTotal, bind_eq_ok]
  exact ⟨actual, ⟨settled, hs, offered, ho, ha⟩, if_pos heq⟩

/-- A new invoice adds its amount to what is on offer. -/
theorem sum_insertEntry {hash : PaymentHash} {invoice : Invoice}
    {l : List (PaymentHash × Invoice)} (h : SortedMap.find hash l = none) :
    Invoice.sum ((SortedMap.insertEntry hash invoice l).map (·.2)) =
      Invoice.sum (l.map (·.2)) + invoice.amount.toNat := by
  induction l with
  | nil => exact Nat.add_comm _ _
  | cons e l ih =>
    rw [SortedMap.find_cons] at h
    unfold SortedMap.insertEntry
    split at h
    · cases h
    · rename_i hne
      split
      · simp only [List.map_cons, Invoice.sum]
        omega
      · rename_i heq
        exact absurd heq hne
      · simp only [List.map_cons, Invoice.sum, ih h]
        omega

/-- The payments that pass a test and those that do not add up to all of them. -/
theorem sum_filter_add (m : SortedMap PaymentHash Invoice) (q : PaymentHash → Invoice → Bool) :
    Invoice.sum (m.filter q).values + Invoice.sum (m.filter fun hash i => !q hash i).values =
      Invoice.sum m.values := by
  simp only [Invoice.sum_eq]
  exact Amount.total_filter_add m (·.amount) q

/-- Of the payments on offer, some expired, some are redeemed and the others stay. -/
theorem sum_partition (m : SortedMap PaymentHash Invoice) (secrets : Secrets)
    (blockTime : UInt32) :
    Invoice.sum (m.filter fun _ i => i.isExpired blockTime).values +
      Invoice.sum (m.filter (isRedeemed secrets blockTime)).values +
      Invoice.sum (m.filter fun hash i =>
        !i.isExpired blockTime && !isRedeemed secrets blockTime hash i).values =
    Invoice.sum m.values := by
  have hexpired := sum_filter_add m fun _ i => i.isExpired blockTime
  have hredeemed := sum_filter_add (m.filter fun _ i => !i.isExpired blockTime)
    (isRedeemed secrets blockTime)
  -- A payment that is redeemed has not expired.
  have hlive : (fun hash i => !i.isExpired blockTime && isRedeemed secrets blockTime hash i) =
      isRedeemed secrets blockTime := by
    funext hash i
    simp only [isRedeemed, ← Bool.and_assoc, Bool.and_self]
  rw [SortedMap.filter_filter, SortedMap.filter_filter, hlive] at hredeemed
  omega

end Snapshot

/-! ## Keys of a state -/

section Scheme

variable [KeyScheme]

/-- Keys taken to a state are the keys of that state. -/
theorem PartyKeys.settleKeyMatches_of_atState {k k' : PartyKeys} {s : UInt32}
    (h : k.atState s = .ok k') : k'.settleKeyMatches s = true := by
  have hsame : k'.atState s = .ok k' := by
    simp only [atState, bind_eq_ok, pure_eq_ok] at h ⊢
    obtain ⟨i, hi, child, hchild, rfl⟩ := h
    exact ⟨i, hi, child, hchild, rfl⟩
  simp only [settleKeyMatches, hsame, beq_self_eq_true]

/-! ## Next states -/

namespace Snapshot

/-- `d` is the next state of the channel that `c` is a state of. -/
structure Follows (c d : Snapshot) : Prop where
  state : d.state.toNat = c.state.toNat + 1
  capacity : d.capacity = c.capacity
  funder : c.funder.atState d.state = .ok d.funder
  counterparty : c.counterparty.atState d.state = .ok d.counterparty
  conserved : d.Conserved

theorem nextState_eq_ok {c d : Snapshot} (h : c.nextState = .ok d) :
    d.state.toNat = c.state.toNat + 1 ∧ c.funder.atState d.state = .ok d.funder ∧
      c.counterparty.atState d.state = .ok d.counterparty ∧
      d = { c with state := d.state, funder := d.funder, counterparty := d.counterparty } := by
  simp only [nextState, bind_eq_ok, pure_eq_ok] at h
  obtain ⟨state, hs, funder, hf, counterparty, hc, rfl⟩ := h
  exact ⟨toNat_addState hs, hf, hc, rfl⟩

/-- `d` is the next state after `c`, with the payment of an invoice moved from the funder's balance
onto offer. -/
structure Offers (c : Snapshot) (invoice : Invoice) (d : Snapshot) : Prop extends
    Follows c d where
  nonzero : invoice.amount ≠ 0
  fresh : c.offered.contains invoice.hash = false
  refund : d.refund.toNat + invoice.amount.toNat = c.refund.toNat
  payment : d.payment = c.payment
  offered : d.offered = c.offered.insert invoice.hash invoice

theorem offers_of_offer {c d : Snapshot} {invoice : Invoice} (h : c.offer invoice = .ok d) :
    c.Offers invoice d := by
  simp only [offer, ite_error_eq_ok] at h
  obtain ⟨hne, hfresh, h⟩ := h
  split at h
  · cases h
  · rename_i refund hrefund
    simp only [bind_eq_ok, pure_eq_ok] at h
    obtain ⟨next, hnext, ⟨⟩, hcheck, rfl⟩ := h
    obtain ⟨hs, hf, hc, heq⟩ := nextState_eq_ok hnext
    exact {
      state := hs
      capacity := by rw [heq]
      funder := hf
      counterparty := hc
      conserved := conserved_of_check hcheck
      nonzero := hne
      fresh := Bool.eq_false_iff.2 hfresh
      refund := Amount.toNat_sub? hrefund
      payment := by rw [heq]
      offered := rfl }

theorem exists_nextState_of_offer {c d : Snapshot} {invoice : Invoice}
    (h : c.offer invoice = .ok d) : ∃ next, c.nextState = .ok next := by
  simp only [offer, ite_error_eq_ok] at h
  obtain ⟨-, -, h⟩ := h
  split at h
  · cases h
  · simp only [bind_eq_ok] at h
    obtain ⟨next, hnext, -⟩ := h
    exact ⟨next, hnext⟩

/-- A payment can be offered if the funder can afford it and the keys of the next state can be
derived. -/
theorem exists_offer {c next : Snapshot} (invoice : Invoice) (hc : c.Conserved)
    (hnext : c.nextState = .ok next) (hne : invoice.amount ≠ 0)
    (hfresh : c.offered.contains invoice.hash = false) (hle : invoice.amount ≤ c.refund) :
    ∃ d, c.offer invoice = .ok d ∧ d.state = next.state := by
  obtain ⟨-, -, -, heq⟩ := nextState_eq_ok hnext
  have hrefund : c.refund.sub? invoice.amount = some (c.refund - invoice.amount) := if_pos hle
  let d : Snapshot := { next with
    refund := c.refund - invoice.amount
    offered := c.offered.insert invoice.hash invoice }
  have hconserved : d.Conserved := by
    have hnone : c.offered.get? invoice.hash = none := by
      simpa [SortedMap.contains] using hfresh
    have hsum : Invoice.sum d.offered.values =
        Invoice.sum c.offered.values + invoice.amount.toNat := sum_insertEntry hnone
    have hamount := Amount.toNat_sub? hrefund
    have hpayment : next.payment = c.payment := by rw [heq]
    have hcapacity : next.capacity = c.capacity := by rw [heq]
    unfold Conserved at hc ⊢
    rw [hsum]
    change (c.refund - invoice.amount).toNat + next.payment.toNat + _ = next.capacity.toNat
    rw [hpayment, hcapacity]
    omega
  refine ⟨d, ?_, rfl⟩
  simp only [offer, if_neg hne, hfresh, Bool.false_eq_true, if_false, hrefund, hnext, ok_bind]
  rw [check_of_conserved (c := d) hconserved]
  rfl

/-- `d` is the next state after `c`, with the payments that have expired credited to the funder and
those whose secret is given to the counterparty. -/
structure Resolves (c : Snapshot) (secrets : Secrets) (blockTime : UInt32) (d : Snapshot) : Prop
    extends Follows c d where
  refund : d.refund.toNat = c.refund.toNat +
    Invoice.sum (c.offered.filter fun _ invoice => invoice.isExpired blockTime).values
  payment : d.payment.toNat = c.payment.toNat +
    Invoice.sum (c.offered.filter (isRedeemed secrets blockTime)).values
  offered : d.offered = c.offered.filter fun hash invoice =>
    !invoice.isExpired blockTime && !isRedeemed secrets blockTime hash invoice

theorem resolves_of_resolve {c d : Snapshot} {secrets : Secrets} {blockTime : UInt32}
    (h : c.resolve secrets blockTime = .ok d) : c.Resolves secrets blockTime d := by
  simp only [resolve, bind_eq_ok, pure_eq_ok] at h
  obtain ⟨next, hnext, expired, he, refund, hr, redeemed, hd, payment, hp, ⟨⟩, hcheck, rfl⟩ := h
  obtain ⟨hs, hf, hc, heq⟩ := nextState_eq_ok hnext
  exact {
    state := hs
    capacity := by rw [heq]
    funder := hf
    counterparty := hc
    conserved := conserved_of_check hcheck
    refund := by rw [toNat_addBalance hr, toNat_invoiceTotal he]
    payment := by rw [toNat_addBalance hp, toNat_invoiceTotal hd]
    offered := rfl }

/-- Payments can be resolved if the keys of the next state can be derived. -/
theorem exists_resolve {c next : Snapshot} (secrets : Secrets) (blockTime : UInt32)
    (hc : c.Conserved) (hnext : c.nextState = .ok next) :
    ∃ d, c.resolve secrets blockTime = .ok d ∧ d.state = next.state := by
  obtain ⟨-, -, -, heq⟩ := nextState_eq_ok hnext
  have hcapacity : c.capacity.toNat < UInt64.size := c.capacity.toNat_lt
  have hparts := sum_partition c.offered secrets blockTime
  unfold Conserved at hc
  obtain ⟨expired, he⟩ := exists_invoiceTotal
    (l := (c.offered.filter fun _ i => i.isExpired blockTime).values) (by omega)
  obtain ⟨redeemed, hd⟩ := exists_invoiceTotal
    (l := (c.offered.filter (isRedeemed secrets blockTime)).values) (by omega)
  have hexpired := toNat_invoiceTotal he
  have hredeemed := toNat_invoiceTotal hd
  obtain ⟨refund, hr⟩ := exists_addBalance (a := c.refund) (b := expired) (by omega)
  obtain ⟨payment, hp⟩ := exists_addBalance (a := c.payment) (b := redeemed) (by omega)
  have hrefund := toNat_addBalance hr
  have hpayment := toNat_addBalance hp
  let d : Snapshot := { next with
    refund
    payment
    offered := c.offered.filter fun hash i =>
      !i.isExpired blockTime && !isRedeemed secrets blockTime hash i }
  have hconserved : d.Conserved := by
    have hsame : next.capacity = c.capacity := by rw [heq]
    change refund.toNat + payment.toNat + Invoice.sum (c.offered.filter fun hash i =>
      !i.isExpired blockTime && !isRedeemed secrets blockTime hash i).values =
      next.capacity.toNat
    rw [hsame]
    omega
  refine ⟨d, ?_, rfl⟩
  simp only [resolve, hnext, he, hr, hd, hp, ok_bind]
  rw [check_of_conserved (c := d) hconserved]
  rfl

/-- `d` is one of the next states after `c`. -/
inductive Next (c d : Snapshot) : Prop
  | offers {invoice : Invoice} (h : c.Offers invoice d)
  | resolves {secrets : Secrets} {blockTime : UInt32} (h : c.Resolves secrets blockTime d)

theorem Next.follows {c d : Snapshot} (h : c.Next d) : c.Follows d := by
  cases h with
  | offers h => exact h.toFollows
  | resolves h => exact h.toFollows

/-- State 0 gives everything to the funder. -/
theorem opening_eq_ok {funder counterparty : PartyKeys} {capacity : Amount} {c : Snapshot}
    (h : opening funder counterparty capacity = .ok c) :
    funder.atState 0 = .ok c.funder ∧ counterparty.atState 0 = .ok c.counterparty ∧
      c = ⟨0, capacity, c.funder, c.counterparty, capacity, 0, ∅⟩ := by
  simp only [opening, bind_eq_ok, pure_eq_ok] at h
  obtain ⟨f, hf, g, hg, rfl⟩ := h
  exact ⟨hf, hg, rfl⟩

end Snapshot

end Scheme

end Supersede
