import Supersede.Proofs.Sweeping

/-!
# The outputs of a settlement

A settlement keeps two lists: the outputs of its transaction, and for each of them what it pays and
where it stands. A sweep is built from the second list and spends the first. Amounts that are not
above dust are left out, which moves all later outputs forward, so the two lists have to be compared
position by position.

What a state owes is described without the two lists: `Snapshot.amountOf?` gives the amount of each
part, `Snapshot.Locks` the scripts of each part, and `SettlementPart.Before` the order of the parts.

* `Snapshot.ordered_settlementItems`: the amounts of a state come in the order of their parts, so no
  part comes twice.
* `Settlement.LaidOut`: the two lists agree, and pay what the state owes above dust.
* `Settlement.Built.laidOut`: the settlement of a snapshot is laid out so.

**Theorem (`Settlement.layout_exact`).** A state with conserved balances can be settled exactly if
the settlement's lock time can be represented. The outputs are the refund, the payment and the
offered payments by their hash, each exactly once if its amount is above dust and else not at all.
What is paid and what is left out add up to what the channel holds.
-/

namespace Supersede

open Result

theorem Amount.length_mul_le_total {amounts : List Amount} {n : Nat}
    (h : ∀ a ∈ amounts, n ≤ a.toNat) : amounts.length * n ≤ total amounts := by
  induction amounts with
  | nil => simp
  | cons a amounts ih =>
    have ha := h a List.mem_cons_self
    have htail := ih fun a' ha' => h a' (List.mem_cons_of_mem a ha')
    rw [List.length_cons, Nat.add_one_mul, total]
    omega

/-! ## What a state owes -/

namespace SettlementPart

/-- The order of the parts: the refund, the payment, then the offered payments by their hash. -/
def Before : SettlementPart → SettlementPart → Prop
  | refund, payment => True
  | refund, offered _ => True
  | payment, offered _ => True
  | offered hash, offered hash' => compare hash hash' = .lt
  | _, _ => False

instance : Std.Irrefl Before where
  irrefl part h := by
    cases part with
    | refund => exact h
    | payment => exact h
    | offered hash =>
      rw [Before, Std.ReflOrd.compare_self] at h
      cases h

end SettlementPart

open SettlementPart (Before)

namespace Snapshot

variable {c : Snapshot} {p : Params} {part : SettlementPart} {amount : Amount}

/-- What a state owes to a part. -/
def amountOf? (c : Snapshot) : SettlementPart → Option Amount
  | .refund => some c.refund
  | .payment => some c.payment
  | .offered hash => (c.offered.get? hash).map (·.amount)

/-- All that a state owes. -/
def amounts (c : Snapshot) : List Amount :=
  c.refund :: c.payment :: c.offered.values.map (·.amount)

/-- The scripts of a part: the one that its spender signs and the one of its output. The settled
balances are paid to the keys of their owners, an offered payment to the hash of its script. -/
def Locks (c : Snapshot) : SettlementPart → Bytes → Bytes → Prop
  | .refund, code, lock => code = Script.payoutCode c.funder.paymentKey ∧
      lock = Script.payout c.funder.paymentKey
  | .payment, code, lock => code = Script.payoutCode c.counterparty.paymentKey ∧
      lock = Script.payout c.counterparty.paymentKey
  | .offered hash, code, lock =>
      (∃ invoice, c.offered.get? hash = some invoice ∧ code =
        Script.payment c.funder.paymentKey c.counterparty.paymentKey hash invoice.expiry) ∧
      lock = Script.lock code

theorem map_value_settlementItems (c : Snapshot) : c.settlementItems.map (·.value) = c.amounts := by
  simp only [settlementItems, amounts, SortedMap.values, List.map_cons, List.map_map]
  rfl

theorem Conserved.total_amounts (h : c.Conserved) : Amount.total c.amounts = c.capacity.toNat := by
  rw [← map_value_settlementItems, total_settlementItems]
  exact h

/-- Every item is owed, and locked as its part asks. -/
theorem owed_of_mem {item : SettlementItem} (h : item ∈ c.settlementItems) :
    c.amountOf? item.part = some item.value ∧ c.Locks item.part item.scriptCode item.lock := by
  rcases mem_settlementItems.1 h with rfl | rfl | ⟨hash, invoice, hget, rfl⟩
  · exact ⟨rfl, rfl, rfl⟩
  · exact ⟨rfl, rfl, rfl⟩
  · refine ⟨?_, ⟨invoice, hget, rfl⟩, rfl⟩
    show (c.offered.get? hash).map (·.amount) = some invoice.amount
    rw [hget]
    rfl

/-- All that is owed has an item. -/
theorem exists_item_of_owed (h : c.amountOf? part = some amount) :
    ∃ item ∈ c.settlementItems, item.part = part ∧ item.value = amount := by
  cases part with
  | refund => exact ⟨_, mem_settlementItems.2 (.inl rfl), rfl, Option.some.inj h⟩
  | payment => exact ⟨_, mem_settlementItems.2 (.inr (.inl rfl)), rfl, Option.some.inj h⟩
  | offered hash =>
    obtain ⟨invoice, hget, hamount⟩ := Option.map_eq_some_iff.1 h
    exact ⟨_, mem_settlementItems.2 (.inr (.inr ⟨hash, invoice, hget, rfl⟩)), rfl, hamount⟩

theorem ordered_settlementItems (c : Snapshot) :
    (c.settlementItems.map (·.part)).Pairwise Before := by
  have hoffered : ((c.offered.entries.map fun e => c.offeredItem e.1 e.2).map (·.part)).Pairwise
      Before := by
    rw [List.pairwise_map, List.pairwise_map]
    exact c.offered.sorted
  -- What comes after the two balances is offered.
  have hlater (part : SettlementPart)
      (h : part ∈ (c.offered.entries.map fun e => c.offeredItem e.1 e.2).map (·.part)) :
      ∃ hash, part = .offered hash := by
    simp only [List.mem_map, exists_exists_and_eq_and] at h
    obtain ⟨e, -, rfl⟩ := h
    exact ⟨e.1, rfl⟩
  rw [settlementItems, List.map_cons, List.map_cons, List.pairwise_cons, List.pairwise_cons]
  refine ⟨?_, ?_, hoffered⟩
  · intro part hpart
    rcases List.mem_cons.1 hpart with rfl | hpart
    · trivial
    · obtain ⟨hash, rfl⟩ := hlater part hpart
      trivial
  · intro part hpart
    obtain ⟨hash, rfl⟩ := hlater part hpart
    trivial

theorem ordered_paidItems (c : Snapshot) (p : Params) :
    ((c.paidItems p).map (·.part)).Pairwise Before :=
  c.ordered_settlementItems.sublist (List.filter_sublist.map _)

/-- A part is paid exactly if the state owes it more than dust. -/
theorem mem_paidParts_iff : part ∈ (c.paidItems p).map (·.part) ↔
    ∃ amount, c.amountOf? part = some amount ∧ p.dustLimit < amount := by
  simp only [paidItems, List.mem_map, List.mem_filter, Params.aboveDust, decide_eq_true_eq]
  constructor
  · intro h
    obtain ⟨item, ⟨hitem, hdust⟩, rfl⟩ := h
    exact ⟨item.value, (owed_of_mem hitem).1, hdust⟩
  · intro h
    obtain ⟨amount, howed, hdust⟩ := h
    obtain ⟨item, hitem, hpart, rfl⟩ := exists_item_of_owed howed
    exact ⟨item, ⟨hitem, hdust⟩, hpart⟩

/-- What is paid and what is left out is all that is owed. -/
theorem total_paidItems_add (c : Snapshot) (p : Params) :
    Amount.total ((c.paidItems p).map (·.value)) +
      Amount.total (c.amounts.filter (· ≤ p.dustLimit)) = Amount.total c.amounts := by
  have hparts := Amount.total_partition c.amounts id (p.aboveDust ·)
  have hpaid : (c.paidItems p).map (·.value) = c.amounts.filter (p.aboveDust ·) := by
    rw [← map_value_settlementItems, List.filter_map]
    rfl
  have homitted : (c.amounts.filter fun a => !p.aboveDust a) =
      c.amounts.filter (· ≤ p.dustLimit) := by
    refine List.filter_congr ?_
    intro a _
    simp only [Params.aboveDust, ← decide_not, UInt64.not_lt]
  rw [List.map_id, List.map_id, List.map_id, homitted] at hparts
  rw [hpaid]
  exact hparts

end Snapshot

/-! ## Position by position -/

namespace Settlement

/-- What does not depend on the position is the same in the layout. -/
theorem map_layout {α : Type} {f : SettlementOutput → α} {g : SettlementItem → α}
    (h : ∀ i item, f ⟨item.part, i, item.value, item.scriptCode⟩ = g item)
    (items : List SettlementItem) : (layout items).map f = items.map g := by
  apply List.ext_getElem?
  intro i
  simp only [layout, List.getElem?_map, List.getElem?_mapIdx, Option.map_map]
  congr 1
  funext item
  exact h (UInt32.ofNat i) item

/-- The outputs of a settlement are those that a state asks for. -/
structure LaidOut (s : Settlement) (c : Snapshot) (p : Params) : Prop where
  length_eq : s.outputs.length = s.template.outputs.length
  aligned : ∀ i o, s.outputs[i]? = some o →
    ∃ lock, s.template.outputs[i]? = some ⟨o.value, lock⟩ ∧ c.Locks o.part o.scriptCode lock ∧
      o.vout = UInt32.ofNat i ∧ (i < 2 ^ 32 → o.vout.toNat = i)
  ordered : (s.outputs.map (·.part)).Pairwise Before
  owed : ∀ o ∈ s.outputs, c.amountOf? o.part = some o.value
  present : ∀ part amount, c.amountOf? part = some amount →
    (s.outputs.map (·.part)).count part = if p.dustLimit < amount then 1 else 0
  total : Amount.total (s.template.outputs.map (·.value)) +
    Amount.total (c.amounts.filter (· ≤ p.dustLimit)) = c.capacity.toNat
  /-- An output holds more than dust, so there are not more of them than the channel can pay. -/
  length_le : s.outputs.length * (p.dustLimit.toNat + 1) ≤ c.capacity.toNat
  covered : ∃ u, Update.build c p = .ok u ∧ u.script = s.updateScript ∧
    Amount.total (s.template.outputs.map (·.value)) ≤
      Amount.total (u.template.outputs.map (·.value))

namespace Built

variable {s : Settlement} {c : Snapshot} {p : Params}

theorem map_part (h : s.Built c p) : s.outputs.map (·.part) = (c.paidItems p).map (·.part) := by
  rw [h.layout]
  exact map_layout (fun _ _ => rfl) _

theorem map_value (h : s.Built c p) : s.outputs.map (·.value) = (c.paidItems p).map (·.value) := by
  rw [h.layout]
  exact map_layout (fun _ _ => rfl) _

theorem total_eq (h : s.Built c p) :
    Amount.total (s.template.outputs.map (·.value)) +
      Amount.total (c.amounts.filter (· ≤ p.dustLimit)) = c.capacity.toNat := by
  rw [h.map_value_template, Snapshot.total_paidItems_add, h.conserved.total_amounts]

theorem owed (h : s.Built c p) {o : SettlementOutput} (ho : o ∈ s.outputs) :
    c.amountOf? o.part = some o.value ∧ p.dustLimit < o.value := by
  obtain ⟨i, hi⟩ := List.mem_iff_getElem?.1 ho
  obtain ⟨item, hitem, rfl, -⟩ := h.exists_paidItem hi
  have hpaid := List.mem_filter.1 hitem
  exact ⟨(Snapshot.owed_of_mem hpaid.1).1, of_decide_eq_true hpaid.2⟩

theorem length_mul_le (h : s.Built c p) :
    s.outputs.length * (p.dustLimit.toNat + 1) ≤ c.capacity.toNat := by
  have hvalues : ∀ a ∈ s.outputs.map (·.value), p.dustLimit.toNat + 1 ≤ a.toNat := by
    intro a ha
    obtain ⟨o, ho, rfl⟩ := List.mem_map.1 ha
    exact UInt64.lt_iff_toNat_lt.1 (h.owed ho).2
  have hlength := Amount.length_mul_le_total hvalues
  rw [List.length_map, h.map_value] at hlength
  exact hlength.trans (h.conserved.total_paidItems_le p)

/-- The update of the state holds the whole amount, under the script that the settlement shows. -/
theorem exists_update (h : s.Built c p) : ∃ u, Update.build c p = .ok u ∧
    u.script = s.updateScript ∧ u.template.outputs = [⟨c.capacity, Script.lock u.script⟩] := by
  have hlock : p.lockTimeBase.toNat + c.state.toNat + 1 < UInt32.size := by
    rw [← Params.toNat_of_settleLockTime h.lockTime]
    exact s.template.lockTime.toNat_lt
  obtain ⟨u, -, hu, -⟩ := StateTxs.exists_build h.conserved hlock
  obtain ⟨hscript, lockTime, -, htemplate⟩ := Update.template_of_build hu
  refine ⟨u, hu, ?_, by rw [htemplate]⟩
  rw [h.script] at hscript
  exact (Except.ok.inj hscript).symm

theorem laidOut (h : s.Built c p) : s.LaidOut c p where
  length_eq := by
    have hlength := congrArg List.length (h.map_value.trans h.map_value_template.symm)
    rw [List.length_map, List.length_map] at hlength
    exact hlength
  aligned := by
    intro i o ho
    obtain ⟨item, hitem, rfl, houtput⟩ := h.exists_paidItem ho
    have hlocks := (Snapshot.owed_of_mem (List.mem_of_mem_filter hitem)).2
    refine ⟨item.lock, houtput, hlocks, rfl, ?_⟩
    intro hi
    exact UInt32.toNat_ofNat_of_lt' hi
  ordered := by
    rw [h.map_part]
    exact c.ordered_paidItems p
  owed := by
    intro o ho
    exact (h.owed ho).1
  present := by
    intro part amount howed
    have hiff : part ∈ (c.paidItems p).map (·.part) ↔ p.dustLimit < amount := by
      rw [Snapshot.mem_paidParts_iff, howed]
      simp
    rw [h.map_part, (c.ordered_paidItems p).nodup.count]
    simp only [hiff]
  total := h.total_eq
  length_le := h.length_mul_le
  covered := by
    obtain ⟨u, hu, hscript, houtputs⟩ := h.exists_update
    refine ⟨u, hu, hscript, ?_⟩
    have htotal := h.total_eq
    rw [houtputs]
    simp only [List.map_cons, List.map_nil, Amount.total]
    omega

end Built

/-- **The layout of a settlement is exact.** -/
theorem layout_exact (c : Snapshot) (hc : c.Conserved) (p : Params) :
    ((∃ s, build c p = .ok s) ↔ p.lockTimeBase.toNat + c.state.toNat + 1 < 2 ^ 32) ∧
      ∀ s, build c p = .ok s → s.LaidOut c p := by
  refine ⟨⟨?_, ?_⟩, ?_⟩
  · intro h
    obtain ⟨s, hs⟩ := h
    rw [← Params.toNat_of_settleLockTime (built_of_build hs).lockTime]
    exact s.template.lockTime.toNat_lt
  · intro hlock
    obtain ⟨-, s, -, hs⟩ := StateTxs.exists_build hc hlock
    exact ⟨s, hs⟩
  · intro s hs
    exact (built_of_build hs).laidOut

/-! ## A settlement with dust -/

/-- A hash that comes after the hash of zeros. -/
def laterHash : PaymentHash := ⟨List.replicate 20 1, List.length_replicate⟩

/-- A payment of exactly the default dust limit, and two payments on offer of which the second is
dust. -/
def dustySnapshot (k : PartyKeys) : Snapshot :=
  { Snapshot.first 1000000 k k with
    refund := 898900
    payment := 600
    offered := (SortedMap.insert ∅ laterHash ⟨1, laterHash, 500, 1500000000⟩).insert
      (FixedBytes.zero 20) ⟨0, FixedBytes.zero 20, 100000, 1500000000⟩ }

theorem conserved_dustySnapshot (k : PartyKeys) : (dustySnapshot k).Conserved := by
  have hoffered : Invoice.sum (dustySnapshot k).offered.values = 100500 := rfl
  rw [Snapshot.Conserved, hoffered]
  show UInt64.toNat 898900 + UInt64.toNat 600 + 100500 = UInt64.toNat 1000000
  decide

theorem exists_build_dusty (k : PartyKeys) : ∃ s, build (dustySnapshot k) {} = .ok s := by
  have hlock : ({} : Params).lockTimeBase.toNat + (dustySnapshot k).state.toNat + 1 <
      UInt32.size := by
    show 500000000 + 0 + 1 < UInt32.size
    decide
  obtain ⟨-, s, -, hs⟩ := StateTxs.exists_build (conserved_dustySnapshot k) hlock
  exact ⟨s, hs⟩

/-- Two of the four amounts are left out, and the first payment on offer follows the refund. -/
theorem layout_exact_dusty : ∃ (k : PartyKeys) (s : Settlement),
    (dustySnapshot k).Conserved ∧ build (dustySnapshot k) {} = .ok s ∧
    s.LaidOut (dustySnapshot k) {} ∧
    s.outputs.map (·.part) = [.refund, .offered (FixedBytes.zero 20)] ∧
    Amount.total (s.template.outputs.map (·.value)) = 998900 := by
  let _ : KeyScheme := .secp256k1
  obtain ⟨keys, k, k', -, hk, -⟩ := exists_keys_zeros
  obtain ⟨s, hs⟩ := exists_build_dusty k
  have hc := conserved_dustySnapshot k
  have hlaid := (layout_exact (dustySnapshot k) hc {}).2 s hs
  refine ⟨k, s, hc, hs, hlaid, (built_of_build hs).map_part, ?_⟩
  have htotal : Amount.total (s.template.outputs.map (·.value)) + 1100 = 1000000 := hlaid.total
  omega

end Settlement

end Supersede
