import Supersede.Proofs.Layout

/-!
# What a sweep takes

A sweep looks for the settled balance of its side first and goes through the outputs for payments on
offer after that. What a side is entitled to is said here by the part of an output alone:
`Sweep.isEntitled` lets a side take its own balance, and the payments on offer that it can unlock.

* `Sweep.inputsOf_eq`: the two searches together are one selection from the outputs, in their order.
* `Sweep.Selects`: the selection holds all that the side is entitled to above dust, and nothing
  twice.
* `Sweep.exists_sum?_entitled`: the outputs are paid from what the channel holds, so the sum of a
  selection cannot overflow.

**Theorem (`Sweep.takes_entitled`).** A side sweeps what it is entitled to, and can do so exactly if
that is worth more than two fees. It is paid the exact sum less one fee.
-/

namespace Supersede

open SettlementPart (Before)

/-! ## Selecting from a list -/

section Lists

variable {α β : Type}

/-- A key that comes at most once is found by a search. -/
theorem filter_eq_toList_find? [BEq β] [LawfulBEq β] {f : α → β} {l : List α}
    (h : (l.map f).Nodup) (b : β) :
    l.filter (f · == b) = (l.find? (f · == b)).toList := by
  induction l with
  | nil => rfl
  | cons a l ih =>
    rw [List.map_cons, List.nodup_cons] at h
    by_cases hb : (f a == b) = true
    · have hrest : l.filter (f · == b) = [] := by
        rw [List.filter_eq_nil_iff]
        intro a' ha' hb'
        apply h.1
        rw [eq_of_beq hb, ← eq_of_beq hb']
        exact List.mem_map_of_mem ha'
      simp [hb, hrest]
    · simp [hb, ih h.2]

/-- Where all that passes a test comes last, a selection is one of the others and then one of
those. -/
theorem filter_eq_append {r : α → Bool} {l : List α}
    (h : l.Pairwise fun a b => r a = true → r b = true) (q : α → Bool) :
    l.filter q = l.filter (fun a => q a && !r a) ++ l.filter fun a => q a && r a := by
  induction l with
  | nil => rfl
  | cons a l ih =>
    rw [List.pairwise_cons] at h
    by_cases hr : r a = true
    · have hnone : l.filter (fun a => q a && !r a) = [] := by
        rw [List.filter_eq_nil_iff]
        intro a' ha'
        simp [h.1 a' ha' hr]
      have hrest := ih h.2
      rw [hnone, List.nil_append] at hrest
      simp [List.filter_cons, hr, hnone, hrest]
    · by_cases hq : q a = true <;> simp [hr, hq, ih h.2]

end Lists

/-! ## Entitlement -/

/-- The part is a payment on offer. -/
def SettlementPart.isOffered : SettlementPart → Bool
  | offered _ => true
  | _ => false

theorem SettlementPart.Before.isOffered {part part' : SettlementPart} (h : part.Before part')
    (hpart : part.isOffered = true) : part'.isOffered = true := by
  cases part <;> cases part' <;> trivial

/-- Positions are counted in 32 bits, and up to that many outputs stand apart. -/
theorem Settlement.Built.nodup_vout {s : Settlement} {c : Snapshot} {p : Params} (h : s.Built c p)
    (hlength : s.outputs.length ≤ 2 ^ 32) : (s.outputs.map (·.vout)).Nodup := by
  have hvout (i : Nat) (hi : i < s.outputs.length) : s.outputs[i].vout.toNat = i := by
    obtain ⟨lock, -, -, -, heq⟩ := h.laidOut.aligned i _ (List.getElem?_eq_getElem hi)
    exact heq (hi.trans_le hlength)
  rw [List.Nodup, List.pairwise_map, List.pairwise_iff_getElem]
  intro i j hi hj hij heq
  have hpositions := congrArg UInt32.toNat heq
  rw [hvout i hi, hvout j hj] at hpositions
  omega

namespace Sweep

/-- A side can unlock a payment on offer: the funder once it has expired, the counterparty if it
knows a secret. -/
def canUnlock (c : Snapshot) (secrets : Secrets) (blockTime : UInt32) (hash : PaymentHash) :
    Role → Bool
  | .funder => (c.offered.get? hash).any fun invoice => invoice.expiry ≤ blockTime
  | .counterparty => secrets.contains hash

/-- A side is entitled to its settled balance and, if it asks for more, to the payments on offer
that it can unlock, or to all of them. -/
def isEntitled (c : Snapshot) (secrets : Secrets) (role : Role) (options : SweepOptions) :
    SettlementPart → Bool
  | .refund => role == .funder
  | .payment => role == .counterparty
  | .offered hash => !options.settledOnly &&
      (options.includeInvalid || canUnlock c secrets options.blockTime hash role)

/-- How a side unlocks a part. -/
def unlockOf (secrets : Secrets) (role : Role) : SettlementPart → Unlock
  | .offered hash => match role with
    | .funder => .refund
    | .counterparty => .claim (secrets.get? hash)
  | _ => .payout

/-- The outputs that a side is entitled to. -/
def entitled (s : Settlement) (c : Snapshot) (secrets : Secrets) (role : Role)
    (options : SweepOptions) : List SettlementOutput :=
  s.outputs.filter (isEntitled c secrets role options ·.part)

section Selection

variable {s : Settlement} {c : Snapshot} {p : Params} {secrets : Secrets} {role : Role}
  {options : SweepOptions}

/-- Of the settled balances a side is entitled to its own. -/
theorem isEntitled_and_not_isOffered (c : Snapshot) (secrets : Secrets) (role : Role)
    (options : SweepOptions) (part : SettlementPart) :
    (isEntitled c secrets role options part && !part.isOffered) = (part == settledPart role) := by
  cases part with
  | refund => cases role <;> rfl
  | payment => cases role <;> rfl
  | offered hash => cases role <;> simp [SettlementPart.isOffered, settledPart]

theorem not_isEntitled_other (c : Snapshot) (secrets : Secrets) (role : Role)
    (options : SweepOptions) :
    isEntitled c secrets role options (settledPart role.other) = false := by
  cases role <;> rfl

theorem unlock?_eq {hash : PaymentHash} {invoice : Invoice}
    (h : c.offered.get? hash = some invoice) :
    unlock? secrets role options hash invoice =
      if options.includeInvalid || canUnlock c secrets options.blockTime hash role then
        some (unlockOf secrets role (.offered hash))
      else none := by
  cases role with
  | funder =>
    simp only [canUnlock, h]
    rfl
  | counterparty => rfl

/-- The search for payments on offer passes exactly those that the side is entitled to. -/
theorem offeredInput?_eq (h : s.Built c p) (hall : options.settledOnly = false)
    {o : SettlementOutput} (ho : o ∈ s.outputs) :
    offeredInput? c secrets role options o =
      (Option.guard (fun o => isEntitled c secrets role options o.part && o.part.isOffered) o).map
        fun o => input o (unlockOf secrets role o.part) := by
  have howed := (h.owed ho).1
  obtain ⟨part, vout, value, code⟩ := o
  cases part with
  | refund => simp [offeredInput?, SettlementPart.isOffered]
  | payment => simp [offeredInput?, SettlementPart.isOffered]
  | offered hash =>
    obtain ⟨invoice, hget, -⟩ := Option.map_eq_some_iff.1 howed
    simp only [offeredInput?, hget, Option.bind_eq_bind, Option.bind_some, unlock?_eq hget,
      isEntitled, hall, SettlementPart.isOffered, Option.guard]
    by_cases hunlock :
        (options.includeInvalid || canUnlock c secrets options.blockTime hash role) = true
    · simp [hunlock]
    · simp [hunlock]

theorem settled_eq (h : s.Built c p) :
    ((s.output? (settledPart role)).map (input · .payout)).toList =
      (s.outputs.filter fun o =>
        isEntitled c secrets role options o.part && !o.part.isOffered).map
          fun o => input o (unlockOf secrets role o.part) := by
  simp only [isEntitled_and_not_isOffered]
  rw [filter_eq_toList_find? h.laidOut.ordered.nodup (settledPart role)]
  show _ = (s.output? (settledPart role)).toList.map _
  rcases hfind : s.output? (settledPart role) with _ | o
  · rfl
  · have hunlock : unlockOf secrets role o.part = .payout := by
      rw [(Settlement.of_output? hfind).2]
      cases role <;> rfl
    simp [hunlock]

theorem offered_eq (h : s.Built c p) :
    (if options.settledOnly then [] else
      s.outputs.filterMap (offeredInput? c secrets role options)) =
      (s.outputs.filter fun o =>
        isEntitled c secrets role options o.part && o.part.isOffered).map
          fun o => input o (unlockOf secrets role o.part) := by
  by_cases hall : options.settledOnly = true
  · have hnone : (s.outputs.filter fun o =>
        isEntitled c secrets role options o.part && o.part.isOffered) = [] := by
      rw [List.filter_eq_nil_iff]
      intro o _
      cases o.part <;> simp [isEntitled, SettlementPart.isOffered, hall]
    rw [if_pos hall, hnone]
    rfl
  · rw [if_neg hall, ← List.filterMap_eq_filter, List.map_filterMap]
    apply List.filterMap_congr
    intro o ho
    exact offeredInput?_eq h (Bool.eq_false_iff.2 hall) ho

/-- The inputs of a sweep are the outputs that its side is entitled to. -/
theorem inputsOf_eq (h : s.Built c p) (secrets : Secrets) (role : Role) (options : SweepOptions) :
    inputsOf s secrets role options =
      (entitled s c secrets role options).map fun o => input o (unlockOf secrets role o.part) := by
  have hlast : s.outputs.Pairwise fun o o' =>
      o.part.isOffered = true → o'.part.isOffered = true := by
    refine (List.pairwise_map.1 h.laidOut.ordered).imp ?_
    intro o o' hbefore
    exact hbefore.isOffered
  rw [entitled, filter_eq_append hlast, List.map_append, ← settled_eq h, ← offered_eq h, inputsOf,
    h.snapshot]

/-- What a side is entitled to is selected from the outputs of a settlement: each amount above dust
that it is entitled to, once and in the order of the parts, and nothing else. -/
structure Selects (taken : List SettlementOutput) (s : Settlement) (c : Snapshot) (p : Params)
    (secrets : Secrets) (role : Role) (options : SweepOptions) : Prop where
  sublist : taken.Sublist s.outputs
  ordered : (taken.map (·.part)).Pairwise Before
  owed : ∀ o ∈ taken, c.amountOf? o.part = some o.value
  present : ∀ part amount, c.amountOf? part = some amount → (taken.map (·.part)).count part =
    if p.dustLimit < amount ∧ isEntitled c secrets role options part = true then 1 else 0
  not_other : settledPart role.other ∉ taken.map (·.part)
  nodup_vout : s.outputs.length ≤ 2 ^ 32 → (taken.map (·.vout)).Nodup

theorem selects_entitled (h : s.Built c p) (secrets : Secrets) (role : Role)
    (options : SweepOptions) :
    Selects (entitled s c secrets role options) s c p secrets role options where
  sublist := List.filter_sublist
  ordered := h.laidOut.ordered.sublist (List.filter_sublist.map _)
  owed := by
    intro o ho
    exact (h.owed (List.mem_of_mem_filter ho)).1
  present := by
    intro part amount howed
    have hparts : (entitled s c secrets role options).map (·.part) =
        (s.outputs.map (·.part)).filter (isEntitled c secrets role options) := by
      rw [List.filter_map]
      rfl
    have hcount := h.laidOut.present part amount howed
    rw [hparts]
    by_cases hentitled : isEntitled c secrets role options part = true
    · rw [List.count_filter hentitled, hcount]
      simp only [hentitled, and_true]
    · rw [if_neg fun hboth => hentitled hboth.2, List.count_eq_zero]
      intro hmem
      exact hentitled (List.mem_filter.1 hmem).2
  not_other := by
    intro hmem
    obtain ⟨o, ho, hpart⟩ := List.mem_map.1 hmem
    have hentitled := (List.mem_filter.1 ho).2
    rw [hpart, not_isEntitled_other] at hentitled
    cases hentitled
  nodup_vout := by
    intro hlength
    exact (h.nodup_vout hlength).sublist (List.filter_sublist.map _)

/-- What a side takes is paid from the channel, so its sum is an amount. -/
theorem exists_sum?_entitled (h : s.Built c p) (secrets : Secrets) (role : Role)
    (options : SweepOptions) :
    ∃ total, Amount.sum? ((entitled s c secrets role options).map (·.value)) = some total := by
  apply Amount.exists_sum?
  have hpart : Amount.total ((entitled s c secrets role options).map (·.value)) ≤
      Amount.total (s.outputs.map (·.value)) :=
    Amount.total_le_of_sublist (List.filter_sublist.map _)
  rw [h.map_value] at hpart
  exact (hpart.trans (h.conserved.total_paidItems_le p)).trans_lt c.capacity.toNat_lt

end Selection

/-! ## What a side is paid -/

/-- The fee is taken once and has to be exceeded by what is left. -/
theorem minus_le_fee_iff {total fee : Amount} :
    total.minus fee ≤ fee ↔ total.toNat ≤ 2 * fee.toNat := by
  rw [UInt64.le_iff_toNat_le, Amount.toNat_minus]
  omega

/-- The sweep spends outputs of a settlement, and pays all that they hold but the fee to the key of
its side. -/
structure Pays (w : Sweep) (taken : List SettlementOutput) (c : Snapshot) (txid : Txid)
    (secrets : Secrets) (role : Role) (fee : Amount) : Prop where
  inputs : w.inputs = taken.map fun o => input o (unlockOf secrets role o.part)
  spends : w.template.inputs.map (·.outpoint) = taken.map fun o => ⟨txid, o.vout⟩
  payout : ∃ payout : Amount,
    payout.toNat + fee.toNat = Amount.total (taken.map (·.value)) ∧
      w.template.outputs = [⟨payout, Script.payout (c.party role).paymentKey⟩]

section Building

variable {s : Settlement} {c : Snapshot} {p : Params} {secrets : Secrets} {role : Role}
  {options : SweepOptions}

theorem map_value_inputsOf (h : s.Built c p) : (inputsOf s secrets role options).map (·.value) =
    (entitled s c secrets role options).map (·.value) := by
  rw [inputsOf_eq h, List.map_map]
  rfl

/-- What is not worth more than two fees is refused. -/
theorem build_of_le (h : s.Built c p) (txid : Txid) {q : Params}
    (hfee : Amount.total ((entitled s c secrets role options).map (·.value)) ≤ 2 * q.fee.toNat) :
    ∃ payout : Amount, payout.toNat =
        Amount.total ((entitled s c secrets role options).map (·.value)) - q.fee.toNat ∧
      build s txid secrets role options q = .error (.ledger (.redeemBelowFee payout q.fee)) := by
  obtain ⟨total, hsum⟩ := exists_sum?_entitled h secrets role options
  rw [← Amount.toNat_sum? hsum] at hfee ⊢
  refine ⟨total.minus q.fee, Amount.toNat_minus total q.fee, ?_⟩
  simp only [build, map_value_inputsOf h, hsum]
  rw [if_pos (minus_le_fee_iff.2 hfee)]

/-- What is worth more than two fees is swept. -/
theorem exists_build (h : s.Built c p) (txid : Txid) {q : Params}
    (hfee : 2 * q.fee.toNat < Amount.total ((entitled s c secrets role options).map (·.value))) :
    ∃ w, build s txid secrets role options q = .ok w ∧
      w.Pays (entitled s c secrets role options) c txid secrets role q.fee := by
  obtain ⟨total, hsum⟩ := exists_sum?_entitled h secrets role options
  have htotal := Amount.toNat_sum? hsum
  rw [← htotal] at hfee
  have hpayout : ¬ total.minus q.fee ≤ q.fee := by
    rw [minus_le_fee_iff]
    omega
  simp only [build, map_value_inputsOf h, hsum]
  rw [if_neg hpayout]
  refine ⟨_, rfl, inputsOf_eq h secrets role options, ?_, total.minus q.fee, ?_, ?_⟩
  · rw [List.map_map, inputsOf_eq h, List.map_map]
    rfl
  · rw [← htotal, Amount.toNat_minus]
    omega
  · rw [h.snapshot]

end Building

/-- **A side sweeps what it is entitled to.** -/
theorem takes_entitled (c : Snapshot) (p : Params) (s : Settlement)
    (hs : Settlement.build c p = .ok s) (txid : Txid) (secrets : Secrets) (role : Role)
    (options : SweepOptions) (q : Params) :
    Selects (entitled s c secrets role options) s c p secrets role options ∧
      inputsOf s secrets role options =
        (entitled s c secrets role options).map (fun o => input o (unlockOf secrets role o.part)) ∧
      ((∃ w, build s txid secrets role options q = .ok w) ↔
        2 * q.fee.toNat < Amount.total ((entitled s c secrets role options).map (·.value))) ∧
      (∀ e, build s txid secrets role options q = .error e → ∃ payout : Amount, payout.toNat =
          Amount.total ((entitled s c secrets role options).map (·.value)) - q.fee.toNat ∧
        e = .ledger (.redeemBelowFee payout q.fee)) ∧
      ∀ w, build s txid secrets role options q = .ok w →
        w.Pays (entitled s c secrets role options) c txid secrets role q.fee := by
  have h := Settlement.built_of_build hs
  refine ⟨selects_entitled h secrets role options, inputsOf_eq h secrets role options, ?_⟩
  -- Both outcomes follow from the comparison of the sum with two fees.
  by_cases hfee :
      2 * q.fee.toNat < Amount.total ((entitled s c secrets role options).map (·.value))
  · obtain ⟨w, hw, hpays⟩ := exists_build h txid hfee
    rw [hw]
    refine ⟨iff_of_true ⟨w, rfl⟩ hfee, ?_, ?_⟩
    · intro e he
      cases he
    · intro w' hw'
      cases hw'
      exact hpays
  · obtain ⟨payout, hpayout, herror⟩ := build_of_le h txid (Nat.le_of_not_lt hfee)
    rw [herror]
    refine ⟨iff_of_false ?_ hfee, ?_, ?_⟩
    · intro hok
      obtain ⟨w, hw⟩ := hok
      cases hw
    · intro e he
      cases he
      exact ⟨payout, hpayout, rfl⟩
    · intro w hw
      cases hw

/-! ## A sweep of a settlement with dust -/

/-- Secrets for both payments on offer in that state. -/
def dustySecrets : Secrets :=
  (SortedMap.insert ∅ (FixedBytes.zero 20) (FixedBytes.zero 32)).insert Settlement.laterHash
    (FixedBytes.zero 32)

/-- The counterparty's balance and one of the payments that it knows a secret for are dust, and the
refund is not its own, so that it takes one output of the two. -/
theorem takes_entitled_dusty : ∃ (k : PartyKeys) (s : Settlement) (w : Sweep),
    Settlement.build (Settlement.dustySnapshot k) {} = .ok s ∧
    build s (FixedBytes.zero 32) dustySecrets .counterparty { blockTime := 0 } {} = .ok w ∧
    w.inputs.map (·.vout) = [1] ∧
    w.template.outputs = [⟨99000, Script.payout k.paymentKey⟩] := by
  let _ : KeyScheme := .secp256k1
  obtain ⟨keys, k, k', -, hk, -⟩ := exists_keys_zeros
  obtain ⟨s, hs⟩ := Settlement.exists_build_dusty k
  obtain ⟨-, -, hbuilds, -, hpays⟩ := takes_entitled (Settlement.dustySnapshot k) {} s hs
    (FixedBytes.zero 32) dustySecrets .counterparty { blockTime := 0 } {}
  have htaken : entitled s (Settlement.dustySnapshot k) dustySecrets .counterparty
      { blockTime := 0 } = [⟨.offered (FixedBytes.zero 20), 1, 100000,
        Script.payment k.paymentKey k.paymentKey (FixedBytes.zero 20) 1500000000⟩] := by
    rw [entitled, (Settlement.built_of_build hs).layout]
    rfl
  rw [htaken] at hbuilds hpays
  obtain ⟨w, hw⟩ := hbuilds.2 (show 2 * 1000 < 100000 by decide)
  obtain ⟨hinputs, -, payout, hpayout, houtputs⟩ := hpays w hw
  refine ⟨k, s, w, hs, hw, by rw [hinputs]; rfl, ?_⟩
  have hsum : payout.toNat + 1000 = 100000 := hpayout
  obtain rfl : payout = 99000 := by
    rw [← UInt64.toNat_inj]
    show payout.toNat = 99000
    omega
  exact houtputs

end Sweep

end Supersede
