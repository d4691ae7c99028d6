import Supersede.Proofs.Handshake

/-!
# The order of offers

Two payments are offered one after the other, each in a state of its own. Whether an offer is
possible depends on the state that it is made in: on the funder's balance, on the payments that are
already on offer, and on the keys of the next state. None of this tells which of two payments came
first, unless both have the same hash.

* `PartyKeys.atState_atState`: keys taken to a state give the same keys of later states.
* `Snapshot.exists_offer_iff`, `Snapshot.exists_offerBoth_iff`: when one or two payments can be
  offered. The conditions for two do not depend on their order.
* `Snapshot.TwoOffers`: the state after two offers, with `symm` and `unique`.

**Theorem (`Snapshot.offers_commute`).** From a state with conserved balances, two payments with
different hashes can be offered in one order exactly if they can in the other. Both orders lead to
the same state, with the same update and the same settlement.
-/

namespace Supersede

open Result

variable [KeyScheme]

/-- The keys of a state depend on the party only, not on the state that it was in before. -/
theorem PartyKeys.atState_atState {k k' : PartyKeys} {state : UInt32}
    (h : k.atState state = .ok k') (state' : UInt32) : k'.atState state' = k.atState state' := by
  simp only [atState, bind_eq_ok, pure_eq_ok] at h
  obtain ⟨_, -, child, -, rfl⟩ := h
  rfl

namespace Snapshot

variable {c d e e' : Snapshot} {a b invoice : Invoice}

/-! ## States ahead -/

/-- Some steps ahead there is a state, and the keys of both parties can be derived for it. -/
def HasKeys (c : Snapshot) (steps : Nat) : Prop :=
  ∃ state : UInt32, state.toNat = c.state.toNat + steps ∧
    ∀ role, ∃ k, (c.party role).atState state = .ok k

theorem exists_nextState_iff : (∃ next, c.nextState = .ok next) ↔ c.HasKeys 1 := by
  constructor
  · rintro ⟨next, hnext⟩
    obtain ⟨hstate, hfunder, hcounterparty, -⟩ := nextState_eq_ok hnext
    refine ⟨next.state, hstate, ?_⟩
    intro role
    cases role with
    | funder => exact ⟨_, hfunder⟩
    | counterparty => exact ⟨_, hcounterparty⟩
  · rintro ⟨state, hstate, hkeys⟩
    obtain ⟨funder, hfunder⟩ := hkeys .funder
    obtain ⟨counterparty, hcounterparty⟩ := hkeys .counterparty
    have hadd : addState c.state 1 = .ok state := addState_of_toNat hstate
    have hfunder : c.funder.atState state = .ok funder := hfunder
    have hcounterparty : c.counterparty.atState state = .ok counterparty := hcounterparty
    simp only [nextState, hadd, hfunder, hcounterparty, ok_bind]
    exact ⟨_, rfl⟩

theorem Follows.atState_eq (h : c.Follows d) (role : Role) (state : UInt32) :
    (d.party role).atState state = (c.party role).atState state := by
  cases role with
  | funder => exact PartyKeys.atState_atState h.funder state
  | counterparty => exact PartyKeys.atState_atState h.counterparty state

/-- The next state has one step less to go. -/
theorem Follows.hasKeys_iff (h : c.Follows d) (steps : Nat) :
    d.HasKeys steps ↔ c.HasKeys (steps + 1) := by
  have hsteps : d.state.toNat + steps = c.state.toNat + (steps + 1) := by
    rw [h.state]
    omega
  simp only [HasKeys, h.atState_eq, hsteps]

/-! ## One offer -/

/-- A payment can be offered exactly if it is not empty, not on offer yet and not more than the
funder's balance, and the next state has keys. -/
theorem exists_offer_iff (hc : c.Conserved) :
    (∃ d, c.offer invoice = .ok d) ↔ invoice.amount ≠ 0 ∧
      c.offered.contains invoice.hash = false ∧ invoice.amount.toNat ≤ c.refund.toNat ∧
      c.HasKeys 1 := by
  constructor
  · rintro ⟨d, hd⟩
    have hoffers := offers_of_offer hd
    have hrefund := hoffers.refund
    exact ⟨hoffers.nonzero, hoffers.fresh, by omega,
      exists_nextState_iff.1 (exists_nextState_of_offer hd)⟩
  · rintro ⟨hne, hfresh, hle, hkeys⟩
    obtain ⟨next, hnext⟩ := exists_nextState_iff.2 hkeys
    obtain ⟨d, hd, -⟩ :=
      exists_offer invoice hc hnext hne hfresh (UInt64.le_iff_toNat_le.2 hle)
    exact ⟨d, hd⟩

/-- An offer takes no other hash. -/
theorem Offers.contains_eq (h : c.Offers a d) {hash : PaymentHash} (hne : hash ≠ a.hash) :
    d.offered.contains hash = c.offered.contains hash := by
  rw [h.offered, SortedMap.contains, SortedMap.get?_insert_of_ne _ hne, SortedMap.contains]

/-! ## Two offers -/

/-- Offers two payments, one after the other. -/
def offerBoth (c : Snapshot) (a b : Invoice) : Result Snapshot := do
  let d ← c.offer a
  d.offer b

/-- Two payments that can be offered one after the other, in whichever order. -/
structure BothOfferable (c : Snapshot) (a b : Invoice) : Prop where
  nonzero : a.amount ≠ 0 ∧ b.amount ≠ 0
  fresh : c.offered.contains a.hash = false ∧ c.offered.contains b.hash = false
  affordable : a.amount.toNat + b.amount.toNat ≤ c.refund.toNat
  keys : c.HasKeys 1 ∧ c.HasKeys 2

theorem BothOfferable.symm (h : c.BothOfferable a b) : c.BothOfferable b a :=
  ⟨h.nonzero.symm, h.fresh.symm, Nat.add_comm a.amount.toNat _ ▸ h.affordable, h.keys⟩

theorem exists_offerBoth_iff (hc : c.Conserved) (hab : a.hash ≠ b.hash) :
    (∃ e, c.offerBoth a b = .ok e) ↔ c.BothOfferable a b := by
  constructor
  · rintro ⟨e, he⟩
    obtain ⟨d, hd, he⟩ := bind_eq_ok.1 he
    have hoffers := offers_of_offer hd
    obtain ⟨hne, hfresh, -, hkeys⟩ := (exists_offer_iff hc).1 ⟨d, hd⟩
    obtain ⟨hne', hfresh', hle', hkeys'⟩ := (exists_offer_iff hoffers.conserved).1 ⟨e, he⟩
    rw [hoffers.contains_eq hab.symm] at hfresh'
    rw [hoffers.hasKeys_iff] at hkeys'
    have hrefund := hoffers.refund
    exact ⟨⟨hne, hne'⟩, ⟨hfresh, hfresh'⟩, by omega, hkeys, hkeys'⟩
  · rintro ⟨⟨hne, hne'⟩, ⟨hfresh, hfresh'⟩, hle, hkeys, hkeys'⟩
    obtain ⟨d, hd⟩ := (exists_offer_iff hc).2 ⟨hne, hfresh, by omega, hkeys⟩
    have hoffers := offers_of_offer hd
    have hrefund := hoffers.refund
    rw [← hoffers.contains_eq hab.symm] at hfresh'
    rw [← hoffers.hasKeys_iff] at hkeys'
    obtain ⟨e, he⟩ :=
      (exists_offer_iff hoffers.conserved).2 ⟨hne', hfresh', by omega, hkeys'⟩
    exact ⟨e, bind_eq_ok.2 ⟨d, hd, he⟩⟩

/-- `e` is two states after `c`, with two payments moved from the funder's balance onto offer. -/
structure TwoOffers (c : Snapshot) (a b : Invoice) (e : Snapshot) : Prop where
  state : e.state.toNat = c.state.toNat + 2
  capacity : e.capacity = c.capacity
  keys : ∀ role, (c.party role).atState e.state = .ok (e.party role)
  refund : e.refund.toNat + a.amount.toNat + b.amount.toNat = c.refund.toNat
  payment : e.payment = c.payment
  offered : e.offered = (c.offered.insert a.hash a).insert b.hash b

theorem twoOffers_of_offerBoth (h : c.offerBoth a b = .ok e) : c.TwoOffers a b e := by
  obtain ⟨d, hd, he⟩ := bind_eq_ok.1 h
  have hfirst := offers_of_offer hd
  have hsecond := offers_of_offer he
  constructor
  · rw [hsecond.state, hfirst.state]
  · rw [hsecond.capacity, hfirst.capacity]
  · intro role
    rw [← hfirst.atState_eq]
    cases role with
    | funder => exact hsecond.funder
    | counterparty => exact hsecond.counterparty
  · have hrefund := hfirst.refund
    have hrefund' := hsecond.refund
    omega
  · rw [hsecond.payment, hfirst.payment]
  · rw [hsecond.offered, hfirst.offered]

/-- The payments on offer are kept by their hash, so the order in which they came is lost. -/
theorem TwoOffers.symm (h : c.TwoOffers a b e) (hab : a.hash ≠ b.hash) : c.TwoOffers b a e where
  state := h.state
  capacity := h.capacity
  keys := h.keys
  refund := by
    have hrefund := h.refund
    omega
  payment := h.payment
  offered := by rw [h.offered, SortedMap.insert_comm _ hab]

theorem TwoOffers.unique (h : c.TwoOffers a b e) (h' : c.TwoOffers a b e') : e = e' := by
  have hstate : e.state = e'.state := UInt32.toNat_inj.1 (h.state.trans h'.state.symm)
  have hrefund : e.refund = e'.refund := by
    have hsum := h.refund
    have hsum' := h'.refund
    exact UInt64.toNat_inj.1 (by omega)
  have hkeys (role : Role) : e.party role = e'.party role := by
    have hkey := h.keys role
    rw [hstate, h'.keys role] at hkey
    exact (Except.ok.inj hkey).symm
  have hfunder : e.funder = e'.funder := hkeys .funder
  have hcounterparty : e.counterparty = e'.counterparty := hkeys .counterparty
  have hcapacity : e.capacity = e'.capacity := h.capacity.trans h'.capacity.symm
  have hpayment : e.payment = e'.payment := h.payment.trans h'.payment.symm
  have hoffered : e.offered = e'.offered := h.offered.trans h'.offered.symm
  cases e
  cases e'
  simp_all only

/-- **Offers commute.** -/
theorem offers_commute (c : Snapshot) (hc : c.Conserved) (a b : Invoice) (hab : a.hash ≠ b.hash) :
    ((∃ e, c.offerBoth a b = .ok e) ↔ ∃ e, c.offerBoth b a = .ok e) ∧
    ((∃ e, c.offerBoth a b = .ok e) ↔ c.BothOfferable a b) ∧
    ∀ e e', c.offerBoth a b = .ok e → c.offerBoth b a = .ok e' →
      e = e' ∧ c.TwoOffers a b e ∧
      ∀ p, (Update.build e p).map (·.template.serialize) =
          (Update.build e' p).map (·.template.serialize) ∧
        (Settlement.build e p).map (·.template.serialize) =
          (Settlement.build e' p).map (·.template.serialize) := by
  have hfirst := exists_offerBoth_iff hc hab
  have hsecond := exists_offerBoth_iff hc hab.symm
  refine ⟨?_, hfirst, ?_⟩
  · rw [hfirst, hsecond]
    exact ⟨BothOfferable.symm, BothOfferable.symm⟩
  · intro e e' he he'
    have htwo := twoOffers_of_offerBoth he
    have htwo' := (twoOffers_of_offerBoth he').symm hab.symm
    have heq : e = e' := htwo.unique htwo'
    refine ⟨heq, htwo, ?_⟩
    intro p
    rw [heq]
    exact ⟨rfl, rfl⟩

omit [KeyScheme] in
/-- With keys drawn from zeros, the funder of a new channel offers all but 400000 units in two
payments, the smaller hash first or last. -/
theorem offers_commute_zeros :
    letI : KeyScheme := .secp256k1
    ∃ (c e : Snapshot) (a b : Invoice), c.Conserved ∧ a.hash ≠ b.hash ∧
      c.offerBoth a b = .ok e ∧ c.offerBoth b a = .ok e ∧ e.state = 2 ∧ e.refund = 400000 ∧
      e.offered.keys = [a.hash, b.hash] := by
  let _ : KeyScheme := .secp256k1
  have _ : LawfulKeyScheme := lawful_secp256k1
  obtain ⟨keys, k, k₁, k₂, -, -, -, hk, hk₁, hk₂, -⟩ := exists_states_zeros
  let c : Snapshot := first 1000000 k k
  let a : Invoice := ⟨0, FixedBytes.zero 20, 100000, 1500000000⟩
  let b : Invoice := ⟨1, ⟨List.replicate 20 1, List.length_replicate⟩, 500000, 1500000001⟩
  have hab : a.hash ≠ b.hash := by decide
  have hc : c.Conserved := conserved_first 1000000 k k
  have hkeys (state : UInt32) {k' : PartyKeys} (hk' : keys.publish state = .ok k') (role : Role) :
      ∃ k, (c.party role).atState state = .ok k := by
    refine ⟨k', ?_⟩
    cases role <;> exact (PartyKeys.atState_of_publish hk state).trans hk'
  have haffordable : a.amount.toNat + b.amount.toNat ≤ UInt64.toNat 1000000 := by decide
  have hboth : c.BothOfferable a b :=
    ⟨⟨by decide, by decide⟩, ⟨rfl, rfl⟩, haffordable, ⟨1, rfl, hkeys 1 hk₁⟩,
      ⟨2, rfl, hkeys 2 hk₂⟩⟩
  obtain ⟨hsucceeds, hoffers, hsame⟩ := offers_commute c hc a b hab
  obtain ⟨e, he⟩ := hoffers.2 hboth
  obtain ⟨e', he'⟩ := hsucceeds.1 ⟨e, he⟩
  obtain ⟨heq, htwo, -⟩ := hsame e e' he he'
  refine ⟨c, e, a, b, hc, hab, he, heq ▸ he', ?_, ?_, ?_⟩
  · exact UInt32.toNat_inj.1 htwo.state
  · have hrefund : e.refund.toNat + 100000 + 500000 = 1000000 := htwo.refund
    exact UInt64.toNat_inj.1 (by show e.refund.toNat = 400000; omega)
  · rw [htwo.offered]
    rfl

end Snapshot

end Supersede
