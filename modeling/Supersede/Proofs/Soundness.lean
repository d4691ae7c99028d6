import Supersede.Proofs.Moves

/-!
# Soundness of a node's records

Whatever a node is asked, in whatever order and with whatever arguments, its records stay sound.

**Theorem (`Node.run_sound`).** After any operations, every channel of a node holds one complete
state: both transactions commit to the same snapshot, are what `build` gives for it, and, once the
channel has moved, carry valid signatures of both sides. The snapshot's balances add up to the
parameters' capacity, and its settle keys are those of its state. Every secret matches its hash.

The proof is an induction over the run with the invariant `Channel.Inv`. It adds to the above that a
pending proposal is a next state of the complete one, built here, and that a channel without a
proposal in flight has no pending one: so the complete state never changes under a proposal, and
what a confirmation adopts is still the next state.
-/

namespace Supersede

variable [KeyScheme]

/-! ## Snapshots -/

namespace Snapshot

/-- The balances add up to the capacity, payments are filed under their own hash and are not empty,
and the settle keys are those of the state. -/
structure Sound (capacity : Amount) (c : Snapshot) : Prop where
  capacity_eq : c.capacity = capacity
  conserved : c.Conserved
  offered : ∀ hash invoice, c.offered.get? hash = some invoice →
    invoice.hash = hash ∧ invoice.amount ≠ 0
  settleKey : ∀ role, (c.party role).settleKeyMatches c.state = true

/-- The parts of soundness that any next state has. -/
theorem Sound.of_follows {capacity : Amount} {c d : Snapshot} (hc : c.Sound capacity)
    (h : c.Follows d) (ho : ∀ hash invoice, d.offered.get? hash = some invoice →
      invoice.hash = hash ∧ invoice.amount ≠ 0) : d.Sound capacity where
  capacity_eq := h.capacity.trans hc.capacity_eq
  conserved := h.conserved
  offered := ho
  settleKey := by
    rintro (_ | _)
    · exact PartyKeys.settleKeyMatches_of_atState h.funder
    · exact PartyKeys.settleKeyMatches_of_atState h.counterparty

theorem Sound.next {capacity : Amount} {c d : Snapshot} (hc : c.Sound capacity) (h : c.Next d) :
    d.Sound capacity := by
  refine hc.of_follows h.follows fun hash invoice hget => ?_
  cases h with
  | @offers i h =>
    rw [h.offered] at hget
    by_cases hh : hash = i.hash
    · subst hh
      rw [SortedMap.get?_insert_self] at hget
      cases hget
      exact ⟨rfl, h.nonzero⟩
    · rw [SortedMap.get?_insert_of_ne _ hh] at hget
      exact hc.offered hash invoice hget
  | resolves h =>
    rw [h.offered, SortedMap.get?_filter_eq_some_iff] at hget
    exact hc.offered hash invoice hget.1

theorem sound_of_opening {funder counterparty : PartyKeys} {capacity : Amount} {c : Snapshot}
    (h : opening funder counterparty capacity = .ok c) : c.Sound capacity := by
  obtain ⟨hf, hg, heq⟩ := opening_eq_ok h
  have hstate : c.state = 0 := by rw [heq]
  refine ⟨by rw [heq], ?_, ?_, ?_⟩
  · rw [heq]
    rfl
  · intro hash invoice hget
    rw [heq] at hget
    cases hget
  · rw [hstate]
    rintro (_ | _)
    · exact PartyKeys.settleKeyMatches_of_atState hf
    · exact PartyKeys.settleKeyMatches_of_atState hg

end Snapshot

/-! ## The invariant -/

namespace Channel

/-- What every operation keeps true of a channel's record. -/
structure Inv (p : Params) (c : Channel) : Prop where
  built : c.complete.Built p
  sound : c.snapshot.Sound p.capacity
  signed : c.snapshot.state ≠ 0 → c.complete.Signed
  refund : c.role = .funder → c.complete.settle.verify = .ok ()
  idle : c.status = .active → c.pending = none
  pending : ∀ t, c.pending = some t → t.Built p ∧ c.snapshot.Next t.snapshot
  closing : c.status = .closing → c.pending = none

/-- A fully signed next state, without a pending proposal, satisfies the invariant. -/
theorem Inv.advance {p : Params} {c : Channel} (h : c.Inv p) {txs : StateTxs}
    (hnext : c.snapshot.Next txs.snapshot) (hb : txs.Built p) (hs : txs.Signed)
    {status : ChannelStatus} :
    Inv p { c with complete := txs, status, pending := none } where
  built := hb
  sound := h.sound.next hnext
  signed := fun _ => hs
  refund := fun _ => hs.settle
  idle := fun _ => rfl
  pending := fun _ ht => (nomatch ht)
  closing := fun _ => rfl

theorem Inv.moves {p : Params} {known : Secrets} {partner : PeerId} {op : Operation}
    {c c' : Channel} (h : c.Inv p) (hm : c.Moves p known partner op c') : c'.Inv p := by
  cases hm with
  | propose hp =>
    obtain ⟨hnext, hb⟩ := hp.next
    refine { h with
      idle := fun hs => (nomatch hs)
      closing := fun hs => (nomatch hs)
      pending := fun t ht => ?_ }
    cases ht
    exact ⟨hb, hnext⟩
  | @answer _ _ txs ha =>
    obtain ⟨hnext, hsigned⟩ := ha.next
    -- The channel is idle, so nothing is pending on the state that is left behind.
    have hnone := h.idle ha.idle
    have hadv : Inv p { c with complete := txs, status := c.status, pending := none } :=
      h.advance hnext hsigned.built hsigned.signed
    rw [← hnone] at hadv
    exact hadv
  | confirm hc hp hfits =>
    obtain ⟨hu, hs, hsigned⟩ := StateTxs.signed_of_complete hfits
    obtain ⟨hb, hnext⟩ := h.pending _ hp
    obtain ⟨hsnap, hb'⟩ := StateTxs.Built.of_build (hu ▸ hb.update) (hs ▸ hb.settle)
    exact h.advance (hsnap ▸ hnext) hb' hsigned
  | drop | closeAlone =>
    exact { h with
      idle := fun _ => rfl
      closing := fun _ => rfl
      pending := fun _ ht => (nomatch ht) }
  | proposeClose => exact { h with }
  | acceptClose | confirmClose =>
    exact { h with
      idle := fun hs => (nomatch hs)
      closing := fun hs => (nomatch hs) }

/-- A move keeps the complete state or takes it to a next one. -/
theorem Inv.snapshot_moves {p : Params} {known : Secrets} {partner : PeerId} {op : Operation}
    {c c' : Channel} (h : c.Inv p) (hm : c.Moves p known partner op c') :
    c'.snapshot = c.snapshot ∨ c.snapshot.Next c'.snapshot := by
  cases hm with
  | answer ha => exact .inr ha.next.1
  | confirm _ hp hfits =>
    have hnext := (h.pending _ hp).2
    rw [← StateTxs.snapshot_of_complete hfits] at hnext
    exact .inr hnext
  | propose | drop | closeAlone | proposeClose | acceptClose | confirmClose => exact .inl rfl

theorem Opened.inv {p : Params} {c : Channel} (h : c.Opened p) : c.Inv p := by
  have hpending := h.pending
  obtain ⟨funder, counterparty, hopen⟩ := h.snapshot
  refine ⟨h.built, Snapshot.sound_of_opening hopen, fun hne => ?_, h.refund, fun _ => hpending, ?_,
    fun _ => hpending⟩
  · obtain ⟨-, -, heq⟩ := Snapshot.opening_eq_ok hopen
    exact absurd (by rw [heq]) hne
  · intro t ht
    rw [hpending] at ht
    cases ht

end Channel

namespace Node

/-- The invariant of all records. -/
structure Inv (n : Node) : Prop where
  channels : ∀ partner c, n.channels.get? partner = some c → c.Inv n.params
  secrets : ∀ hash secret, n.secrets.get? hash = some secret → secret.unlocks hash = true

theorem Inv.perform {n : Node} (h : n.Inv) (op : Operation) : (n.perform op).2.Inv := by
  have hstep := n.perform_step op
  refine ⟨fun partner c hc => ?_, fun hash secret hs => ?_⟩
  · rw [hstep.params]
    rcases n.perform_channel op partner with heq | ⟨c', heq, hchange⟩
    · exact h.channels partner c (heq ▸ hc)
    · rw [heq] at hc
      cases hc
      generalize hold : n.channels.get? partner = old at hchange
      cases hchange with
      | moved hm => exact (h.channels partner _ hold).moves hm
      | opened ho => exact ho.inv
  · exact (hstep.secrets hash secret hs).elim (h.secrets hash secret) fun hu => hu

theorem Inv.run {n : Node} (h : n.Inv) (ops : List Operation) : (n.run ops).Inv := by
  induction ops generalizing n with
  | nil => exact h
  | cons op ops ih => exact ih (h.perform op)

theorem inv_create (id : PeerId) (params : Params) : (create id params).Inv :=
  ⟨fun _ _ hc => (nomatch hc), fun _ _ hs => (nomatch hs)⟩

theorem params_run (n : Node) (ops : List Operation) : (n.run ops).params = n.params := by
  induction ops generalizing n with
  | nil => rfl
  | cons op ops ih => exact (ih _).trans (n.perform_step op).params

end Node

/-! ## Sound records -/

/-- Both sides' signatures on a document are valid, one by one and together. -/
def Cosigned.FullySigned {α : Type} [Signable α] (d : Cosigned α) : Prop :=
  d.verify = .ok () ∧ ∀ role, d.verifySignature role = .ok ()

/-- What a record of a channel promises its owner. -/
structure Channel.Sound (p : Params) (c : Channel) : Prop where
  one_snapshot : c.complete.settle.document.snapshot = c.complete.update.document.snapshot
  capacity : c.snapshot.capacity = p.capacity
  conserved : c.snapshot.refund.toNat + c.snapshot.payment.toNat +
    Invoice.sum c.snapshot.offered.values = c.snapshot.capacity.toNat
  offered : ∀ entry ∈ c.snapshot.offered.entries,
    entry.2.hash = entry.1 ∧ 0 < entry.2.amount
  settle_keys : ∀ role, (c.snapshot.party role).settleKeyMatches c.snapshot.state = true
  update_built : ∃ u, UpdateTx.build c.snapshot p = .ok u ∧
    u.document = c.complete.update.document
  settle_built : ∃ s, SettleTx.build c.snapshot p = .ok s ∧
    s.document = c.complete.settle.document
  signed : 1 ≤ c.snapshot.state → c.complete.update.FullySigned ∧ c.complete.settle.FullySigned
  refund_signed : c.snapshot.state = 0 → c.role = .funder → c.complete.settle.FullySigned

theorem Channel.Inv.sound_record {p : Params} {c : Channel} (h : c.Inv p) : c.Sound p where
  one_snapshot := h.built.snapshot_settle
  capacity := h.sound.capacity_eq
  conserved := h.sound.conserved
  offered := fun entry he => by
    obtain ⟨hhash, hne⟩ := h.sound.offered entry.1 entry.2 (SortedMap.mem_entries_iff.1 he)
    exact ⟨hhash, UInt64.pos_iff_ne_zero.2 hne⟩
  settle_keys := h.sound.settleKey
  update_built := ⟨_, Result.map_eq_ok.2 ⟨_, h.built.update, rfl⟩, rfl⟩
  settle_built := ⟨_, Result.map_eq_ok.2 ⟨_, h.built.settle, rfl⟩, rfl⟩
  signed := fun hstate => by
    have hs := h.signed (UInt32.pos_iff_ne_zero.1 hstate)
    exact ⟨⟨hs.update, Cosigned.verify_eq_ok_iff.1 hs.update⟩, hs.settle,
      Cosigned.verify_eq_ok_iff.1 hs.settle⟩
  refund_signed := fun _ hrole => ⟨h.refund hrole, Cosigned.verify_eq_ok_iff.1 (h.refund hrole)⟩

/-- What the records of a node with the given parameters promise. -/
structure Node.Sound (params : Params) (n : Node) : Prop where
  channels : ∀ partner c, n.channels.get? partner = some c → c.Sound params
  secrets : ∀ entry ∈ n.secrets.entries, hash160 entry.2.toBytes = entry.1

/-- **Records stay sound.** After any operations with any arguments, every record of a node that
started without channels is sound. -/
theorem Node.run_sound (id : PeerId) (params : Params) (ops : List Operation) :
    ((Node.create id params).run ops).Sound params := by
  have hinv := (Node.inv_create id params).run ops
  have hparams := (Node.create id params).params_run ops
  refine ⟨fun partner c hc => ?_, fun entry he => ?_⟩
  · have hc' := hinv.channels partner c hc
    rw [hparams] at hc'
    exact hc'.sound_record
  · exact eq_of_beq (hinv.secrets entry.1 entry.2 (SortedMap.mem_entries_iff.1 he))

end Supersede
