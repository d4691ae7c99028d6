import Supersede.Proofs.Handshake
import Supersede.Proofs.Soundness

/-!
# When a close is final

Once a channel is closing or closed, payments, resolutions and further steps of a close should
neither open it again nor move its complete state. That is so for every channel on which no
proposal is pending, and only for those.

**Theorem (`Node.reopens_iff_pending`).** Some sequence of such operations opens a closing or closed
channel again, or changes its complete state, exactly when the channel is closed and a proposal is
still pending on it.

Closing alone drops a pending proposal, and accepting a close needs a channel without one. The
confirmation of a close does neither: a proposal made between the proposal of a close and its
confirmation stays pending on the closed channel (`Node.exists_closed_pending`), and its end puts
the channel back to active.
-/

namespace Supersede

/-! ## Without a pending proposal -/

/-- A channel that is closing or closed in a given state, with no proposal pending. -/
structure Channel.Final (snapshot : Snapshot) (c : Channel) : Prop where
  status : c.status = .closing ∨ c.status = .closed
  pending : c.pending = none
  snapshot_eq : c.snapshot = snapshot

theorem Channel.Final.not_active {s : Snapshot} {c : Channel} (h : c.Final s) :
    c.status ≠ .active := by
  rcases h.status with hs | hs <;> rw [hs] <;> nofun

variable [KeyScheme]

theorem Channel.Final.moves {p : Params} {known : Secrets} {partner : PeerId} {op : Operation}
    {s : Snapshot} {c c' : Channel} (h : c.Final s) (hm : c.Moves p known partner op c') :
    c'.Final s := by
  cases hm with
  | propose hp => exact absurd hp.idle h.not_active
  | answer ha => exact absurd ha.idle h.not_active
  | confirm _ hp | drop _ hp =>
    rw [h.pending] at hp
    cases hp
  | closeAlone => exact ⟨.inl rfl, rfl, h.snapshot_eq⟩
  | proposeClose idle | acceptClose idle => exact absurd idle h.not_active
  | confirmClose => exact ⟨.inr rfl, h.pending, h.snapshot_eq⟩

namespace Node

theorem final_perform {n : Node} {partner : PeerId} {c : Channel} {s : Snapshot} {op : Operation}
    (hc : n.channels.get? partner = some c) (h : c.Final s) (hop : op.phase ≠ .opening) :
    ∃ c', (n.perform op).2.channels.get? partner = some c' ∧ c'.Final s := by
  rcases n.perform_channel op partner with heq | ⟨c', heq, hchange⟩
  · exact ⟨c, heq.trans hc, h⟩
  · refine ⟨c', heq, ?_⟩
    rw [hc] at hchange
    cases hchange with
    | moved hm => exact h.moves hm
    | opened _ hphase => exact absurd hphase hop

/-- No operations but those that open a channel bring a final one back. -/
theorem final_run {n : Node} {partner : PeerId} {c : Channel} {s : Snapshot} {ops : List Operation}
    (hc : n.channels.get? partner = some c) (h : c.Final s)
    (hops : ∀ op ∈ ops, op.phase ≠ .opening) :
    ∃ c', (n.run ops).channels.get? partner = some c' ∧ c'.Final s := by
  induction ops generalizing n c with
  | nil => exact ⟨c, hc, h⟩
  | cons op ops ih =>
    obtain ⟨c', hc', h'⟩ := final_perform hc h (hops op List.mem_cons_self)
    exact ih hc' h' fun op' hop' => hops op' (List.mem_cons_of_mem op hop')

/-! ## With a pending proposal -/

theorem active_of_finishProposal {n : Node} {partner : PeerId} {c : Channel} {pending : StateTxs}
    (hc : n.channels.get? partner = some c) (hp : c.pending = some pending) (answer : StateTxs) :
    ∃ c', (n.finishProposal partner c.role answer).2.channels.get? partner = some c' ∧
      c'.status = .active := by
  rw [finishProposal_of_pending hc hp]
  cases pending.complete answer c.role with
  | ok txs => exact ⟨_, get?_setChannel_self _ _ _, rfl⟩
  | error e => exact ⟨_, get?_setChannel_self _ _ _, rfl⟩

/-- Any answer ends a pending proposal and puts the channel to active, whatever its status. -/
theorem exists_reopening {n : Node} {partner : PeerId} {c : Channel} {pending : StateTxs}
    (hc : n.channels.get? partner = some c) (hp : c.pending = some pending) :
    ∃ op, (op.phase = .payment ∨ op.phase = .update) ∧
      ∃ c', (n.perform op).2.channels.get? partner = some c' ∧ c'.status = .active := by
  obtain ⟨c', hc', hs⟩ := active_of_finishProposal hc hp pending
  cases hr : c.role with
  | funder =>
    refine ⟨.confirmPayment partner ⟨pending, none⟩, .inl rfl, c', ?_, hs⟩
    rw [← hc', hr]
    exact congrArg (·.get? partner) (channels_confirmPayment n partner ⟨pending, none⟩)
  | counterparty =>
    refine ⟨.confirmUpdate partner pending, .inr rfl, c', ?_, hs⟩
    rw [← hc', hr]
    rfl

section Lawful

variable [LawfulKeyScheme]

/-- A payment that the funder proposes between the proposal of a close and its confirmation stays
pending on the closed channel. -/
theorem exists_closed_pending {n : Node} {partner : PeerId} {c : Channel} {s next : Snapshot}
    {invoice : Invoice} {funding : OutPoint} {document : Closing} {keys : ChannelKeys}
    (hc : n.channels.get? partner = some c) (h : c.Ready .funder s)
    (hkeys : keys.publish s.state = .ok (s.party .counterparty))
    (hbuild : Closing.build s c.setup.document funding n.params = .ok document)
    (hoffer : s.offer invoice = .ok next)
    (hlock : n.params.lockTimeBase.toNat + next.state.toNat + 1 < UInt32.size) :
    ∃ tx c', (n.run [.proposeClose partner funding, .proposePayment partner invoice,
        .confirmClose partner tx]).channels.get? partner = some c' ∧
      c'.status = .closed ∧ c'.pending.isSome := by
  obtain ⟨close, signed, tx, -, hclose, hadopt⟩ := exists_signed_close hc h hkeys hbuild
  let c₁ : Channel := { c with proposedClose := some close }
  have hready₁ : c₁.Ready .funder s := ⟨h.role_eq, h.active, h.snapshot_eq, h.keys⟩
  obtain ⟨txs, hpay, -⟩ := proposePayment_of_ready (get?_setChannel_self n partner c₁) hready₁
    hoffer hlock
  have hconfirm := confirmClose_of_adopt
    (get?_setChannel_self (n.setChannel partner c₁) partner (c₁.awaiting txs)) rfl hadopt
  refine ⟨tx, { c₁.awaiting txs with proposedClose := none, status := .closed }, ?_, rfl, rfl⟩
  rw [run_cons (perform_of_ok (.proposeClose partner funding) rfl hclose),
    run_cons (perform_of_ok (.proposePayment partner invoice) rfl hpay),
    run_cons (perform_of_ok (.confirmClose partner tx) rfl hconfirm)]
  exact get?_setChannel_self ..

end Lawful

/-- **When a close is final.** After any run, a closing or closed channel can be brought back to
active or updating, or to another complete state, by payments, resolutions and steps of a close
exactly when it is closed with a proposal still pending. -/
theorem reopens_iff_pending (id : PeerId) (params : Params) (ops : List Operation)
    (partner : PeerId) (c : Channel)
    (hc : ((create id params).run ops).channels.get? partner = some c)
    (ht : c.status = .closing ∨ c.status = .closed) :
    (∃ later : List Operation,
        (∀ op ∈ later, op.phase = .payment ∨ op.phase = .update ∨ op.phase = .closing) ∧
        ∃ c', (((create id params).run ops).run later).channels.get? partner = some c' ∧
          (c'.status = .active ∨ c'.status = .updating ∨ c'.snapshot ≠ c.snapshot)) ↔
      c.status = .closed ∧ c.pending.isSome := by
  have hinv := ((inv_create id params).run ops).channels partner c hc
  constructor
  · rintro ⟨later, hlater, c', hc', hback⟩
    cases hp : c.pending with
    | some t =>
      refine ⟨ht.resolve_left fun hclosing => ?_, rfl⟩
      rw [hinv.closing hclosing] at hp
      cases hp
    | none =>
      -- Nothing is pending, so the channel is final and cannot have come back.
      have hfinal : c.Final c.snapshot := ⟨ht, hp, rfl⟩
      obtain ⟨c'', hc'', hfinal'⟩ := final_run hc hfinal fun op hop => by
        rcases hlater op hop with h | h | h <;> rw [h] <;> nofun
      rw [hc'] at hc''
      cases hc''
      rcases hback with hs | hs | hs
      · exact absurd hs hfinal'.not_active
      · rcases hfinal'.status with hs' | hs' <;> rw [hs] at hs' <;> cases hs'
      · exact absurd hfinal'.snapshot_eq hs
  · rintro ⟨-, hsome⟩
    obtain ⟨t, hp⟩ := Option.isSome_iff_exists.1 hsome
    obtain ⟨op, hop, c', hc', hs⟩ := exists_reopening hc hp
    refine ⟨[op], fun op' hop' => ?_, c', hc', .inl hs⟩
    rw [List.mem_singleton.1 hop']
    exact hop.imp_right .inl

omit [KeyScheme] in
/-- A funder with the default parameters closes a channel and opens it again. -/
theorem reopens_zeros :
    letI : KeyScheme := .secp256k1
    ∃ ops c, ((create ⟨0⟩ {}).run ops).channels.get? ⟨1⟩ = some c ∧ c.status = .closed ∧
      ∃ later : List Operation,
        (∀ op ∈ later, op.phase = .payment ∨ op.phase = .update ∨ op.phase = .closing) ∧
        ∃ c', (((create ⟨0⟩ {}).run ops).run later).channels.get? ⟨1⟩ = some c' ∧
          (c'.status = .active ∨ c'.status = .updating ∨ c'.snapshot ≠ c.snapshot) := by
  let _ : KeyScheme := .secp256k1
  have _ : LawfulKeyScheme := lawful_secp256k1
  obtain ⟨party, funder, reply, counterparty, txs, funder', k, next, hpropose, hjoin, hcreate,
    ⟨hparams, c, hc, hready⟩, ⟨-, c', -, hready'⟩, hoffer, hstate⟩ := exists_opening_zeros
  have hpayouts : (Closing.payouts (.first 1000000 k k) {}).isOk = true := by
    change (do
      splitFee (← Snapshot.addBalance 1000000 (← Snapshot.invoiceTotal [])) 0 1000).isOk = _
    decide +kernel
  obtain ⟨out, hout⟩ := Result.exists_of_isOk hpayouts
  obtain ⟨document, hbuild⟩ := Closing.exists_build (Snapshot.conserved_first 1000000 k k) hout
    (show (500000000 : UInt32).toNat + (0 : UInt32).toNat + 1 < UInt32.size by decide)
    c.setup.document .null
  rw [← hparams] at hbuild
  obtain ⟨tx, d, hd, hclosed, hpending⟩ :=
    exists_closed_pending hc hready hready'.keys hbuild hoffer
      (by rw [hparams, hstate]; decide)
  have hopened := perform_of_ok (.proposeChannel .zeros ⟨1⟩) rfl hpropose
  have hcreated := perform_of_ok (.createChannel ⟨1⟩ reply) rfl hcreate
  have hrun := (run_cons hopened [.createChannel ⟨1⟩ reply, .proposeClose ⟨1⟩ .null,
    .proposePayment ⟨1⟩ sampleInvoice, .confirmClose ⟨1⟩ tx]).trans (run_cons hcreated _)
  rw [← hrun] at hd
  exact ⟨_, d, hd, hclosed, (reopens_iff_pending ⟨0⟩ {} _ ⟨1⟩ d hd (.inr hclosed)).2
    ⟨hclosed, hpending⟩⟩

end Node

end Supersede
