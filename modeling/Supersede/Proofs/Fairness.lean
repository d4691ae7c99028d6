import Supersede.Proofs.Handshake
import Supersede.Proofs.Soundness

/-!
# No side loses money

A payment or a resolution moves a channel to the next state, and the partner had a hand in it: it
proposed that state or answered our proposal. Still nothing moves against the node's own interest.

**Theorem (`Node.exchange_fair`).** Let an operation of a handshake change the complete state of a
channel after any run. The state advances by one.

* A *funder* pays exactly for the payments that left the offer unexpired, holds a matching secret
  for each of them, and offers only what it was itself asked to propose.
* A *counterparty* is never paid less than before, and of the payments that left the offer every
  one was credited in full or had expired at the time that it itself gave when it proposed the
  resolution.

What a node adopts it has built from its own complete state: at once, when it answers, or when it
made the proposal that is now confirmed. For the second case the proof follows a pending proposal
back to the operation of the run that made it (`Node.exists_madeBy`); the complete state has not
changed since.
-/

namespace Supersede

/-! ## Payments that leave the offer -/

namespace Snapshot

/-- The payments on offer in `c` that are not on offer in `d`. -/
def leaving (c d : Snapshot) : SortedMap PaymentHash Invoice :=
  c.offered.filter fun hash invoice => decide (d.offered.get? hash ≠ some invoice)

/-- A payment that is redeemed has its secret among those given. -/
theorem exists_secret_of_isRedeemed {secrets : Secrets} {t : UInt32} {hash : PaymentHash}
    {invoice : Invoice} (h : isRedeemed secrets t hash invoice = true) :
    ∃ secret, secrets.get? hash = some secret ∧ secret.unlocks hash = true := by
  rw [isRedeemed, Bool.and_eq_true] at h
  obtain ⟨-, h⟩ := h
  split at h
  · exact ⟨_, ‹_›, h⟩
  · cases h

variable [KeyScheme]

/-- An offer takes nothing off the table. -/
theorem Offers.get?_offered {c d : Snapshot} {i : Invoice} (h : c.Offers i d) {hash : PaymentHash}
    {invoice : Invoice} (hget : c.offered.get? hash = some invoice) :
    d.offered.get? hash = some invoice := by
  have hne : hash ≠ i.hash := by
    rintro rfl
    have := SortedMap.contains_eq_true_iff.2 ⟨invoice, hget⟩
    rw [h.fresh] at this
    cases this
  rw [h.offered, SortedMap.get?_insert_of_ne _ hne, hget]

theorem Offers.leaving {c d : Snapshot} {i : Invoice} (h : c.Offers i d) : c.leaving d = ∅ := by
  refine SortedMap.filter_eq_empty fun hash invoice hget => ?_
  rw [h.get?_offered hget]
  exact decide_eq_false (not_not_intro rfl)

/-- An offer puts only its own invoice on the table. -/
theorem Offers.eq_of_entered {c d : Snapshot} {i : Invoice} (h : c.Offers i d) {hash : PaymentHash}
    {invoice : Invoice} (hd : d.offered.get? hash = some invoice)
    (hc : c.offered.get? hash ≠ some invoice) : invoice = i := by
  rw [h.offered] at hd
  by_cases hh : hash = i.hash
  · subst hh
    rw [SortedMap.get?_insert_self] at hd
    exact (Option.some.inj hd).symm
  · rw [SortedMap.get?_insert_of_ne _ hh] at hd
    exact absurd hd hc

/-- The payments that a resolution takes off the table unexpired are those it credits. -/
theorem Resolves.leaving_unexpired {c d : Snapshot} {secrets : Secrets} {t : UInt32}
    (h : c.Resolves secrets t d) :
    ((c.leaving d).filter fun _ invoice => !invoice.isExpired t) =
      c.offered.filter (isRedeemed secrets t) := by
  rw [Snapshot.leaving, SortedMap.filter_filter]
  refine SortedMap.filter_congr fun hash invoice hget => ?_
  have hd : d.offered.get? hash = some invoice ↔
      (!invoice.isExpired t && !isRedeemed secrets t hash invoice) = true := by
    rw [h.offered, SortedMap.get?_filter_eq_some_iff, and_iff_right hget]
  -- Only an unexpired payment is redeemed.
  have hred : isRedeemed secrets t hash invoice = true → invoice.isExpired t = false := by
    intro hr
    rw [isRedeemed, Bool.and_eq_true] at hr
    simpa using hr.1
  have hstays : decide (d.offered.get? hash ≠ some invoice) =
      !(!invoice.isExpired t && !isRedeemed secrets t hash invoice) := by
    rw [Bool.eq_iff_iff, decide_eq_true_iff, Bool.not_eq_true', ← Bool.not_eq_true]
    exact not_congr hd
  rw [hstays]
  revert hred
  cases invoice.isExpired t <;> cases isRedeemed secrets t hash invoice <;> simp

/-- A resolution puts nothing on the table. -/
theorem Resolves.get?_offered {c d : Snapshot} {secrets : Secrets} {t : UInt32}
    (h : c.Resolves secrets t d) {hash : PaymentHash} {invoice : Invoice}
    (hd : d.offered.get? hash = some invoice) : c.offered.get? hash = some invoice := by
  rw [h.offered, SortedMap.get?_filter_eq_some_iff] at hd
  exact hd.1

end Snapshot

/-! ## Where a pending proposal comes from -/

variable [KeyScheme]

/-- The operation that proposes to move a channel from its complete state to `d`. -/
inductive Channel.Origin (partner : PeerId) (c : Channel) (d : Snapshot) : Operation → Prop
  | payment {invoice : Invoice} (role : c.role = .funder) (h : c.snapshot.Offers invoice d) :
      Origin partner c d (.proposePayment partner invoice)
  | update {secrets : Secrets} {blockTime : UInt32} (role : c.role = .counterparty)
      (h : c.snapshot.Resolves secrets blockTime d) :
      Origin partner c d (.proposeUpdate partner blockTime)

theorem Channel.Origin.congr {partner : PeerId} {c c' : Channel} {d : Snapshot} {op : Operation}
    (h : c.Origin partner d op) (hrole : c'.role = c.role) (hs : c'.snapshot = c.snapshot) :
    c'.Origin partner d op := by
  cases h with
  | payment role h => exact .payment (hrole.trans role) (hs ▸ h)
  | update role h => exact .update (hrole.trans role) (hs ▸ h)

theorem Channel.Proposes.origin {p : Params} {known : Secrets} {partner : PeerId} {c : Channel}
    {op : Operation} {txs : StateTxs} (h : c.Proposes p known partner op txs) :
    c.Origin partner txs.snapshot op := by
  cases h with
  | payment role _ offer sign =>
    rw [(StateTxs.built_of_propose sign).1]
    exact .payment role (Snapshot.offers_of_offer offer)
  | update role _ resolve sign =>
    rw [(StateTxs.built_of_propose sign).1]
    exact .update role (Snapshot.resolves_of_resolve resolve)

namespace Node

/-- The proposal pending with a partner. -/
def pendingWith (n : Node) (partner : PeerId) : Option StateTxs :=
  (n.channels.get? partner).bind (·.pending)

/-- In the run `ops`, the operation `op` made the proposal `txs`, and it has been pending with the
partner ever since. -/
def MadeBy (n : Node) (ops : List Operation) (partner : PeerId) (op : Operation)
    (txs : StateTxs) : Prop :=
  ∃ before after, ops = before ++ op :: after ∧
    ∀ mid, mid <+: after → (n.run (before ++ op :: mid)).pendingWith partner = some txs

theorem madeBy_last {n : Node} {ops : List Operation} {partner : PeerId} {op : Operation}
    {txs : StateTxs} (h : (n.run (ops ++ [op])).pendingWith partner = some txs) :
    n.MadeBy (ops ++ [op]) partner op txs := by
  refine ⟨ops, [], rfl, fun mid hmid => ?_⟩
  rw [List.prefix_nil.1 hmid]
  exact h

theorem MadeBy.concat {n : Node} {ops : List Operation} {partner : PeerId} {op op' : Operation}
    {txs : StateTxs} (h : n.MadeBy ops partner op txs)
    (hp : (n.run (ops ++ [op'])).pendingWith partner = some txs) :
    n.MadeBy (ops ++ [op']) partner op txs := by
  obtain ⟨before, after, rfl, hsince⟩ := h
  refine ⟨before, after ++ [op'], by simp, fun mid hmid => ?_⟩
  rcases List.prefix_concat_iff.1 hmid with rfl | hmid
  · simpa using hp
  · exact hsince mid hmid

/-- A pending proposal was made by an operation of the run, from what is still the complete
state. -/
theorem exists_madeBy (id : PeerId) (params : Params) (ops : List Operation) (partner : PeerId)
    (c : Channel) (txs : StateTxs)
    (hc : ((create id params).run ops).channels.get? partner = some c)
    (hp : c.pending = some txs) :
    ∃ op, c.Origin partner txs.snapshot op ∧ (create id params).MadeBy ops partner op txs := by
  induction ops using List.reverseRecOn generalizing c with
  | nil => cases hc
  | append_singleton ops op ih =>
    have hpending : ((create id params).run (ops ++ [op])).pendingWith partner = some txs := by
      rw [pendingWith, hc]
      exact hp
    rw [run_concat] at hc
    rcases ((create id params).run ops).perform_channel op partner with heq | ⟨c', heq, hchange⟩
    · obtain ⟨op', horigin, hmade⟩ := ih c (heq ▸ hc) hp
      exact ⟨op', horigin, hmade.concat hpending⟩
    · rw [hc] at heq
      cases heq
      generalize hold : ((create id params).run ops).channels.get? partner = old at hchange
      cases hchange with
      | opened ho => rw [ho.pending] at hp; cases hp
      | @moved c₀ _ hm =>
        cases hm with
        | propose h =>
          cases hp
          exact ⟨op, h.origin.congr rfl rfl, madeBy_last hpending⟩
        | answer h =>
          -- The channel is idle, so nothing can be pending.
          have hinv := ((inv_create id params).run ops).channels partner c₀ hold
          rw [hinv.idle h.idle] at hp
          cases hp
        | confirm | drop | closeAlone => cases hp
        | proposeClose | acceptClose | confirmClose =>
          obtain ⟨op', horigin, hmade⟩ := ih c₀ hold hp
          exact ⟨op', horigin.congr rfl rfl, hmade.concat hpending⟩

end Node

/-! ## What each side gains and loses -/

/-- The time that an operation gives for judging which payments have expired. -/
def Operation.blockTime? : Operation → Option UInt32
  | .proposeUpdate _ blockTime => some blockTime
  | .acceptUpdate _ _ blockTime => some blockTime
  | _ => none

namespace Snapshot

/-- From `c` to `d` the counterparty is credited exactly the payments that leave the offer without
having expired at a time. -/
def Credits (c d : Snapshot) (t : UInt32) : Prop :=
  d.payment.toNat = c.payment.toNat +
    Invoice.sum ((c.leaving d).filter fun _ invoice => !invoice.isExpired t).values

theorem Resolves.credits {c d : Snapshot} {secrets : Secrets} {t : UInt32}
    (h : c.Resolves secrets t d) : c.Credits d t := by
  rw [Credits, h.leaving_unexpired]
  exact h.payment

/-- From `c` to `d` nothing leaves the offer, and the counterparty gains nothing. -/
def Keeps (c d : Snapshot) : Prop := c.leaving d = ∅ ∧ d.payment = c.payment

theorem Offers.keeps {c d : Snapshot} {i : Invoice} (h : c.Offers i d) : c.Keeps d :=
  ⟨h.leaving, h.payment⟩

end Snapshot

namespace Node

/-- What a funder may rely on when `op`, after the run `ops` from `n`, takes its channel with a
partner from `c` to `d` and leaves it with these secrets. -/
structure FunderSafe (n : Node) (ops : List Operation) (op : Operation) (partner : PeerId)
    (c d : Snapshot) (secrets : Secrets) : Prop where
  /-- The funder pays for what leaves the offer unexpired, and for nothing else. -/
  credited : match op.blockTime? with
    | some t => c.Credits d t
    | none => c.Keeps d
  /-- The funder has a proof of payment for whatever it pays. -/
  revealed : ∀ hash invoice, (c.leaving d).get? hash = some invoice →
    (∀ t, op.blockTime? = some t → invoice.isExpired t = false) →
    ∃ secret, secrets.get? hash = some secret ∧ secret.unlocks hash = true
  /-- The funder offers only what it was asked to propose. -/
  entered : ∀ hash invoice, d.offered.get? hash = some invoice →
    c.offered.get? hash ≠ some invoice →
    ∃ txs, txs.snapshot = d ∧ n.MadeBy ops partner (.proposePayment partner invoice) txs

/-- What a counterparty may rely on when an operation, after the run `ops` from `n`, takes its
channel with a partner from `c` to `d`. -/
structure CounterpartySafe (n : Node) (ops : List Operation) (partner : PeerId)
    (c d : Snapshot) : Prop where
  /-- The counterparty never loses what it has been paid. -/
  kept : c.payment ≤ d.payment
  /-- What leaves the offer is credited, unless it had expired at the time the counterparty gave
  when it proposed the resolution. -/
  credited : c.Keeps d ∨ ∃ t txs, txs.snapshot = d ∧
    n.MadeBy ops partner (.proposeUpdate partner t) txs ∧ c.Credits d t

theorem FunderSafe.of_offers {n : Node} {ops : List Operation} {op : Operation} {partner : PeerId}
    {c : Snapshot} {invoice : Invoice} {txs : StateTxs} (secrets : Secrets)
    (hop : op.blockTime? = none) (h : c.Offers invoice txs.snapshot)
    (hmade : n.MadeBy ops partner (.proposePayment partner invoice) txs) :
    n.FunderSafe ops op partner c txs.snapshot secrets where
  credited := by
    rw [hop]
    exact h.keeps
  revealed hash invoice hleaving _ := by
    rw [h.leaving, SortedMap.get?_empty] at hleaving
    cases hleaving
  entered hash invoice' hd hc := by
    rw [h.eq_of_entered hd hc]
    exact ⟨txs, rfl, hmade⟩

theorem FunderSafe.of_resolves {n : Node} {ops : List Operation} {op : Operation}
    {partner : PeerId} {c d : Snapshot} {secrets known : Secrets} {t : UInt32}
    (hop : op.blockTime? = some t) (h : c.Resolves secrets t d)
    (hknown : ∀ hash secret, secrets.get? hash = some secret → known.get? hash = some secret) :
    n.FunderSafe ops op partner c d known where
  credited := by
    rw [hop]
    exact h.credits
  revealed hash invoice hleaving hunexpired := by
    -- What leaves unexpired has been redeemed, so its secret was in the message.
    have hredeemed : (c.offered.filter (Snapshot.isRedeemed secrets t)).get? hash =
        some invoice := by
      rw [← h.leaving_unexpired, SortedMap.get?_filter_eq_some_iff, hunexpired t hop]
      exact ⟨hleaving, rfl⟩
    rw [SortedMap.get?_filter_eq_some_iff] at hredeemed
    obtain ⟨secret, hget, hunlocks⟩ := Snapshot.exists_secret_of_isRedeemed hredeemed.2
    exact ⟨secret, hknown hash secret hget, hunlocks⟩
  entered hash invoice hd hc := absurd (h.get?_offered hd) hc

theorem CounterpartySafe.of_offers {n : Node} {ops : List Operation} {partner : PeerId}
    {c d : Snapshot} {invoice : Invoice} (h : c.Offers invoice d) :
    n.CounterpartySafe ops partner c d :=
  ⟨h.payment ▸ UInt64.le_refl _, .inl h.keeps⟩

theorem CounterpartySafe.of_resolves {n : Node} {ops : List Operation} {partner : PeerId}
    {c : Snapshot} {secrets : Secrets} {t : UInt32} {txs : StateTxs}
    (h : c.Resolves secrets t txs.snapshot)
    (hmade : n.MadeBy ops partner (.proposeUpdate partner t) txs) :
    n.CounterpartySafe ops partner c txs.snapshot :=
  ⟨by rw [UInt64.le_iff_toNat_le, h.payment]; exact Nat.le_add_right _ _,
    .inr ⟨t, txs, rfl, hmade, h.credits⟩⟩

/-- An accepted resolution leaves the secrets of its message with the node. -/
theorem secrets_acceptUpdate {n : Node} {partner : PeerId} {proposal : UpdateProposal}
    {t : UInt32} (h : (n.perform (.acceptUpdate partner proposal t)).2 ≠ n) :
    (n.perform (.acceptUpdate partner proposal t)).2.secrets =
      n.secrets.union proposal.secrets := by
  rcases (n.atomic_acceptUpdate partner proposal t).cases with heq | ⟨txs, heq⟩
  · exact absurd heq h
  · obtain ⟨c, -, -, hn'⟩ := answers_of_acceptUpdate heq
    exact (congrArg Node.secrets hn').trans rfl

/-- **No side loses money.** A payment or an update operation that changes the complete state of a
channel, whatever the partner sent, moves it to the next state and is safe for the node's side. -/
theorem exchange_fair (id : PeerId) (params : Params) (ops : List Operation) (op : Operation)
    (partner : PeerId) (c c' : Channel) (hop : op.phase = .payment ∨ op.phase = .update)
    (hc : ((create id params).run ops).channels.get? partner = some c)
    (hc' : ((create id params).run (ops ++ [op])).channels.get? partner = some c')
    (hne : c'.snapshot ≠ c.snapshot) :
    c'.snapshot.state.toNat = c.snapshot.state.toNat + 1 ∧ c'.role = c.role ∧
    (c.role = .funder → (create id params).FunderSafe ops op partner c.snapshot c'.snapshot
      ((create id params).run (ops ++ [op])).secrets) ∧
    (c.role = .counterparty →
      (create id params).CounterpartySafe ops partner c.snapshot c'.snapshot) := by
  generalize hn : (create id params).run ops = n at hc
  rw [run_concat, hn] at hc' ⊢
  rcases n.perform_channel op partner with heq | ⟨d, heq, hchange⟩
  · rw [heq, hc] at hc'
    cases hc'
    exact absurd rfl hne
  rw [hc'] at heq
  cases heq
  rw [hc] at hchange
  cases hchange with
  | opened _ hphase => rw [hphase] at hop; rcases hop with hop | hop <;> cases hop
  | moved hm =>
    cases hm with
    | propose | drop | closeAlone | proposeClose | acceptClose | confirmClose =>
      exact absurd rfl hne
    | @answer _ _ txs h =>
      refine ⟨h.next.1.follows.state, rfl, ?_⟩
      have hchanged : (n.perform op).2 ≠ n := by
        intro hsame
        rw [hsame, hc] at hc'
        exact hne (congrArg Channel.snapshot (Option.some.inj hc').symm)
      cases h with
      | payment hr _ _ hoffer hsign =>
        have htxs := (StateTxs.countersigned_of_countersign hsign).snapshot
        have hoffers := Snapshot.offers_of_offer hoffer
        rw [hr]
        exact ⟨nofun, fun _ => .of_offers (htxs ▸ hoffers)⟩
      | update hr _ _ hresolve hsign =>
        have htxs := (StateTxs.countersigned_of_countersign hsign).snapshot
        have hresolves := Snapshot.resolves_of_resolve hresolve
        rw [hr]
        refine ⟨fun _ => .of_resolves rfl (htxs ▸ hresolves) fun hash secret hget => ?_, nofun⟩
        rw [secrets_acceptUpdate hchanged, SortedMap.get?_union, hget]
        rfl
    | @confirm _ _ pending txs h hp fits =>
      -- The state that is now complete was proposed earlier in the run.
      have htxs : txs.snapshot = pending.snapshot :=
        congrArg Update.snapshot (StateTxs.signed_of_complete fits).1
      obtain ⟨op', horigin, hmade⟩ := exists_madeBy id params ops partner c pending (hn ▸ hc) hp
      change txs.snapshot.state.toNat = _ ∧ _ ∧ (_ → FunderSafe _ _ _ _ _ txs.snapshot _) ∧
        (_ → CounterpartySafe _ _ _ _ txs.snapshot)
      rw [htxs]
      cases horigin with
      | payment hr hoffers =>
        refine ⟨hoffers.state, rfl, fun _ => .of_offers _ ?_ hoffers hmade, ?_⟩
        · cases h with
          | payment => rfl
          | update => rfl
        · rw [hr]
          nofun
      | update hr hresolves =>
        refine ⟨hresolves.state, rfl, ?_, fun _ => .of_resolves hresolves hmade⟩
        rw [hr]
        nofun

omit [KeyScheme] in
/-- A funder with the default parameters pays a thousand units and is safe. -/
theorem exchange_fair_zeros :
    letI : KeyScheme := .secp256k1
    ∃ ops op c c', ((create ⟨0⟩ {}).run ops).channels.get? ⟨1⟩ = some c ∧
      ((create ⟨0⟩ {}).run (ops ++ [op])).channels.get? ⟨1⟩ = some c' ∧
      c'.snapshot.state.toNat = c.snapshot.state.toNat + 1 ∧
      (create ⟨0⟩ {}).FunderSafe ops op ⟨1⟩ c.snapshot c'.snapshot
        ((create ⟨0⟩ {}).run (ops ++ [op])).secrets := by
  let _ : KeyScheme := .secp256k1
  have _ : LawfulKeyScheme := lawful_secp256k1
  obtain ⟨party, funder, reply, counterparty, txs, funder', k, next, hpropose, hjoin, hcreate, hf,
    hg, hoffer, hstate⟩ := exists_opening_zeros
  obtain ⟨proposal, funder₁, receipt, _, funder₂, hpay, -, hconfirm, ⟨-, c', hc', hready'⟩, -⟩ :=
    exists_payment hf hg (Snapshot.conserved_first _ k k) hoffer (by rw [hstate]; decide)
  have hopened := perform_of_ok (.proposeChannel .zeros ⟨1⟩) rfl hpropose
  have hcreated := perform_of_ok (.createChannel ⟨1⟩ reply) rfl hcreate
  have hpaid := perform_of_ok (.proposePayment ⟨1⟩ sampleInvoice) rfl hpay
  have hrun : (create ⟨0⟩ {}).run [.proposeChannel .zeros ⟨1⟩, .createChannel ⟨1⟩ reply,
      .proposePayment ⟨1⟩ sampleInvoice] = funder₁ := by
    rw [run_cons hopened, run_cons hcreated, run_cons hpaid]
    rfl
  have hrun' := run_concat (create ⟨0⟩ {}) [.proposeChannel .zeros ⟨1⟩, .createChannel ⟨1⟩ reply,
    .proposePayment ⟨1⟩ sampleInvoice] (.confirmPayment ⟨1⟩ receipt)
  rw [hrun] at hrun'
  have hc₂ := (congrArg (·.channels.get? ⟨1⟩) hrun').trans
    ((congrArg (·.2.channels.get? ⟨1⟩) hconfirm).trans hc')
  obtain ⟨-, c, hc, hready⟩ := hf
  obtain ⟨d, hd, -, rfl⟩ := proposes_of_proposePayment hpay
  obtain rfl : c = d := Option.some.inj (hc.symm.trans hd)
  have hne : c'.snapshot ≠ c.snapshot := by
    rw [hready'.snapshot_eq, hready.snapshot_eq]
    rintro rfl
    have := (Snapshot.offers_of_offer hoffer).state
    omega
  have hc₁ := (congrArg (·.channels.get? ⟨1⟩) hrun).trans (get?_setChannel_self ..)
  have hfair := exchange_fair ⟨0⟩ {} _ _ ⟨1⟩ _ c' (.inl rfl) hc₁ hc₂ hne
  exact ⟨_, _, _, c', hc₁, hc₂, hfair.1, hfair.2.2.1 hready.role_eq⟩

end Node

end Supersede
