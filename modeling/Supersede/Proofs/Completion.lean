import Supersede.Proofs.Directory

/-!
# Handshakes complete

Two nodes with the same parameters open a channel. From then on each is asked whatever its owner
likes, and gets messages from anyone. Whenever the two are in sync, that is, hold the same complete
state with the channel open and nothing pending, the next handshake between them goes through.

**Theorem (`Node.handshakes_complete`).** If the keys of both sides can be derived and the lock
times of state 0 can be represented, the three steps of the opening succeed, and leave both sides in
sync with the same funding transaction. After any operations of either side that leave them in sync,
a payment that the funder can propose is received and confirmed, and a resolution that the
counterparty can propose is accepted and confirmed. Each leaves both sides in sync one state higher,
with the update and the settlement signed by both.

A handshake that was started is completed by `Node.exists_payment` and `Node.exists_update`, for
nodes that hold the same state and own its keys. So what runs have to keep is the ownership
(`Channel.Owned`): the settle keys of a state are derived from those of the state before, by the
owner and by the partner alike, so the owner of the keys of one state owns those of the next. The
funder has used up the keys that it proposed and the counterparty has proposed none, so neither
record is ever replaced.
-/

namespace Supersede

open Result

variable [KeyScheme]

/-! ## Nodes in sync -/

/-- A node holds a complete state of its channel with a partner; the channel is open, with nothing
pending. -/
def Node.AtRest (n : Node) (partner : PeerId) (s : Snapshot) : Prop :=
  ∃ c, n.channels.get? partner = some c ∧ c.status = .active ∧ c.pending = none ∧ c.snapshot = s

/-- Both signatures on the complete state of a node's channel with a partner are valid. -/
def Node.CompleteSigned (n : Node) (partner : PeerId) : Prop :=
  ∀ c, n.channels.get? partner = some c →
    c.complete.update.FullySigned ∧ c.complete.settle.FullySigned

/-- Both sides of a channel hold the same complete state, open and with nothing pending. -/
structure InSync (funder counterparty : Node) (partner partner' : PeerId) (s : Snapshot) :
    Prop where
  funder : funder.AtRest partner s
  counterparty : counterparty.AtRest partner' s

/-- Both sides of a channel are in sync one state after the given one, and the state is signed. -/
def Advanced (funder counterparty : Node) (partner partner' : PeerId) (s : Snapshot) : Prop :=
  ∃ next, next.state.toNat = s.state.toNat + 1 ∧
    InSync funder counterparty partner partner' next ∧
    funder.CompleteSigned partner ∧ counterparty.CompleteSigned partner'

/-- Both sides of a channel have recorded the same funding transaction. -/
def SameSetup (funder counterparty : Node) (partner partner' : PeerId) : Prop :=
  ∃ c c', funder.channels.get? partner = some c ∧
    counterparty.channels.get? partner' = some c' ∧ c.setup = c'.setup

/-- Between the two sides of a channel in a state, every handshake that one side can start is
completed. -/
structure Responsive (funder counterparty : Node) (partner partner' : PeerId) (s : Snapshot) :
    Prop where
  payment : ∀ invoice proposal funder₁,
    funder.proposePayment partner invoice = (.ok proposal, funder₁) →
    ∃ receipt counterparty₁ funder₂,
      counterparty.receivePayment partner' proposal = (.ok receipt, counterparty₁) ∧
      funder₁.confirmPayment partner receipt = (.ok (), funder₂) ∧
      Advanced funder₂ counterparty₁ partner partner' s
  update : ∀ blockTime proposal counterparty₁,
    counterparty.proposeUpdate partner' blockTime = (.ok proposal, counterparty₁) →
    ∃ answer funder₁ counterparty₂,
      funder.acceptUpdate partner proposal blockTime = (.ok answer, funder₁) ∧
      counterparty₁.confirmUpdate partner' answer = (.ok (), counterparty₂) ∧
      Advanced funder₁ counterparty₂ partner partner' s
  payment_counterparty : ∀ invoice proposal n,
    counterparty.proposePayment partner' invoice ≠ (.ok proposal, n)
  update_funder : ∀ blockTime proposal n,
    funder.proposeUpdate partner blockTime ≠ (.ok proposal, n)

/-! ## Resolutions -/

namespace Node

omit [KeyScheme] in
/-- Known secrets that match their hashes pass the check when they are shown. -/
theorem checkSecrets_redeemable {known : Secrets}
    (hknown : ∀ hash secret, known.get? hash = some secret → secret.unlocks hash = true)
    (s : Snapshot) (blockTime : UInt32) :
    checkSecrets (s.redeemableSecrets known blockTime) = .ok () := by
  refine checkSecrets_eq_ok.2 fun hash secret hget => ?_
  rw [Snapshot.redeemableSecrets, SortedMap.get?_filterMap, Option.bind_eq_some_iff] at hget
  obtain ⟨invoice, -, hget⟩ := hget
  split at hget
  · cases hget
  · exact hknown hash secret hget

variable [LawfulKeyScheme]

theorem proposeUpdate_of_ready {n : Node} {partner : PeerId} {c : Channel} {s next : Snapshot}
    {blockTime : UInt32} (hc : n.channels.get? partner = some c) (h : c.Ready .counterparty s)
    (hresolve : s.resolve (s.redeemableSecrets n.secrets blockTime) blockTime = .ok next)
    (hlock : n.params.lockTimeBase.toNat + next.state.toNat + 1 < UInt32.size) :
    ∃ txs, n.proposeUpdate partner blockTime =
        (.ok ⟨txs, s.redeemableSecrets n.secrets blockTime⟩,
          n.setChannel partner (c.awaiting txs)) ∧
      txs.snapshot = next ∧ txs.Built n.params ∧ txs.SignedBy .counterparty := by
  have hresolves := Snapshot.resolves_of_resolve hresolve
  have hidle := idleChannel_eq_ok.2 ⟨hc, h.role_eq, h.active⟩
  obtain ⟨du, ds, hdu, hds⟩ := StateTxs.exists_build hresolves.conserved hlock
  obtain ⟨txs, hpropose, hsigned⟩ :=
    StateTxs.exists_propose hdu hds (publish_of_follows hresolves.toFollows h.keys)
  obtain ⟨hnext, hbuilt⟩ := StateTxs.built_of_propose hpropose
  refine ⟨txs, ?_, hnext, hbuilt, hsigned⟩
  simp only [proposeUpdate, Acting.get_bind, Acting.lift_ok_bind, hidle, h.snapshot_eq, hresolve,
    hpropose, modifyChannel_bind_pure hc]

theorem acceptUpdate_of_ready {n : Node} {partner : PeerId} {c : Channel} {s : Snapshot}
    {secrets : Secrets} {blockTime : UInt32} {txs : StateTxs}
    (hc : n.channels.get? partner = some c) (h : c.Ready .funder s)
    (hsecrets : checkSecrets secrets = .ok ())
    (hresolve : s.resolve secrets blockTime = .ok txs.snapshot)
    (hbuilt : txs.Built n.params) (hsigned : txs.SignedBy .counterparty) :
    ∃ answer, n.acceptUpdate partner ⟨txs, secrets⟩ blockTime =
        (.ok answer, (n.learnSecrets secrets).setChannel partner (c.withComplete answer)) ∧
      StateTxs.Countersigned txs.snapshot txs .funder n.params answer := by
  have hresolves := Snapshot.resolves_of_resolve hresolve
  have hidle := idleChannel_eq_ok.2 ⟨hc, h.role_eq, h.active⟩
  have hlater : checkLater s txs.snapshot = .ok () := by
    refine if_neg ?_
    rw [UInt32.le_iff_toNat_le, hresolves.state]
    omega
  obtain ⟨answer, hanswer⟩ := StateTxs.exists_countersign .funder hbuilt hsigned
    (publish_of_follows hresolves.toFollows h.keys)
  refine ⟨answer, ?_, StateTxs.countersigned_of_countersign hanswer⟩
  simp only [acceptUpdate, Acting.get_bind, Acting.lift_ok_bind, hidle, hsecrets, h.snapshot_eq,
    hlater, hresolve, hanswer, Acting.modify_bind]
  exact modifyChannel_bind_pure (n := n.learnSecrets secrets) hc _ _

/-- A resolution that can be proposed is completed, between nodes that hold the same state. -/
theorem exists_update {funder counterparty : Node} {p : Params} {partner partner' : PeerId}
    {s next : Snapshot} {blockTime : UInt32} (hf : funder.Holds p partner .funder s)
    (hg : counterparty.Holds p partner' .counterparty s)
    (hknown : ∀ hash secret, counterparty.secrets.get? hash = some secret →
      secret.unlocks hash = true)
    (hresolve : s.resolve (s.redeemableSecrets counterparty.secrets blockTime) blockTime =
      .ok next)
    (hlock : p.lockTimeBase.toNat + next.state.toNat + 1 < UInt32.size) :
    ∃ proposal counterparty₁ answer funder₁ counterparty₂,
      counterparty.proposeUpdate partner' blockTime = (.ok proposal, counterparty₁) ∧
      funder.acceptUpdate partner proposal blockTime = (.ok answer, funder₁) ∧
      counterparty₁.confirmUpdate partner' answer = (.ok (), counterparty₂) ∧
      funder₁.Holds p partner .funder next ∧
      counterparty₂.Holds p partner' .counterparty next := by
  obtain ⟨hparams, c, hc, hready⟩ := hf
  obtain ⟨rfl, c', hc', hready'⟩ := hg
  have hfollows := (Snapshot.resolves_of_resolve hresolve).toFollows
  obtain ⟨txs, hpropose, rfl, hbuilt, hsigned⟩ :=
    proposeUpdate_of_ready hc' hready' hresolve hlock
  obtain ⟨answer, haccept, hanswer⟩ := acceptUpdate_of_ready hc hready
    (checkSecrets_redeemable hknown s blockTime) hresolve (hparams ▸ hbuilt) hsigned
  rw [hparams] at hanswer
  have hcomplete : txs.complete answer .counterparty = .ok answer :=
    StateTxs.complete_of_countersign hbuilt hanswer
  have hconfirm := finishProposal_of_pending
    (get?_setChannel_self counterparty partner' (c'.awaiting txs)) rfl answer
  rw [show (c'.awaiting txs).role = .counterparty from hready'.role_eq, hcomplete] at hconfirm
  exact ⟨_, _, answer, _, _, hpropose, haccept, hconfirm,
    ⟨hparams, _, get?_setChannel_self .., hready.role_eq, hready.active, hanswer.snapshot,
      publish_of_follows hfollows hready.keys⟩,
    ⟨rfl, _, get?_setChannel_self .., hready'.role_eq, rfl, hanswer.snapshot,
      publish_of_follows hfollows hready'.keys⟩⟩

end Node

/-! ## Ownership of the keys -/

/-- A record is sound, and its owner has the keys of its side in the complete state. -/
structure Channel.Owned (p : Params) (role : Role) (c : Channel) : Prop where
  inv : c.Inv p
  role_eq : c.role = role
  keys : c.keys.publish c.snapshot.state = .ok (c.snapshot.party role)

/-- An entry holds a record of which the node owns the keys, and no keys are proposed beside it. -/
def Entry.Owned (p : Params) (role : Role) (entry : Entry) : Prop :=
  entry.keys = none ∧ ∃ c, entry.record = some c ∧ c.Owned p role

/-- A node is one side of a channel with a partner, and owns the keys of that side. -/
structure Node.Owns (p : Params) (partner : PeerId) (role : Role) (n : Node) : Prop where
  params : n.params = p
  inv : n.Inv
  entry : (n.entry partner).Owned p role

section Lawful

variable [LawfulKeyScheme]

/-- The complete state moves only to a next state, whose keys have the same owners. -/
theorem Channel.Owned.moves {p : Params} {known : Secrets} {partner : PeerId} {op : Operation}
    {role : Role} {c c' : Channel} (h : c.Owned p role) (hm : c.Moves p known partner op c') :
    c'.Owned p role := by
  have hkeys : c'.keys = c.keys := congrArg (·.1) hm.terms_eq
  refine ⟨h.inv.moves hm, (Channel.role_of_terms hm.terms_eq).trans h.role_eq, ?_⟩
  rw [hkeys]
  rcases h.inv.snapshot_moves hm with heq | hnext
  · rw [heq]
    exact h.keys
  · exact Node.publish_of_follows hnext.follows h.keys

theorem Entry.Owned.turns {p : Params} {known : Secrets} {partner : PeerId} {op : Operation}
    {role : Role} {entry entry' : Entry} (h : entry.Owned p role)
    (ht : Turns p known partner entry op entry') : entry'.Owned p role := by
  obtain ⟨hkeys, c, hc, howned⟩ := h
  cases ht with
  | kept => exact ⟨hkeys, c, hc, howned⟩
  | moved hm =>
    cases hc
    exact ⟨hkeys, _, rfl, howned.moves hm⟩
  | proposed | joined => cases hc
  | created => cases hkeys

namespace Node

variable {n funder counterparty : Node} {p : Params} {partner partner' : PeerId} {role : Role}
  {s : Snapshot}

theorem Owns.run (h : n.Owns p partner role) (ops : List Operation) :
    (n.run ops).Owns p partner role := by
  obtain ⟨rfl, hinv, hentry⟩ := h
  exact ⟨n.params_run ops, hinv.run ops,
    entry_run (P := Entry.Owned n.params role) Entry.Owned.turns hentry ops⟩

omit [LawfulKeyScheme] in
theorem Owns.role_eq {c : Channel} (h : n.Owns p partner role)
    (hc : n.channels.get? partner = some c) : c.role = role := by
  obtain ⟨-, c', hc', howned⟩ := h.entry
  obtain rfl := Option.some.inj (hc'.symm.trans hc)
  exact howned.role_eq

omit [LawfulKeyScheme] in
/-- A node at rest that owns the keys of a side holds the state on that side, and the state is
sound. -/
theorem Owns.holds (h : n.Owns p partner role) (hrest : n.AtRest partner s) :
    n.Holds p partner role s ∧ s.Conserved := by
  obtain ⟨-, c, hc, howned⟩ := h.entry
  obtain ⟨c', hc', hactive, -, rfl⟩ := hrest
  obtain rfl := Option.some.inj (hc.symm.trans hc')
  exact ⟨⟨h.params, c, hc, howned.role_eq, hactive, rfl, howned.keys⟩, howned.inv.sound.conserved⟩

omit [LawfulKeyScheme] in
/-- Of a sound node, a state that it holds with nothing under way has nothing pending. -/
theorem Holds.atRest (h : n.Holds p partner role s) (hinv : n.Inv) : n.AtRest partner s := by
  obtain ⟨-, c, hc, hready⟩ := h
  exact ⟨c, hc, hready.active, (hinv.channels partner c hc).idle hready.active, hready.snapshot_eq⟩

omit [LawfulKeyScheme] in
/-- Of a sound node, a state that it holds after state 0 is signed by both sides. -/
theorem Holds.completeSigned (h : n.Holds p partner role s) (hinv : n.Inv)
    (hs : 0 < s.state.toNat) : n.CompleteSigned partner := by
  obtain ⟨-, c, hc, hready⟩ := h
  intro c' hc'
  obtain rfl := Option.some.inj (hc.symm.trans hc')
  refine (hinv.channels partner c hc).sound_record.signed ?_
  rw [hready.snapshot_eq]
  exact UInt32.le_iff_toNat_le.2 hs

omit [LawfulKeyScheme] in
/-- Sound nodes that hold a next state have advanced. -/
theorem advanced_of_holds {next : Snapshot} (hf : funder.Holds p partner .funder next)
    (hg : counterparty.Holds p partner' .counterparty next) (hfinv : funder.Inv)
    (hginv : counterparty.Inv) (hnext : s.Follows next) :
    Advanced funder counterparty partner partner' s := by
  have hpos : 0 < next.state.toNat := by
    rw [hnext.state]
    exact Nat.succ_pos _
  exact ⟨next, hnext.state, ⟨hf.atRest hfinv, hg.atRest hginv⟩,
    hf.completeSigned hfinv hpos, hg.completeSigned hginv hpos⟩

/-! ## Handshakes that were started -/

theorem payment_completes {invoice : Invoice} {proposal : PaymentProposal} {funder₁ : Node}
    (hf : funder.Owns p partner .funder) (hg : counterparty.Owns p partner' .counterparty)
    (hsync : InSync funder counterparty partner partner' s)
    (h : funder.proposePayment partner invoice = (.ok proposal, funder₁)) :
    ∃ receipt counterparty₁ funder₂,
      counterparty.receivePayment partner' proposal = (.ok receipt, counterparty₁) ∧
      funder₁.confirmPayment partner receipt = (.ok (), funder₂) ∧
      Advanced funder₂ counterparty₁ partner partner' s := by
  obtain ⟨hholds, hconserved⟩ := hf.holds hsync.funder
  obtain ⟨hholds', -⟩ := hg.holds hsync.counterparty
  -- What was proposed is an offer in the state that both hold, so the handshake goes through.
  obtain ⟨c, hc, hproposes, -⟩ := proposes_of_proposePayment h
  obtain ⟨c', hc', -, -, rfl⟩ := hsync.funder
  obtain rfl := Option.some.inj (hc.symm.trans hc')
  have hlock := hproposes.next.2.lockTime_lt
  cases hproposes with
  | @payment _ next _ _ _ hoffer hsign =>
    rw [hf.params, (StateTxs.built_of_propose hsign).1] at hlock
    obtain ⟨proposal', funder₁', receipt, counterparty₁, funder₂, hpropose, hreceive, hconfirm,
      hf₂, hg₁⟩ := exists_payment hholds hholds' hconserved hoffer hlock
    cases hpropose.symm.trans h
    have hfollows := (Snapshot.offers_of_offer hoffer).toFollows
    have hfinv := (hf.inv.perform (.proposePayment partner invoice)).perform
      (.confirmPayment partner receipt)
    have hginv := hg.inv.perform (.receivePayment partner' proposal)
    rw [perform_of_ok (.proposePayment partner invoice) rfl h] at hfinv
    rw [perform_of_ok (.receivePayment partner' proposal) rfl hreceive] at hginv
    rw [perform, hconfirm] at hfinv
    exact ⟨receipt, counterparty₁, funder₂, hreceive, hconfirm,
      advanced_of_holds hf₂ hg₁ hfinv hginv hfollows⟩

theorem update_completes {blockTime : UInt32} {proposal : UpdateProposal} {counterparty₁ : Node}
    (hf : funder.Owns p partner .funder) (hg : counterparty.Owns p partner' .counterparty)
    (hsync : InSync funder counterparty partner partner' s)
    (h : counterparty.proposeUpdate partner' blockTime = (.ok proposal, counterparty₁)) :
    ∃ answer funder₁ counterparty₂,
      funder.acceptUpdate partner proposal blockTime = (.ok answer, funder₁) ∧
      counterparty₁.confirmUpdate partner' answer = (.ok (), counterparty₂) ∧
      Advanced funder₁ counterparty₂ partner partner' s := by
  obtain ⟨hholds, -⟩ := hf.holds hsync.funder
  obtain ⟨hholds', -⟩ := hg.holds hsync.counterparty
  obtain ⟨c, hc, hproposes, -⟩ := proposes_of_proposeUpdate h
  obtain ⟨c', hc', -, -, rfl⟩ := hsync.counterparty
  obtain rfl := Option.some.inj (hc.symm.trans hc')
  have hlock := hproposes.next.2.lockTime_lt
  cases hproposes with
  | @update _ next _ _ _ hresolve hsign =>
    rw [hg.params, (StateTxs.built_of_propose hsign).1] at hlock
    obtain ⟨proposal', counterparty₁', answer, funder₁, counterparty₂, hpropose, haccept, hconfirm,
      hf₁, hg₂⟩ := exists_update hholds hholds' hg.inv.secrets hresolve hlock
    cases hpropose.symm.trans h
    have hfollows := (Snapshot.resolves_of_resolve hresolve).toFollows
    have hginv := (hg.inv.perform (.proposeUpdate partner' blockTime)).perform
      (.confirmUpdate partner' answer)
    have hfinv := hf.inv.perform (.acceptUpdate partner proposal blockTime)
    rw [perform_of_ok (.proposeUpdate partner' blockTime) rfl h] at hginv
    rw [perform_of_ok (.acceptUpdate partner proposal blockTime) rfl haccept] at hfinv
    rw [perform, hconfirm] at hginv
    exact ⟨answer, funder₁, counterparty₂, haccept, hconfirm,
      advanced_of_holds hf₁ hg₂ hfinv hginv hfollows⟩

/-- Only the funder proposes payments, and only the counterparty proposes resolutions. -/
theorem responsive_of_owns (hf : funder.Owns p partner .funder)
    (hg : counterparty.Owns p partner' .counterparty)
    (hsync : InSync funder counterparty partner partner' s) :
    Responsive funder counterparty partner partner' s where
  payment := fun _ _ _ h => payment_completes hf hg hsync h
  update := fun _ _ _ h => update_completes hf hg hsync h
  payment_counterparty := fun invoice proposal n h => by
    obtain ⟨c, hc, hproposes, -⟩ := proposes_of_proposePayment h
    have hrole := hg.role_eq hc
    cases hproposes with
    | payment role =>
      rw [role] at hrole
      cases hrole
  update_funder := fun blockTime proposal n h => by
    obtain ⟨c, hc, hproposes, -⟩ := proposes_of_proposeUpdate h
    have hrole := hf.role_eq hc
    cases hproposes with
    | update role =>
      rw [role] at hrole
      cases hrole

/-! ## From the opening on -/

omit [LawfulKeyScheme] in
theorem owns_of_opened {keys : ChannelKeys} {setup : UpdateTx} {settle : SettleTx} (hinv : n.Inv)
    (hc : n.channels.get? partner = some (openedChannel keys role setup settle))
    (hproposed : n.proposed.get? partner = none) (hsnapshot : setup.document.snapshot = s)
    (hk : keys.publish s.state = .ok (s.party role)) :
    n.Owns n.params partner role ∧ n.AtRest partner s := by
  subst hsnapshot
  exact ⟨⟨rfl, hinv, hproposed, _, hc, hinv.channels partner _ hc, rfl, hk⟩, _, hc, rfl, rfl, rfl⟩

/-- **Handshakes complete.** Two new nodes open a channel, if their keys can be derived and the lock
times of state 0 can be represented. From then on, whatever each of them does, every handshake that
one side can start while they are in sync is completed. -/
theorem handshakes_complete (id id' : PeerId) (params : Params) (partner partner' : PeerId)
    (e e' : Entropy) (keys keys' : ChannelKeys) (k k' : PartyKeys)
    (hkeys : ChannelKeys.ofSeed params.network e.next.1.toBytes = .ok keys)
    (hkeys' : ChannelKeys.ofSeed params.network e'.next.1.toBytes = .ok keys')
    (hk : keys.publish 0 = .ok k) (hk' : keys'.publish 0 = .ok k')
    (hlock : params.lockTimeBase.toNat + 1 < UInt32.size) :
    ∃ party funder₁ reply counterparty txs funder,
      (proposeChannel partner).outcome e (create id params) = (.ok party, funder₁) ∧
      (joinChannel partner' party).outcome e' (create id' params) = (.ok reply, counterparty) ∧
      funder₁.createChannel partner reply = (.ok txs, funder) ∧
      InSync funder counterparty partner partner' (.first params.capacity k k') ∧
      SameSetup funder counterparty partner partner' ∧
      ∀ ops ops' s, InSync (funder.run ops) (counterparty.run ops') partner partner' s →
        Responsive (funder.run ops) (counterparty.run ops') partner partner' s := by
  obtain ⟨reply, txs, du, settle, settle', hpropose, hjoin, hcreate, hsnapshot⟩ :=
    exists_opening_records (create id params) (create id' params) rfl (SortedMap.get?_empty partner)
      (SortedMap.get?_empty partner') hkeys hkeys' hk hk' hlock
  have hfinv := ((inv_create id params).perform (.proposeChannel e partner)).perform
    (.createChannel partner reply)
  have hginv := (inv_create id' params).perform (.joinChannel e' partner' { keys := k })
  rw [perform_of_ok (.proposeChannel e partner) rfl hpropose,
    perform_of_ok (.createChannel partner reply) rfl hcreate] at hfinv
  rw [perform_of_ok (.joinChannel e' partner' _) rfl hjoin] at hginv
  have hcf := get?_setChannel_self { create id params with
    proposed := ((create id params).proposed.insert partner keys).erase partner } partner
    (openedChannel keys .funder (.unsigned du) settle)
  have hcg := get?_setChannel_self (create id' params) partner'
    (openedChannel keys' .counterparty (.unsigned du) settle')
  obtain ⟨hf, hrest⟩ := owns_of_opened hfinv hcf (SortedMap.get?_erase_self _ partner) hsnapshot hk
  obtain ⟨hg, hrest'⟩ := owns_of_opened hginv hcg (SortedMap.get?_empty partner') hsnapshot hk'
  exact ⟨_, _, reply, _, txs, _, hpropose, hjoin, hcreate, ⟨hrest, hrest'⟩,
    ⟨_, _, hcf, hcg, rfl⟩,
    fun ops ops' s hsync => responsive_of_owns (hf.run ops) (hg.run ops') hsync⟩

end Node

end Lawful

omit [KeyScheme] in
/-- Two nodes with the default parameters open a channel with keys drawn from zeros, in which the
first payment and the first resolution are both completed. -/
theorem handshakes_complete_zeros :
    letI : KeyScheme := .secp256k1
    ∃ funder counterparty s,
      InSync funder counterparty ⟨1⟩ ⟨0⟩ s ∧
      (∃ proposal funder₁ receipt counterparty₁ funder₂,
        funder.proposePayment ⟨1⟩ sampleInvoice = (.ok proposal, funder₁) ∧
        counterparty.receivePayment ⟨0⟩ proposal = (.ok receipt, counterparty₁) ∧
        funder₁.confirmPayment ⟨1⟩ receipt = (.ok (), funder₂) ∧
        Advanced funder₂ counterparty₁ ⟨1⟩ ⟨0⟩ s) ∧
      ∃ proposal counterparty₁ answer funder₁ counterparty₂,
        counterparty.proposeUpdate ⟨0⟩ 0 = (.ok proposal, counterparty₁) ∧
        funder.acceptUpdate ⟨1⟩ proposal 0 = (.ok answer, funder₁) ∧
        counterparty₁.confirmUpdate ⟨0⟩ answer = (.ok (), counterparty₂) ∧
        Advanced funder₁ counterparty₂ ⟨1⟩ ⟨0⟩ s := by
  let _ : KeyScheme := .secp256k1
  have _ : LawfulKeyScheme := lawful_secp256k1
  obtain ⟨keys, k, k', hkeys, hk, hk'⟩ := exists_keys_zeros
  obtain ⟨_, _, _, counterparty, _, funder, hpropose, hjoin, hcreate, hsync, -, hresponsive⟩ :=
    Node.handshakes_complete ⟨0⟩ ⟨1⟩ {} ⟨1⟩ ⟨0⟩ .zeros .zeros keys keys k k hkeys hkeys hk hk
      (by decide)
  obtain ⟨_, _, _, _, _, _, hpropose', hjoin', hcreate', hf, hg⟩ :=
    Node.exists_opening (.create ⟨0⟩ {}) (.create ⟨1⟩ {}) rfl rfl rfl hkeys hkeys hk hk (by decide)
  cases hpropose.symm.trans hpropose'
  cases hjoin.symm.trans hjoin'
  cases hcreate.symm.trans hcreate'
  obtain ⟨hpayment, hupdate, -, -⟩ := hresponsive [] [] _ hsync
  have hnext := Snapshot.nextState_first hk hk hk' hk' 1000000
  obtain ⟨hparams, c, hc, hready⟩ := hf
  obtain ⟨hparams', c', hc', hready'⟩ := hg
  obtain ⟨d, hoffer, hd⟩ := Snapshot.exists_offer sampleInvoice
    (Snapshot.conserved_first 1000000 k k) hnext (by decide) rfl
    (show (1000 : Amount) ≤ 1000000 by decide)
  obtain ⟨d', hresolve, hd'⟩ := Snapshot.exists_resolve
    ((Snapshot.first 1000000 k k).redeemableSecrets counterparty.secrets 0) 0
    (Snapshot.conserved_first 1000000 k k) hnext
  have hlock : ({} : Params).lockTimeBase.toNat + (1 : UInt32).toNat + 1 < UInt32.size := by decide
  obtain ⟨txs, hpay, -⟩ := Node.proposePayment_of_ready hc hready hoffer
    (by rw [hparams, hd]; exact hlock)
  obtain ⟨txs', hres, -⟩ := Node.proposeUpdate_of_ready hc' hready' hresolve
    (by rw [hparams', hd']; exact hlock)
  obtain ⟨receipt, counterparty₁, funder₂, hreceive, hconfirm, hadvanced⟩ := hpayment _ _ _ hpay
  obtain ⟨answer, funder₁, counterparty₂, haccept, hconfirm', hadvanced'⟩ := hupdate _ _ _ hres
  exact ⟨funder, counterparty, _, hsync,
    ⟨_, _, receipt, counterparty₁, funder₂, hpay, hreceive, hconfirm, hadvanced⟩,
    _, _, answer, funder₁, counterparty₂, hres, haccept, hconfirm', hadvanced'⟩

end Supersede
