import Supersede.Proofs.Completion
import Supersede.Proofs.Fairness

/-!
# What secrets are given for

A secret is the proof of a payment. A node learns secrets when it issues invoices and when partners
show them; it forgets none, and gives one away to whoever offers a payment that is locked to it.

**Theorem (`Node.receivePayment_unpriced`).** A counterparty that receives a payment signs what the
proposal offers: one new payment, taken from the funder's balance. If it knows the secret of that
payment it gives it away, and it knows the secrets of all invoices that it has issued. It does not
look at the invoices: with any others the outcome is the same, so that the amount of the invoice
does not bound that of the payment (`Node.secret_sold_short`).

**Theorem (`Node.forwarded_recoverable`).** A node that passes payments on does not lose by it. Once
it has accepted a resolution that pays for a hash, it holds a secret for that hash whatever it does
next. So every resolution that it then proposes in a channel where it is the one to be paid shows
that secret and credits the node in full for a payment on offer with the same hash, if that has not
expired.

The link between the two channels is that a known secret may be replaced but is never lost
(`Node.known_run`), and that only secrets that match their hash get in.
-/

namespace Supersede

open Result

/-! ## Payments that are credited -/

namespace Snapshot

/-- The payment at one hash and the others add up to all of them. -/
theorem sum_erase {m : SortedMap PaymentHash Invoice} {hash : PaymentHash} {invoice : Invoice}
    (h : m.get? hash = some invoice) :
    Invoice.sum m.values = invoice.amount.toNat + Invoice.sum (m.erase hash).values := by
  simp only [Invoice.sum_eq]
  exact Amount.total_erase h (·.amount)

/-- From `c` to `d` the counterparty is credited in full for the payment at a hash: it leaves the
offer, and its amount is gained beside those of the other payments that leave without having expired
at a time. -/
structure CreditsPayment (c d : Snapshot) (t : UInt32) (hash : PaymentHash) (invoice : Invoice) :
    Prop where
  left : d.offered.get? hash = none
  credited : d.payment.toNat = c.payment.toNat + invoice.amount.toNat +
    Invoice.sum (((c.leaving d).filter fun _ i => !i.isExpired t).erase hash).values

/-- The known secret of a payment that has not expired is shown, and redeems the payment. -/
theorem isRedeemed_redeemable {c : Snapshot} {known : Secrets} {t : UInt32} {hash : PaymentHash}
    {invoice : Invoice} {secret : Preimage} (hget : c.offered.get? hash = some invoice)
    (hlive : invoice.isExpired t = false) (hsecret : known.get? hash = some secret)
    (hunlocks : secret.unlocks hash = true) :
    (c.redeemableSecrets known t).get? hash = some secret ∧
      isRedeemed (c.redeemableSecrets known t) t hash invoice = true := by
  have hshown : (c.redeemableSecrets known t).get? hash = some secret := by
    rw [redeemableSecrets, SortedMap.get?_filterMap, hget]
    simp [hlive, hsecret]
  exact ⟨hshown, by simp [isRedeemed, hlive, hshown, hunlocks]⟩

variable [KeyScheme]

/-- A payment that a resolution takes off the table unexpired has been redeemed. -/
theorem Resolves.isRedeemed_of_left {c d : Snapshot} {secrets : Secrets} {t : UInt32}
    {hash : PaymentHash} {invoice : Invoice} (h : c.Resolves secrets t d)
    (hget : c.offered.get? hash = some invoice) (hlive : invoice.isExpired t = false)
    (hleft : d.offered.get? hash = none) : isRedeemed secrets t hash invoice = true := by
  by_contra hred
  have hstays : d.offered.get? hash = some invoice := by
    rw [h.offered, SortedMap.get?_filter_eq_some_iff]
    simp [hget, hlive, Bool.eq_false_iff.2 hred]
  rw [hleft] at hstays
  cases hstays

/-- A resolution credits in full what it redeems. -/
theorem Resolves.creditsPayment {c d : Snapshot} {secrets : Secrets} {t : UInt32}
    {hash : PaymentHash} {invoice : Invoice} (h : c.Resolves secrets t d)
    (hget : c.offered.get? hash = some invoice)
    (hred : isRedeemed secrets t hash invoice = true) :
    c.CreditsPayment d t hash invoice := by
  have hredeemed : (c.offered.filter (isRedeemed secrets t)).get? hash = some invoice :=
    SortedMap.get?_filter_eq_some_iff.2 ⟨hget, hred⟩
  constructor
  · refine Option.eq_none_iff_forall_ne_some.2 ?_
    intro invoice' hstays
    rw [h.offered, SortedMap.get?_filter_eq_some_iff, hget] at hstays
    obtain ⟨heq, hkept⟩ := hstays
    cases heq
    simp [hred] at hkept
  · rw [h.leaving_unexpired, h.payment, sum_erase hredeemed, Nat.add_assoc]

end Snapshot

/-! ## Secrets over runs -/

namespace Node

variable [KeyScheme]

/-- A hash whose secret is known stays so. -/
theorem known_run {n : Node} {hash : PaymentHash} (h : n.secrets.contains hash = true)
    (ops : List Operation) : (n.run ops).secrets.contains hash = true := by
  induction ops generalizing n with
  | nil => exact h
  | cons op ops ih => exact ih ((n.perform_step op).known hash h)

/-- A node knows the secrets of the invoices that it has issued. -/
theorem known_of_issued (id : PeerId) (params : Params) (ops : List Operation) {hash : PaymentHash}
    (h : ((create id params).run ops).issued.contains hash = true) :
    ((create id params).run ops).secrets.contains hash = true := by
  induction ops using List.reverseRecOn with
  | nil => cases h
  | append_singleton ops op ih =>
    rw [run_concat] at h ⊢
    have hstep := ((create id params).run ops).perform_step op
    rcases hstep.issued hash h with hold | hknown
    · exact hstep.known hash (ih hold)
    · exact hknown

/-! ## Receiving a payment -/

/-- **Secrets are given away without a look at the price.** -/
theorem receivePayment_unpriced (id : PeerId) (params : Params) (ops : List Operation)
    (partner : PeerId) (proposal : PaymentProposal) (receipt : PaymentReceipt) (n' : Node)
    (h : ((create id params).run ops).receivePayment partner proposal = (.ok receipt, n')) :
    ∃ c invoice, ((create id params).run ops).channels.get? partner = some c ∧
      n'.channels.get? partner = some { c with complete := receipt.txs } ∧
      receipt.txs.snapshot = proposal.txs.snapshot ∧
      c.snapshot.Offers invoice receipt.txs.snapshot ∧
      (∀ secret, receipt.secret = some secret → secret.paymentHash = invoice.hash) ∧
      (∀ issued, ((create id params).run ops).issued.get? invoice.hash = some issued →
        ∃ secret, receipt.secret = some secret) ∧
      ∀ issued, receivePayment partner proposal { (create id params).run ops with issued } =
        (.ok receipt, { n' with issued }) := by
  obtain ⟨c, invoice, expected, hc, hi, he, hsign, hsecret, rfl⟩ := receivePayment_eq_ok.1 h
  have hsigned := StateTxs.countersigned_of_countersign hsign
  have hoffers := Snapshot.offers_of_offer he
  refine ⟨c, invoice, hc.1, get?_setChannel_self .., ?_, ?_, ?_, ?_, ?_⟩
  · rw [hsigned.snapshot, hsigned.message_snapshot]
  · rw [hsigned.snapshot]
    exact hoffers
  · intro secret hs
    rw [hsecret] at hs
    exact eq_of_beq (((inv_create id params).run ops).secrets invoice.hash secret hs)
  · intro issued hissued
    have hknown := known_of_issued id params ops (SortedMap.contains_eq_true_iff.2 ⟨_, hissued⟩)
    rw [hsecret]
    exact SortedMap.contains_eq_true_iff.1 hknown
  · intro issued
    exact receivePayment_eq_ok.2 ⟨c, invoice, expected, hc, hi, he, hsign, hsecret, rfl⟩

omit [KeyScheme] in
/-- A node with the default parameters has issued an invoice over 2000 units, and gives the secret
away for a payment of any amount that the funder can afford. -/
theorem exists_sale_zeros {amount : Amount} (hne : amount ≠ 0) (hle : amount ≤ 1000000) :
    letI : KeyScheme := .secp256k1
    ∃ ops c proposal receipt n secret,
      ((create ⟨1⟩ {}).run ops).issued.get? secret.paymentHash =
        some ⟨0, secret.paymentHash, 2000, 100⟩ ∧
      ((create ⟨1⟩ {}).run ops).channels.get? ⟨0⟩ = some c ∧
      ((create ⟨1⟩ {}).run ops).receivePayment ⟨0⟩ proposal = (.ok receipt, n) ∧
      receipt.secret = some secret ∧
      c.snapshot.Offers ⟨0, secret.paymentHash, amount, 100⟩ receipt.txs.snapshot := by
  let _ : KeyScheme := .secp256k1
  have _ : LawfulKeyScheme := lawful_secp256k1
  let secret : Preimage := FixedBytes.zero 32
  let issuer : Node := { create ⟨1⟩ {} with
    secrets := SortedMap.insert ∅ secret.paymentHash secret
    issued := SortedMap.insert ∅ secret.paymentHash ⟨0, secret.paymentHash, 2000, 100⟩ }
  have hissue : (createInvoice 0 2000 100).outcome .zeros (create ⟨1⟩ {}) =
    (.ok ⟨0, secret.paymentHash, 2000, 100⟩, issuer) := rfl
  obtain ⟨keys, k, hkeys, hk, hnext⟩ := Snapshot.exists_next_zeros
  obtain ⟨s, hoffer, hstate, -⟩ := hnext ⟨0, secret.paymentHash, amount, 100⟩ hne hle
  have hnew : (create ⟨0⟩ {}).channels.get? ⟨1⟩ = none := rfl
  have hnew' : issuer.channels.get? ⟨0⟩ = none := rfl
  obtain ⟨party, _, reply, n, _, _, -, hjoin, -, ⟨hparams, c, hc, hready⟩, hparams', c', hc',
    hready'⟩ := exists_opening_default rfl rfl hnew hnew' hkeys hk
  obtain ⟨txs, -, rfl, hbuilt, hsigned⟩ := proposePayment_of_ready hc hready hoffer
    (by rw [hparams, hstate]; decide)
  rw [hparams, ← hparams'] at hbuilt
  obtain ⟨answer, hreceive, hanswer⟩ := receivePayment_of_ready hc' hready'
    (Snapshot.conserved_first 1000000 k k) hoffer hbuilt hsigned
  obtain ⟨ops, hrun⟩ : ∃ ops, (create ⟨1⟩ {}).run ops = n :=
    ⟨[.createInvoice .zeros 0 2000 100, .joinChannel .zeros ⟨0⟩ party],
      (run_cons (perform_of_ok (.createInvoice .zeros 0 2000 100) rfl hissue) _).trans
        (run_cons (perform_of_ok (.joinChannel .zeros ⟨0⟩ party) rfl hjoin) [])⟩
  obtain ⟨_, -, -, -, -, hn⟩ := opened_of_joinChannel hjoin
  have hsecret : n.secrets.get? secret.paymentHash = some secret := by
    rw [hn]
    exact SortedMap.get?_insert_self ..
  rw [hsecret] at hreceive
  have hissued : n.issued.get? secret.paymentHash =
      some ⟨0, secret.paymentHash, 2000, 100⟩ := by
    rw [hn]
    exact SortedMap.get?_insert_self ..
  have hoffers : c'.snapshot.Offers ⟨0, secret.paymentHash, amount, 100⟩ answer.snapshot := by
    rw [hready'.snapshot_eq, hanswer.snapshot]
    exact Snapshot.offers_of_offer hoffer
  rw [← hrun] at hissued hc' hreceive
  exact ⟨ops, c', ⟨txs⟩, _, _, secret, hissued, hc', hreceive, rfl, hoffers⟩

omit [KeyScheme] in
/-- A payment of the amount of the invoice gets its secret, as it would without the invoice. -/
theorem receivePayment_unpriced_zeros :
    letI : KeyScheme := .secp256k1
    ∃ ops c proposal receipt n secret invoice,
      ((create ⟨1⟩ {}).run ops).receivePayment ⟨0⟩ proposal = (.ok receipt, n) ∧
      receipt.secret = some secret ∧
      ((create ⟨1⟩ {}).run ops).channels.get? ⟨0⟩ = some c ∧
      c.snapshot.Offers invoice receipt.txs.snapshot ∧ secret.paymentHash = invoice.hash ∧
      receivePayment ⟨0⟩ proposal { (create ⟨1⟩ {}).run ops with issued := ∅ } =
        (.ok receipt, { n with issued := ∅ }) := by
  let _ : KeyScheme := .secp256k1
  obtain ⟨ops, c, proposal, receipt, n, secret, -, hc, hreceive, hsecret, -⟩ :=
    exists_sale_zeros (show (2000 : Amount) ≠ 0 by decide) (by decide)
  obtain ⟨c', invoice, hc', -, -, hoffers, hpays, -, hblind⟩ :=
    receivePayment_unpriced ⟨1⟩ {} ops ⟨0⟩ proposal receipt n hreceive
  exact ⟨ops, c', proposal, receipt, n, secret, invoice, hreceive, hsecret, hc', hoffers,
    hpays secret hsecret, hblind ∅⟩

omit [KeyScheme] in
/-- A secret that was to cost 2000 units is given away for one. -/
theorem secret_sold_short :
    letI : KeyScheme := .secp256k1
    ∃ ops c proposal receipt n secret issued invoice,
      ((create ⟨1⟩ {}).run ops).issued.get? secret.paymentHash = some issued ∧
      ((create ⟨1⟩ {}).run ops).channels.get? ⟨0⟩ = some c ∧
      ((create ⟨1⟩ {}).run ops).receivePayment ⟨0⟩ proposal = (.ok receipt, n) ∧
      receipt.secret = some secret ∧ c.snapshot.offered.get? secret.paymentHash = none ∧
      receipt.txs.snapshot.offered.get? secret.paymentHash = some invoice ∧
      invoice.amount < issued.amount := by
  let _ : KeyScheme := .secp256k1
  obtain ⟨ops, c, proposal, receipt, n, secret, hissued, hc, hreceive, hsecret, hoffers⟩ :=
    exists_sale_zeros (show (1 : Amount) ≠ 0 by decide) (by decide)
  have hnone : c.snapshot.offered.get? secret.paymentHash = none := by
    simpa [SortedMap.contains] using hoffers.fresh
  refine ⟨ops, c, proposal, receipt, n, secret, _, ⟨0, secret.paymentHash, 1, 100⟩, hissued, hc,
    hreceive, hsecret, hnone, ?_, ?_⟩
  · rw [hoffers.offered]
    exact SortedMap.get?_insert_self ..
  · exact (by decide : (1 : Amount) < 2000)

/-! ## Passing a payment on -/

/-- An accepted resolution that pays for a hash leaves the node with a secret for it. -/
theorem known_of_acceptUpdate {n n' : Node} {partner : PeerId} {c : Channel}
    {proposal : UpdateProposal} {t : UInt32} {txs : StateTxs} {hash : PaymentHash}
    {invoice : Invoice} (hc : n.channels.get? partner = some c)
    (h : n.acceptUpdate partner proposal t = (.ok txs, n'))
    (hget : c.snapshot.offered.get? hash = some invoice) (hlive : invoice.isExpired t = false)
    (hleft : txs.snapshot.offered.get? hash = none) :
    c.snapshot.CreditsPayment txs.snapshot t hash invoice ∧ n'.secrets.contains hash = true := by
  obtain ⟨c₁, hc₁, hanswers, rfl⟩ := answers_of_acceptUpdate h
  obtain rfl := Option.some.inj (hc.symm.trans hc₁)
  cases hanswers with
  | update _ _ _ hresolve hsign =>
    have htxs := (StateTxs.countersigned_of_countersign hsign).snapshot
    have hresolves := Snapshot.resolves_of_resolve hresolve
    rw [← htxs] at hresolves
    have hred := hresolves.isRedeemed_of_left hget hlive hleft
    obtain ⟨secret, hsecret, -⟩ := Snapshot.exists_secret_of_isRedeemed hred
    refine ⟨hresolves.creditsPayment hget hred, SortedMap.contains_eq_true_iff.2 ⟨secret, ?_⟩⟩
    exact (SortedMap.get?_union _ _ hash).trans (by rw [hsecret]; rfl)

/-- A proposed resolution shows the known secret of a payment that has not expired, and credits the
payment in full. -/
theorem credits_of_proposeUpdate {n n' : Node} {partner : PeerId} {c : Channel}
    {proposal : UpdateProposal} {t : UInt32} {hash : PaymentHash} {invoice : Invoice}
    {secret : Preimage} (hc : n.channels.get? partner = some c)
    (h : n.proposeUpdate partner t = (.ok proposal, n'))
    (hget : c.snapshot.offered.get? hash = some invoice) (hlive : invoice.isExpired t = false)
    (hsecret : n.secrets.get? hash = some secret) (hunlocks : secret.unlocks hash = true) :
    proposal.secrets.get? hash = some secret ∧
      c.snapshot.CreditsPayment proposal.txs.snapshot t hash invoice := by
  obtain ⟨c₁, next, ⟨hc₁, -, -⟩, hsecrets, hresolve, hsign, -⟩ := proposeUpdate_eq_ok h
  obtain rfl := Option.some.inj (hc.symm.trans hc₁)
  obtain ⟨hshown, hred⟩ := Snapshot.isRedeemed_redeemable hget hlive hsecret hunlocks
  rw [hsecrets]
  refine ⟨hshown, ?_⟩
  rw [(StateTxs.built_of_propose hsign).1]
  exact (Snapshot.resolves_of_resolve hresolve).creditsPayment hget hred

/-- **What was paid on can be recovered.** -/
theorem forwarded_recoverable (id : PeerId) (params : Params) (ops : List Operation)
    (downstream : PeerId) (c : Channel) (proposal : UpdateProposal) (t : UInt32) (txs : StateTxs)
    (n : Node) (hash : PaymentHash) (invoice : Invoice)
    (hc : ((create id params).run ops).channels.get? downstream = some c)
    (h : ((create id params).run ops).acceptUpdate downstream proposal t = (.ok txs, n))
    (hget : c.snapshot.offered.get? hash = some invoice) (hlive : invoice.isExpired t = false)
    (hleft : txs.snapshot.offered.get? hash = none) :
    c.snapshot.CreditsPayment txs.snapshot t hash invoice ∧
    ∀ later, ∃ secret, (n.run later).secrets.get? hash = some secret ∧
      secret.unlocks hash = true ∧
      ∀ upstream c' proposal' t' n' invoice',
        (n.run later).channels.get? upstream = some c' →
        (n.run later).proposeUpdate upstream t' = (.ok proposal', n') →
        c'.snapshot.offered.get? hash = some invoice' → invoice'.isExpired t' = false →
        proposal'.secrets.get? hash = some secret ∧
          c'.snapshot.CreditsPayment proposal'.txs.snapshot t' hash invoice' := by
  obtain ⟨hcredits, hknown⟩ := known_of_acceptUpdate hc h hget hlive hleft
  refine ⟨hcredits, ?_⟩
  intro later
  -- The node after the resolution is reached by a run, so its secrets match their hashes.
  have hinv := ((inv_create id params).run ops).perform (.acceptUpdate downstream proposal t)
  rw [perform_of_ok (.acceptUpdate downstream proposal t) rfl h] at hinv
  obtain ⟨secret, hsecret⟩ := SortedMap.contains_eq_true_iff.1 (known_run hknown later)
  have hunlocks := (hinv.run later).secrets hash secret hsecret
  refine ⟨secret, hsecret, hunlocks, ?_⟩
  intro upstream c' proposal' t' n' invoice' hc' hpropose hget' hlive'
  exact credits_of_proposeUpdate hc' hpropose hget' hlive' hsecret hunlocks

/-- A state that a node holds with a partner is not touched by operations about others. -/
theorem Holds.run_of_partner?_ne {n : Node} {p : Params} {partner : PeerId} {role : Role}
    {s : Snapshot} {ops : List Operation} (h : n.Holds p partner role s)
    (hp : ∀ op ∈ ops, op.partner? ≠ some partner) : (n.run ops).Holds p partner role s := by
  obtain ⟨hparams, c, hc, hready⟩ := h
  have hentry := congrArg Entry.record (entry_run_of_partner?_ne (n := n) hp)
  exact ⟨(n.params_run ops).trans hparams, c, hentry.trans hc, hready⟩

/-- A counterparty that knows the secret of a payment has it resolved. -/
theorem exists_redeemed [LawfulKeyScheme] {funder counterparty : Node} {p : Params}
    {partner partner' : PeerId} {s next : Snapshot} {t : UInt32} {hash : PaymentHash}
    {invoice : Invoice} {secret : Preimage} (hf : funder.Holds p partner .funder s)
    (hg : counterparty.Holds p partner' .counterparty s) (hinv : counterparty.Inv)
    (hget : s.offered.get? hash = some invoice) (hlive : invoice.isExpired t = false)
    (hsecret : counterparty.secrets.get? hash = some secret)
    (hresolve : s.resolve (s.redeemableSecrets counterparty.secrets t) t = .ok next)
    (hlock : p.lockTimeBase.toNat + next.state.toNat + 1 < UInt32.size) :
    ∃ c proposal txs n, funder.channels.get? partner = some c ∧ c.snapshot = s ∧
      funder.acceptUpdate partner proposal t = (.ok txs, n) ∧
      txs.snapshot.offered.get? hash = none := by
  obtain ⟨proposal, _, txs, n, _, -, haccept, -, ⟨-, c₁, hc₁, hready₁⟩, -⟩ :=
    exists_update hf hg hinv.secrets hresolve hlock
  obtain ⟨-, c, hc, hready⟩ := hf
  -- What was signed in answer is the state that the funder now holds.
  obtain ⟨c₂, -, -, rfl⟩ := answers_of_acceptUpdate haccept
  obtain rfl := Option.some.inj ((get?_setChannel_self ..).symm.trans hc₁)
  have htxs : txs.snapshot = next := hready₁.snapshot_eq
  have hred := (Snapshot.isRedeemed_redeemable hget hlive hsecret
    (hinv.secrets hash secret hsecret)).2
  refine ⟨c, proposal, txs, _, hc, hready.snapshot_eq, haccept, ?_⟩
  rw [htxs]
  exact ((Snapshot.resolves_of_resolve hresolve).creditsPayment hget hred).left

omit [KeyScheme] in
/-- A node with the default parameters joins a channel, receives a payment there, and passes it on
in a channel that it has created. -/
theorem exists_forwarded_zeros {invoice : Invoice} (hne : invoice.amount ≠ 0)
    (hle : invoice.amount ≤ 1000000) :
    letI : KeyScheme := .secp256k1
    ∃ (ops : List Operation) (payee : Node) (s : Snapshot),
      ((create ⟨1⟩ {}).run ops).Holds {} ⟨0⟩ .counterparty s ∧
      ((create ⟨1⟩ {}).run ops).Holds {} ⟨2⟩ .funder s ∧
      payee.Holds {} ⟨1⟩ .counterparty s ∧ payee.Inv ∧
      s.offered.get? invoice.hash = some invoice ∧
      ∀ secrets t, ∃ s', s.resolve secrets t = .ok s' ∧ s'.state = 2 := by
  let _ : KeyScheme := .secp256k1
  have _ : LawfulKeyScheme := lawful_secp256k1
  obtain ⟨keys, k, hkeys, hk, hnext⟩ := Snapshot.exists_next_zeros
  obtain ⟨s, hoffer, hstate, hresolve⟩ := hnext invoice hne hle
  have hconserved := Snapshot.conserved_first 1000000 k k
  have hget : s.offered.get? invoice.hash = some invoice := by
    rw [(Snapshot.offers_of_offer hoffer).offered]
    exact SortedMap.get?_insert_self ..
  have hlock : ({} : Params).lockTimeBase.toNat + s.state.toNat + 1 < UInt32.size := by
    rw [hstate]
    decide
  have hnew (id partner : PeerId) : (create id {}).channels.get? partner = none := rfl
  -- The payment comes in from one partner.
  obtain ⟨party, _, _, n₁, _, _, -, hjoin, -, hpayer, hn₁⟩ :=
    exists_opening_default rfl rfl (hnew ⟨0⟩ ⟨1⟩) (hnew ⟨1⟩ ⟨0⟩) hkeys hk
  obtain ⟨incoming, _, _, n₂, _, -, hreceive, -, -, hn₂⟩ :=
    exists_payment hpayer hn₁ hconserved hoffer hlock
  let receiving : List Operation :=
    [.joinChannel .zeros ⟨0⟩ party, .receivePayment ⟨0⟩ incoming]
  have hrun₂ : (create ⟨1⟩ {}).run receiving = n₂ := by
    rw [run_cons (perform_of_ok (.joinChannel .zeros ⟨0⟩ party) rfl hjoin),
      run_cons (perform_of_ok (.receivePayment ⟨0⟩ incoming) rfl hreceive)]
    rfl
  have hfree : n₂.channels.get? ⟨2⟩ = none := by
    have hentry : ((create ⟨1⟩ {}).run receiving).entry ⟨2⟩ = (create ⟨1⟩ {}).entry ⟨2⟩ :=
      entry_run_of_partner?_ne (by simp [receiving, Operation.partner?])
    rw [hrun₂] at hentry
    exact congrArg Entry.record hentry
  -- It is passed on to another.
  obtain ⟨party', n₃, reply, payee, _, n₄, hpropose, hjoin', hcreate, hn₄, hpayee⟩ :=
    exists_opening_default hn₂.params rfl hfree (hnew ⟨2⟩ ⟨1⟩) hkeys hk
  obtain ⟨outgoing, n₅, receipt, payee₁, n₆, hpay, hreceive', hconfirm, hn₆, hpayee₁⟩ :=
    exists_payment hn₄ hpayee hconserved hoffer hlock
  let passing : List Operation := [.proposeChannel .zeros ⟨2⟩, .createChannel ⟨2⟩ reply,
    .proposePayment ⟨2⟩ invoice, .confirmPayment ⟨2⟩ receipt]
  have hconfirmed : (n₅.perform (.confirmPayment ⟨2⟩ receipt)).2 = n₆ :=
    congrArg Prod.snd hconfirm
  have hrun₆ : n₂.run passing = n₆ := by
    rw [run_cons (perform_of_ok (.proposeChannel .zeros ⟨2⟩) rfl hpropose),
      run_cons (perform_of_ok (.createChannel ⟨2⟩ reply) rfl hcreate),
      run_cons (perform_of_ok (.proposePayment ⟨2⟩ invoice) rfl hpay),
      run_cons hconfirmed]
    rfl
  have hheld : (n₂.run passing).Holds {} ⟨0⟩ .counterparty s :=
    hn₂.run_of_partner?_ne (by simp [passing, Operation.partner?])
  have hinv := ((inv_create ⟨2⟩ {}).perform (.joinChannel .zeros ⟨1⟩ party')).perform
    (.receivePayment ⟨1⟩ outgoing)
  rw [perform_of_ok (.joinChannel .zeros ⟨1⟩ party') rfl hjoin',
    perform_of_ok (.receivePayment ⟨1⟩ outgoing) rfl hreceive'] at hinv
  refine ⟨receiving ++ passing, payee₁, s, ?_, ?_, hpayee₁, hinv, hget, hresolve⟩
  · rw [run_append, hrun₂]
    exact hheld
  · rw [run_append, hrun₂, hrun₆]
    exact hn₆

omit [KeyScheme] in
/-- A node that has passed a payment on recovers it when it has paid. -/
theorem forwarded_recoverable_zeros :
    letI : KeyScheme := .secp256k1
    ∃ ops c proposal txs n secret invoice proposal' n' c',
      ((create ⟨1⟩ {}).run ops).channels.get? ⟨2⟩ = some c ∧
      ((create ⟨1⟩ {}).run ops).acceptUpdate ⟨2⟩ proposal 0 = (.ok txs, n) ∧
      c.snapshot.CreditsPayment txs.snapshot 0 invoice.hash invoice ∧
      n.channels.get? ⟨0⟩ = some c' ∧ n.proposeUpdate ⟨0⟩ 0 = (.ok proposal', n') ∧
      proposal'.secrets.get? invoice.hash = some secret ∧ secret.unlocks invoice.hash = true ∧
      c'.snapshot.CreditsPayment proposal'.txs.snapshot 0 invoice.hash invoice := by
  let _ : KeyScheme := .secp256k1
  have _ : LawfulKeyScheme := lawful_secp256k1
  let secret : Preimage := FixedBytes.zero 32
  let invoice : Invoice := ⟨0, secret.paymentHash, 1000, 100⟩
  have hlive : invoice.isExpired 0 = false := by decide
  have hlock {s' : Snapshot} (hs' : s'.state = 2) :
      ({} : Params).lockTimeBase.toNat + s'.state.toNat + 1 < UInt32.size := by
    rw [hs']
    decide
  obtain ⟨ops, payee, s, hin, hout, hpayee, hinv, hget, hresolve⟩ :=
    exists_forwarded_zeros (show invoice.amount ≠ 0 by decide) (by decide)
  -- The payee learns the secret and has the payment resolved.
  have hlearned : (payee.learnSecret secret).Holds {} ⟨1⟩ .counterparty s :=
    ⟨hpayee.params, hpayee.channel⟩
  obtain ⟨s', hs', hstate'⟩ := hresolve
    (s.redeemableSecrets (payee.learnSecret secret).secrets 0) 0
  obtain ⟨c, proposal, txs, n, hc, rfl, haccept, hleft⟩ := exists_redeemed hout hlearned
    (hinv.perform (.learnSecret secret)) hget hlive (SortedMap.get?_insert_self ..) hs'
    (hlock hstate')
  -- So the node can ask for the payment that came in.
  have hn : (((create ⟨1⟩ {}).run ops).run [.acceptUpdate ⟨2⟩ proposal 0]).Holds {} ⟨0⟩
      .counterparty c.snapshot := hin.run_of_partner?_ne (by simp [Operation.partner?])
  rw [run_cons (perform_of_ok (.acceptUpdate ⟨2⟩ proposal 0) rfl haccept)] at hn
  obtain ⟨hparams, c', hc', hready'⟩ : n.Holds {} ⟨0⟩ .counterparty c.snapshot := hn
  obtain ⟨s'', hs'', hstate''⟩ := hresolve (c.snapshot.redeemableSecrets n.secrets 0) 0
  obtain ⟨txs', hpropose', -⟩ := proposeUpdate_of_ready hc' hready' hs''
    (by rw [hparams]; exact hlock hstate'')
  obtain ⟨hcredits, hlater⟩ := forwarded_recoverable ⟨1⟩ {} ops ⟨2⟩ c proposal 0 txs n
    invoice.hash invoice hc haccept hget hlive hleft
  obtain ⟨secret', -, hunlocks, hrecovers⟩ := hlater []
  obtain ⟨hshown, hcredits'⟩ := hrecovers ⟨0⟩ c' _ 0 _ invoice hc' hpropose'
    (by rw [hready'.snapshot_eq]; exact hget) hlive
  exact ⟨ops, c, proposal, txs, n, secret', invoice, _, _, c', hc, haccept, hcredits, hc',
    hpropose', hshown, hunlocks, hcredits'⟩

end Node

end Supersede
