import Supersede.Proofs.Atomicity

/-!
# What an operation does to a node

`Node.perform_step` says once what any operation can do: it keeps the parameters, forgets no secret,
learns only secrets that match their hash, issues an invoice only with a secret at hand, touches the
proposed keys only to open a channel, and of the records at most that of the partner it is about.
That record is opened anew (`Channel.Opened`) or changed by one of the moves of `Channel.Moves`: a
proposal, an answer to one, the end of a proposal of our own, or a step of a close.

Both handshakes have the same three steps, with the sides exchanged, so the moves do not tell
payments from resolutions; `Channel.Proposes` and `Channel.Answers` say what is proposed and
answered.
-/

namespace Supersede

open Result Acting

variable [KeyScheme]

/-! ## Moves of a channel -/

namespace Channel

/-- By an operation on a channel, a side proposes the next state with these transactions. -/
inductive Proposes (p : Params) (known : Secrets) (partner : PeerId) (c : Channel) :
    Operation → StateTxs → Prop
  | payment {invoice : Invoice} {next : Snapshot} {txs : StateTxs} (role : c.role = .funder)
      (idle : c.status = .active) (offer : c.snapshot.offer invoice = .ok next)
      (sign : StateTxs.propose next p c.keys .funder = .ok txs) :
      Proposes p known partner c (.proposePayment partner invoice) txs
  | update {blockTime : UInt32} {next : Snapshot} {txs : StateTxs} (role : c.role = .counterparty)
      (idle : c.status = .active)
      (resolve : c.snapshot.resolve (c.snapshot.redeemableSecrets known blockTime) blockTime =
        .ok next)
      (sign : StateTxs.propose next p c.keys .counterparty = .ok txs) :
      Proposes p known partner c (.proposeUpdate partner blockTime) txs

/-- By an operation on a channel, a side signs what the partner's message proposes and takes it as
complete. -/
inductive Answers (p : Params) (partner : PeerId) (c : Channel) :
    Operation → (message txs : StateTxs) → Prop
  | payment {proposal : PaymentProposal} {invoice : Invoice} {expected : Snapshot}
      {txs : StateTxs} (role : c.role = .counterparty) (idle : c.status = .active)
      (offered : Node.offeredInvoice c.snapshot proposal.txs.snapshot = .ok invoice)
      (offer : c.snapshot.offer invoice = .ok expected)
      (sign : StateTxs.countersign expected proposal.txs c.keys .counterparty p = .ok txs) :
      Answers p partner c (.receivePayment partner proposal) proposal.txs txs
  | update {proposal : UpdateProposal} {blockTime : UInt32} {expected : Snapshot}
      {txs : StateTxs} (role : c.role = .funder) (idle : c.status = .active)
      (secrets : Node.checkSecrets proposal.secrets = .ok ())
      (resolve : c.snapshot.resolve proposal.secrets blockTime = .ok expected)
      (sign : StateTxs.countersign expected proposal.txs c.keys .funder p = .ok txs) :
      Answers p partner c (.acceptUpdate partner proposal blockTime) proposal.txs txs

/-- By an operation on a channel, a side ends its own proposal with the partner's answer. -/
inductive Confirms (partner : PeerId) (c : Channel) : Operation → (answer : StateTxs) → Prop
  | payment {receipt : PaymentReceipt} (role : c.role = .funder) :
      Confirms partner c (.confirmPayment partner receipt) receipt.txs
  | update {answer : StateTxs} (role : c.role = .counterparty) :
      Confirms partner c (.confirmUpdate partner answer) answer

/-- How operations change the record of a channel. -/
inductive Moves (p : Params) (known : Secrets) (partner : PeerId) (c : Channel) :
    Operation → Channel → Prop
  | propose {op : Operation} {txs : StateTxs} (h : c.Proposes p known partner op txs) :
      Moves p known partner c op { c with pending := some txs, status := .updating }
  | answer {op : Operation} {message txs : StateTxs} (h : c.Answers p partner op message txs) :
      Moves p known partner c op { c with complete := txs }
  | confirm {op : Operation} {answer pending txs : StateTxs} (h : c.Confirms partner op answer)
      (hp : c.pending = some pending) (fits : pending.complete answer c.role = .ok txs) :
      Moves p known partner c op { c with pending := none, status := .active, complete := txs }
  | drop {op : Operation} {answer pending : StateTxs} {e : Error}
      (h : c.Confirms partner op answer) (hp : c.pending = some pending)
      (misfit : pending.complete answer c.role = .error e) :
      Moves p known partner c op { c with pending := none, status := .active }
  | closeAlone {settle : Settlement} {settleTxid : Txid} {options : SweepOptions} :
      Moves p known partner c (.closeAlone partner settle settleTxid options)
        { c with pending := none, proposedClose := none, status := .closing }
  | proposeClose {funding : OutPoint} {close : CloseTx} (idle : c.status = .active) :
      Moves p known partner c (.proposeClose partner funding) { c with proposedClose := some close }
  | acceptClose {close : CloseTx} (idle : c.status = .active) :
      Moves p known partner c (.acceptClose partner close)
        { c with proposedClose := none, status := .closed }
  | confirmClose {close : CloseTx} {tx : Transaction} (proposed : c.proposedClose = some close) :
      Moves p known partner c (.confirmClose partner tx)
        { c with proposedClose := none, status := .closed }

/-- A record as it is when the channel opens. -/
structure Opened (p : Params) (c : Channel) : Prop where
  status : c.status = .active
  pending : c.pending = none
  proposedClose : c.proposedClose = none
  snapshot : ∃ funder counterparty, Snapshot.opening funder counterparty p.capacity = .ok c.snapshot
  built : c.complete.Built p
  refund : c.role = .funder → c.complete.settle.verify = .ok ()
  keys : ∃ own, c.keys.publish 0 = .ok own ∧ own.atState 0 = .ok (c.snapshot.party c.role)
  setup : c.setup = c.complete.update

/-! ## Next states -/

theorem Proposes.idle {p : Params} {known : Secrets} {partner : PeerId} {c : Channel}
    {op : Operation} {txs : StateTxs} (h : c.Proposes p known partner op txs) :
    c.status = .active := by
  cases h <;> assumption

theorem Answers.idle {p : Params} {partner : PeerId} {c : Channel} {op : Operation}
    {message txs : StateTxs} (h : c.Answers p partner op message txs) : c.status = .active := by
  cases h <;> assumption

/-- What is proposed is the next state, as `build` gives it. -/
theorem Proposes.next {p : Params} {known : Secrets} {partner : PeerId} {c : Channel}
    {op : Operation} {txs : StateTxs} (h : c.Proposes p known partner op txs) :
    c.snapshot.Next txs.snapshot ∧ txs.Built p := by
  cases h with
  | payment _ _ offer sign =>
    obtain ⟨hs, hb⟩ := StateTxs.built_of_propose sign
    exact ⟨hs ▸ .offers (Snapshot.offers_of_offer offer), hb⟩
  | update _ _ resolve sign =>
    obtain ⟨hs, hb⟩ := StateTxs.built_of_propose sign
    exact ⟨hs ▸ .resolves (Snapshot.resolves_of_resolve resolve), hb⟩

/-- What is signed in answer is the next state, rebuilt here, with the partner's signatures. -/
theorem Answers.next {p : Params} {partner : PeerId} {c : Channel} {op : Operation}
    {message txs : StateTxs} (h : c.Answers p partner op message txs) :
    c.snapshot.Next txs.snapshot ∧ StateTxs.Countersigned txs.snapshot message c.role p txs := by
  cases h with
  | payment role _ _ offer sign =>
    have hc := StateTxs.countersigned_of_countersign sign
    rw [hc.snapshot, role]
    exact ⟨.offers (Snapshot.offers_of_offer offer), hc⟩
  | update role _ _ resolve sign =>
    have hc := StateTxs.countersigned_of_countersign sign
    rw [hc.snapshot, role]
    exact ⟨.resolves (Snapshot.resolves_of_resolve resolve), hc⟩

end Channel

/-! ## Operations of the handshakes -/

namespace Node

theorem proposes_of_proposePayment {n n' : Node} {partner : PeerId} {invoice : Invoice}
    {proposal : PaymentProposal} (h : n.proposePayment partner invoice = (.ok proposal, n')) :
    ∃ c, n.channels.get? partner = some c ∧
      c.Proposes n.params n.secrets partner (.proposePayment partner invoice) proposal.txs ∧
      n' = n.setChannel partner (c.awaiting proposal.txs) := by
  simp only [proposePayment, get_bind, lift_bind_ok_iff, idleChannel_eq_ok] at h
  obtain ⟨c, ⟨hc, hr, hs⟩, next, hnext, txs, htxs, h⟩ := h
  cases (modifyChannel_bind_pure hc _ _).symm.trans h
  exact ⟨c, hc, .payment hr hs hnext htxs, rfl⟩

/-- What a counterparty reads and does when it proposes a resolution. -/
theorem proposeUpdate_eq_ok {n n' : Node} {partner : PeerId} {blockTime : UInt32}
    {proposal : UpdateProposal} (h : n.proposeUpdate partner blockTime = (.ok proposal, n')) :
    ∃ c next,
      (n.channels.get? partner = some c ∧ c.role = .counterparty ∧ c.status = .active) ∧
      proposal.secrets = c.snapshot.redeemableSecrets n.secrets blockTime ∧
      c.snapshot.resolve (c.snapshot.redeemableSecrets n.secrets blockTime) blockTime = .ok next ∧
      StateTxs.propose next n.params c.keys .counterparty = .ok proposal.txs ∧
      n' = n.setChannel partner (c.awaiting proposal.txs) := by
  simp only [proposeUpdate, get_bind, lift_bind_ok_iff, idleChannel_eq_ok] at h
  obtain ⟨c, hc, next, hnext, txs, htxs, h⟩ := h
  cases (modifyChannel_bind_pure hc.1 _ _).symm.trans h
  exact ⟨c, next, hc, rfl, hnext, htxs, rfl⟩

theorem proposes_of_proposeUpdate {n n' : Node} {partner : PeerId} {blockTime : UInt32}
    {proposal : UpdateProposal} (h : n.proposeUpdate partner blockTime = (.ok proposal, n')) :
    ∃ c, n.channels.get? partner = some c ∧
      c.Proposes n.params n.secrets partner (.proposeUpdate partner blockTime) proposal.txs ∧
      n' = n.setChannel partner (c.awaiting proposal.txs) := by
  obtain ⟨c, next, ⟨hc, hr, hs⟩, -, hnext, htxs, hn'⟩ := proposeUpdate_eq_ok h
  exact ⟨c, hc, .update hr hs hnext htxs, hn'⟩

/-- What a counterparty reads and does when it receives a payment. -/
theorem receivePayment_eq_ok {n n' : Node} {partner : PeerId} {proposal : PaymentProposal}
    {receipt : PaymentReceipt} :
    n.receivePayment partner proposal = (.ok receipt, n') ↔
      ∃ c invoice expected,
        (n.channels.get? partner = some c ∧ c.role = .counterparty ∧ c.status = .active) ∧
        offeredInvoice c.snapshot proposal.txs.snapshot = .ok invoice ∧
        c.snapshot.offer invoice = .ok expected ∧
        StateTxs.countersign expected proposal.txs c.keys .counterparty n.params =
          .ok receipt.txs ∧
        receipt.secret = n.secrets.get? invoice.hash ∧
        n' = n.setChannel partner (c.withComplete receipt.txs) := by
  simp only [receivePayment, get_bind, lift_bind_ok_iff, idleChannel_eq_ok]
  constructor
  · rintro ⟨c, hc, invoice, hi, expected, he, txs, htxs, h⟩
    cases (modifyChannel_bind_pure hc.1 _ _).symm.trans h
    exact ⟨c, invoice, expected, hc, hi, he, htxs, rfl, rfl⟩
  · rintro ⟨c, invoice, expected, hc, hi, he, htxs, hsecret, rfl⟩
    refine ⟨c, hc, invoice, hi, expected, he, receipt.txs, htxs, ?_⟩
    rw [modifyChannel_bind_pure hc.1, ← hsecret]

theorem answers_of_receivePayment {n n' : Node} {partner : PeerId} {proposal : PaymentProposal}
    {receipt : PaymentReceipt} (h : n.receivePayment partner proposal = (.ok receipt, n')) :
    ∃ c, n.channels.get? partner = some c ∧
      c.Answers n.params partner (.receivePayment partner proposal) proposal.txs receipt.txs ∧
      n' = n.setChannel partner (c.withComplete receipt.txs) := by
  obtain ⟨c, invoice, expected, ⟨hc, hr, hs⟩, hi, he, htxs, -, hn'⟩ := receivePayment_eq_ok.1 h
  exact ⟨c, hc, .payment hr hs hi he htxs, hn'⟩

theorem answers_of_acceptUpdate {n n' : Node} {partner : PeerId} {proposal : UpdateProposal}
    {blockTime : UInt32} {txs : StateTxs}
    (h : n.acceptUpdate partner proposal blockTime = (.ok txs, n')) :
    ∃ c, n.channels.get? partner = some c ∧
      c.Answers n.params partner (.acceptUpdate partner proposal blockTime) proposal.txs txs ∧
      n' = (n.learnSecrets proposal.secrets).setChannel partner (c.withComplete txs) := by
  simp only [acceptUpdate, get_bind, modify_bind, lift_bind_ok_iff, idleChannel_eq_ok] at h
  obtain ⟨c, ⟨hc, hr, hs⟩, ⟨⟩, hsecrets, ⟨⟩, -, expected, he, txs, htxs, h⟩ := h
  rw [modifyChannel_bind_pure (n := n.learnSecrets proposal.secrets) hc] at h
  cases h
  exact ⟨c, hc, .update hr hs hsecrets he htxs, rfl⟩

/-- The secret of a receipt does not touch the channels. -/
theorem channels_confirmPayment (n : Node) (partner : PeerId) (receipt : PaymentReceipt) :
    (n.confirmPayment partner receipt).2.channels =
      (n.finishProposal partner .funder receipt.txs).2.channels := by
  rcases n.confirmPayment_cases partner receipt with heq | ⟨secret, n', hfinish, heq⟩
  · rw [heq]
  · rw [heq, hfinish]
    rfl

/-! ## Operations that open a channel -/

theorem keys_of_proposeChannel {n n' : Node} {e : Entropy} {partner : PeerId} {party : Party}
    (h : (proposeChannel partner).outcome e n = (.ok party, n')) :
    ∃ keys, n.channels.get? partner = none ∧ keys.publish 0 = .ok party.keys ∧
      n' = { n with proposed := n.proposed.insert partner keys } := by
  simp only [proposeChannel, Drawing.outcome_ofActing_bind, Drawing.outcome_draw_bind,
    Drawing.outcome_ofActing, proposeChannelFrom, bind_assoc, get_bind, lift_bind_ok_iff,
    modify_bind, pure_ok_iff] at h
  obtain ⟨⟨⟩, hnew, keys, -, own, hown, rfl, rfl⟩ := h
  exact ⟨keys, checkNew_eq_ok.1 hnew, hown, rfl⟩

theorem opened_of_joinChannel {n n' : Node} {partner : PeerId} {funder reply : Party} {e : Entropy}
    (h : (joinChannel partner funder).outcome e n = (.ok reply, n')) :
    ∃ c : Channel, n.channels.get? partner = none ∧ c.Opened n.params ∧ c.role = .counterparty ∧
      Snapshot.opening funder.keys reply.keys n.params.capacity = .ok c.snapshot ∧
      n' = n.setChannel partner c := by
  simp only [joinChannel, Drawing.outcome_ofActing_bind, Drawing.outcome_draw_bind,
    Drawing.outcome_ofActing, joinChannelFrom, bind_assoc, get_bind, lift_bind_ok_iff, modify_bind,
    pure_ok_iff, UpdateTx.build, SettleTx.build, map_eq_ok] at h
  obtain ⟨⟨⟩, hnew, ⟨⟩, -, keys, hk, own, ho, snapshot, hsnap, _, ⟨du, hdu, rfl⟩, _, ⟨ds, hds, rfl⟩,
    settle, hs, rfl, rfl⟩ := h
  obtain ⟨sig, rfl⟩ := SettleTx.exists_signature_of_sign hs
  obtain ⟨hc, hb⟩ := @StateTxs.Built.of_build snapshot n.params
    ⟨Cosigned.unsigned du, (Cosigned.unsigned ds).withSignature .counterparty sig⟩ hdu
    (by simpa using hds)
  have hopening : Snapshot.opening funder.keys own n.params.capacity =
      .ok (openedChannel keys .counterparty (Cosigned.unsigned du)
        ((Cosigned.unsigned ds).withSignature .counterparty sig)).snapshot := by
    rw [hsnap]
    exact congrArg _ hc.symm
  have hrole : Role.counterparty ≠ .funder := by decide
  have howner := (Snapshot.opening_eq_ok hopening).2.1
  exact ⟨_, checkNew_eq_ok.1 hnew,
    ⟨rfl, rfl, rfl, ⟨_, _, hopening⟩, hb, fun h => absurd h hrole, ⟨own, ho, howner⟩, rfl⟩,
    rfl, hopening, rfl⟩

theorem opened_of_createChannel {n n' : Node} {partner : PeerId} {other : Party} {txs : StateTxs}
    (h : n.createChannel partner other = (.ok txs, n')) :
    ∃ (c : Channel) (keys : ChannelKeys) (own : PartyKeys), c.Opened n.params ∧ c.role = .funder ∧
      n.proposed.get? partner = some keys ∧ keys.publish 0 = .ok own ∧
      Snapshot.opening own other.keys n.params.capacity = .ok c.snapshot ∧
      n' = setChannel { n with proposed := n.proposed.erase partner } partner c := by
  simp only [createChannel, get_bind, lift_bind_ok_iff, UpdateTx.build, SettleTx.build,
    map_eq_ok] at h
  obtain ⟨keys, hk, ⟨⟩, -, otherSig, -, own, ho, snapshot, hsnap, _, ⟨du, hdu, rfl⟩, _,
    ⟨ds, hds, rfl⟩, ⟨⟩, -, settle, hs, ⟨⟩, hverify, h⟩ := h
  rw [bind_of_ok (takeProposed_of_ok hk), modify_bind, pure_ok_iff] at h
  obtain ⟨rfl, rfl⟩ := h
  obtain ⟨sig, rfl⟩ := SettleTx.exists_signature_of_sign hs
  obtain ⟨hc, hb⟩ := @StateTxs.Built.of_build snapshot n.params
    ⟨Cosigned.unsigned du, ((Cosigned.unsigned ds).withSignature .counterparty
      otherSig).withSignature .funder sig⟩ hdu (by simpa using hds)
  have hopening : Snapshot.opening own other.keys n.params.capacity =
      .ok (openedChannel keys .funder (Cosigned.unsigned du) (((Cosigned.unsigned ds).withSignature
        .counterparty otherSig).withSignature .funder sig)).snapshot := by
    rw [hsnap]
    exact congrArg _ hc.symm
  have hproposed : n.proposed.get? partner = some keys := expectProposal_eq_ok.1 hk
  have howner := (Snapshot.opening_eq_ok hopening).1
  exact ⟨_, keys, own, ⟨rfl, rfl, rfl, ⟨_, _, hopening⟩, hb, fun _ => hverify, ⟨own, ho, howner⟩,
    rfl⟩, rfl, hproposed, ho, hopening, rfl⟩

/-! ## Operations that close a channel -/

theorem closeAlone_eq_ok {n n' : Node} {partner : PeerId} {settle : Settlement} {txid : Txid}
    {options : SweepOptions} {sweep : Sweep}
    (h : n.closeAlone partner settle txid options = (.ok sweep, n')) :
    ∃ c w, n.channels.get? partner = some c ∧
      Sweep.build settle txid n.secrets c.role options n.params = .ok w ∧
      w.sign c.keys = .ok sweep ∧
      n' = n.setChannel partner
        { c with pending := none, proposedClose := none, status := .closing } := by
  simp only [closeAlone, get_bind, lift_bind_ok_iff, channel_eq_ok] at h
  obtain ⟨c, hc, ⟨⟩, -, w, hw, sweep', hsweep, h⟩ := h
  cases (modifyChannel_bind_pure hc _ _).symm.trans h
  exact ⟨c, w, hc, hw, hsweep, rfl⟩

/-- What a node does when it proposes a close. -/
theorem proposeClose_eq_ok {n n' : Node} {partner : PeerId} {funding : OutPoint} {close : CloseTx}
    (h : n.proposeClose partner funding = (.ok close, n')) :
    ∃ c, n.channels.get? partner = some c ∧ c.status = .active ∧
      Closing.build c.snapshot c.setup.document funding n.params = .ok close.document ∧
      n' = n.setChannel partner { c with proposedClose := some close } := by
  simp only [proposeClose, get_bind, lift_bind_ok_iff, closableChannel_eq_ok, CloseTx.build,
    CloseTx.sign, bind_eq_ok, map_eq_ok, ite_error_eq_ok, pure_eq_ok] at h
  obtain ⟨c, ⟨hc, hactive⟩, -, ⟨document, hbuild, rfl⟩, -, ⟨-, sig, -, rfl⟩, h⟩ := h
  cases (modifyChannel_bind_pure hc _ _).symm.trans h
  refine ⟨c, hc, hactive, ?_, rfl⟩
  rw [Cosigned.document_withSignature]
  exact hbuild

theorem confirmClose_eq_ok {n n' : Node} {partner : PeerId} {tx : Transaction} {u : Unit}
    (h : n.confirmClose partner tx = (.ok u, n')) :
    ∃ c close signed, n.channels.get? partner = some c ∧ c.proposedClose = some close ∧
      close.adopt tx = .ok signed ∧
      n' = n.setChannel partner { c with proposedClose := none, status := .closed } := by
  simp only [confirmClose, get_bind, lift_bind_ok_iff, channel_eq_ok, expectProposal_eq_ok] at h
  obtain ⟨c, hc, close, hclose, signed, hadopt, h⟩ := h
  cases (modifyChannel_of_get? hc _).symm.trans h
  exact ⟨c, close, signed, hc, hclose, hadopt, rfl⟩

/-! ## One operation -/

/-- How an operation changes the record of the partner it is about: by a move, or by opening the
channel. -/
inductive Changes (n : Node) (partner : PeerId) (op : Operation) : Option Channel → Channel → Prop
  | moved {c c' : Channel} (h : c.Moves n.params n.secrets partner op c') :
      Changes n partner op (some c) c'
  | opened {c? : Option Channel} {c' : Channel} (h : c'.Opened n.params)
      (phase : op.phase = .opening) : Changes n partner op c? c'

/-- What an operation leaves of the keys that were proposed to partners. -/
inductive Proposals (n : Node) : Operation → SortedMap PeerId ChannelKeys → Prop
  | kept {op : Operation} : n.Proposals op n.proposed
  | added {e : Entropy} {partner : PeerId} {keys : ChannelKeys} {own : PartyKeys}
      (publish : keys.publish 0 = .ok own) :
      n.Proposals (.proposeChannel e partner) (n.proposed.insert partner keys)
  | used {partner : PeerId} {other : Party} :
      n.Proposals (.createChannel partner other) (n.proposed.erase partner)

/-- What an operation can do to a node. -/
structure Steps (n : Node) (op : Operation) (n' : Node) : Prop where
  params : n'.params = n.params
  secrets : ∀ hash secret, n'.secrets.get? hash = some secret →
    n.secrets.get? hash = some secret ∨ secret.unlocks hash = true
  known : ∀ hash, n.secrets.contains hash = true → n'.secrets.contains hash = true
  issued : ∀ hash, n'.issued.contains hash = true →
    n.issued.contains hash = true ∨ n'.secrets.contains hash = true
  channels : n'.channels = n.channels ∨ ∃ partner c', op.partner? = some partner ∧
    n'.channels = n.channels.insert partner c' ∧ n.Changes partner op (n.channels.get? partner) c'
  proposed : n.Proposals op n'.proposed

theorem Steps.refl (n : Node) (op : Operation) : n.Steps op n :=
  ⟨rfl, fun _ _ h => .inl h, fun _ h => h, fun _ h => .inl h, .inl rfl, .kept⟩

theorem Steps.setChannel {n : Node} {op : Operation} {partner : PeerId} {c' : Channel}
    (hp : op.partner? = some partner) (h : n.Changes partner op (n.channels.get? partner) c') :
    n.Steps op (n.setChannel partner c') :=
  ⟨rfl, fun _ _ h => .inl h, fun _ h => h, fun _ h => .inl h,
    .inr ⟨partner, c', hp, rfl, h⟩, .kept⟩

/-- A step that then remembers more secrets, which match their hash, is a step. -/
theorem Steps.withSecrets {n n' : Node} {op : Operation} (h : n.Steps op n') {secrets : Secrets}
    (hs : ∀ hash secret, secrets.get? hash = some secret →
      n'.secrets.get? hash = some secret ∨ secret.unlocks hash = true)
    (hk : ∀ hash, n'.secrets.contains hash = true → secrets.contains hash = true) :
    n.Steps op { n' with secrets } :=
  ⟨h.params, fun hash secret hget => (hs hash secret hget).elim (h.secrets hash secret) .inr,
    fun hash hknown => hk hash (h.known hash hknown),
    fun hash hissued => (h.issued hash hissued).imp_right (hk hash), h.channels, h.proposed⟩

theorem Steps.learnSecret {n n' : Node} {op : Operation} (h : n.Steps op n') (secret : Preimage) :
    n.Steps op (n'.learnSecret secret) := by
  refine h.withSecrets (fun hash s hget => ?_) fun _ => SortedMap.contains_insert
  by_cases hh : hash = secret.paymentHash
  · subst hh
    rw [SortedMap.get?_insert_self] at hget
    cases hget
    exact .inr (beq_self_eq_true _)
  · rw [SortedMap.get?_insert_of_ne _ hh] at hget
    exact .inl hget

omit [KeyScheme] in
theorem checkSecrets_eq_ok {secrets : Secrets} :
    checkSecrets secrets = .ok () ↔
      ∀ hash secret, secrets.get? hash = some secret → secret.unlocks hash = true := by
  unfold checkSecrets
  split
  · rename_i hash secret hfind
    have hbad := List.find?_some hfind
    have hget := SortedMap.mem_entries_iff.1 (List.mem_of_find?_eq_some hfind)
    refine iff_of_false (fun h => ?_) fun hall => ?_
    · cases h
    · simp [hall hash secret hget] at hbad
  · rename_i hnone
    refine iff_of_true rfl fun hash secret hget => ?_
    have hgood := List.find?_eq_none.1 hnone (hash, secret) (SortedMap.mem_entries_iff.2 hget)
    simpa using hgood

theorem steps_of_finishProposal (n : Node) {partner : PeerId} {role : Role} {answer : StateTxs}
    {op : Operation} (hp : op.partner? = some partner)
    (h : ∀ c : Channel, c.role = role → c.Confirms partner op answer) :
    n.Steps op (n.finishProposal partner role answer).2 := by
  rcases n.finishProposal_cases partner role answer with ⟨e, heq⟩ | ⟨c, pending, hc, rfl, hpending⟩
  · rw [heq]
    exact .refl n op
  · rw [finishProposal_of_pending hc hpending]
    cases hcomplete : pending.complete answer c.role with
    | ok txs => exact .setChannel hp (hc ▸ .moved (.confirm (h c rfl) hpending hcomplete))
    | error e => exact .setChannel hp (hc ▸ .moved (.drop (h c rfl) hpending hcomplete))

theorem steps_of_createInvoice {n n' : Node} {e : Entropy} {id : UInt64} {amount : Amount}
    {expiry : UInt32} {invoice : Invoice}
    (h : (createInvoice id amount expiry).outcome e n = (.ok invoice, n')) :
    n.Steps (.createInvoice e id amount expiry) n' := by
  simp only [createInvoice, Drawing.outcome_draw_bind, Drawing.outcome_ofActing, createInvoiceFrom,
    Invoice.create, lift_bind_ok_iff, modify_bind, pure_ok_iff, ite_error_eq_ok,
    Except.ok.injEq] at h
  obtain ⟨_, ⟨-, rfl⟩, rfl, rfl⟩ := h
  obtain ⟨hp, hs, hn, -, hc, hk⟩ :=
    (Steps.refl n (.createInvoice e id amount expiry)).learnSecret e.next.1
  refine ⟨hp, hs, hn, fun hash hissued => ?_, hc, hk⟩
  rw [SortedMap.contains, SortedMap.get?_insert] at hissued
  split at hissued
  · rename_i heq
    refine .inr (SortedMap.contains_eq_true_iff.2 ⟨e.next.1, ?_⟩)
    rw [Std.LawfulEqOrd.eq_of_compare heq]
    exact SortedMap.get?_insert_self ..
  · exact .inl hissued

theorem steps_of_proposeChannel {n n' : Node} {e : Entropy} {partner : PeerId} {party : Party}
    (h : (proposeChannel partner).outcome e n = (.ok party, n')) :
    n.Steps (.proposeChannel e partner) n' := by
  obtain ⟨_, -, hpublish, rfl⟩ := keys_of_proposeChannel h
  exact ⟨rfl, fun _ _ h => .inl h, fun _ h => h, fun _ h => .inl h, .inl rfl, .added hpublish⟩

theorem steps_of_createChannel {n n' : Node} {partner : PeerId} {other : Party} {txs : StateTxs}
    (h : n.createChannel partner other = (.ok txs, n')) :
    n.Steps (.createChannel partner other) n' := by
  obtain ⟨c, -, -, hopened, -, -, -, -, rfl⟩ := opened_of_createChannel h
  exact ⟨rfl, fun _ _ h => .inl h, fun _ h => h, fun _ h => .inl h,
    .inr ⟨partner, c, rfl, rfl, .opened hopened rfl⟩, .used⟩

theorem steps_of_acceptUpdate {n n' : Node} {partner : PeerId} {proposal : UpdateProposal}
    {blockTime : UInt32} {txs : StateTxs}
    (h : n.acceptUpdate partner proposal blockTime = (.ok txs, n')) :
    n.Steps (.acceptUpdate partner proposal blockTime) n' := by
  obtain ⟨c, hc, hanswers, rfl⟩ := answers_of_acceptUpdate h
  have hstep : n.Steps (.acceptUpdate partner proposal blockTime)
      (n.setChannel partner { c with complete := txs }) :=
    .setChannel rfl (hc ▸ .moved (.answer hanswers))
  refine hstep.withSecrets (fun hash secret hget => ?_) fun _ => SortedMap.contains_union
  rw [learnSecrets, SortedMap.get?_union, Option.or_eq_some_iff] at hget
  rcases hget with hget | ⟨-, hget⟩
  · cases hanswers with
    | update _ _ hsecrets _ _ => exact .inr (checkSecrets_eq_ok.1 hsecrets hash secret hget)
  · exact .inl hget

theorem steps_of_closeAlone {n n' : Node} {partner : PeerId} {settle : Settlement} {txid : Txid}
    {options : SweepOptions} {sweep : Sweep}
    (h : n.closeAlone partner settle txid options = (.ok sweep, n')) :
    n.Steps (.closeAlone partner settle txid options) n' := by
  obtain ⟨c, _, hc, -, -, rfl⟩ := closeAlone_eq_ok h
  exact .setChannel rfl (hc ▸ .moved .closeAlone)

theorem steps_of_proposeClose {n n' : Node} {partner : PeerId} {funding : OutPoint}
    {close : CloseTx} (h : n.proposeClose partner funding = (.ok close, n')) :
    n.Steps (.proposeClose partner funding) n' := by
  obtain ⟨c, hc, hs, -, rfl⟩ := proposeClose_eq_ok h
  exact .setChannel rfl (hc ▸ .moved (.proposeClose hs))

theorem steps_of_acceptClose {n n' : Node} {partner : PeerId} {close : CloseTx} {tx : Transaction}
    (h : n.acceptClose partner close = (.ok tx, n')) : n.Steps (.acceptClose partner close) n' := by
  simp only [acceptClose, get_bind, lift_bind_ok_iff, closableChannel_eq_ok] at h
  obtain ⟨c, ⟨hc, hs⟩, _, -, ⟨⟩, -, _, -, ⟨⟩, -, _, -, _, -, h⟩ := h
  cases (modifyChannel_bind_pure hc _ _).symm.trans h
  exact .setChannel rfl (hc ▸ .moved (.acceptClose hs))

theorem steps_of_confirmClose {n n' : Node} {partner : PeerId} {tx : Transaction} {u : Unit}
    (h : n.confirmClose partner tx = (.ok u, n')) : n.Steps (.confirmClose partner tx) n' := by
  obtain ⟨c, _, _, hc, hproposed, -, rfl⟩ := confirmClose_eq_ok h
  exact .setChannel rfl (hc ▸ .moved (.confirmClose hproposed))

theorem steps_of_confirmPayment (n : Node) (partner : PeerId) (receipt : PaymentReceipt) :
    n.Steps (.confirmPayment partner receipt) (n.confirmPayment partner receipt).2 := by
  have hstep : n.Steps (.confirmPayment partner receipt)
      (n.finishProposal partner .funder receipt.txs).2 :=
    n.steps_of_finishProposal rfl fun c hr => .payment hr
  rcases n.confirmPayment_cases partner receipt with heq | ⟨secret, n', hfinish, heq⟩
  · rw [heq]
    exact hstep
  · rw [hfinish] at hstep
    rw [heq]
    exact hstep.learnSecret secret

/-- What an atomic computation does to a node, if a success of it is a step. -/
theorem Steps.of_atomic {α : Type} {n : Node} {op : Operation} {x : Acting α} (hx : x.Atomic n)
    (h : ∀ a n', x n = (.ok a, n') → n.Steps op n') : n.Steps op (conclude (x n)).2 := by
  rcases hx.cases with heq | ⟨a, heq⟩
  · show n.Steps op (x n).2
    rw [heq]
    exact .refl n op
  · exact h a _ heq

/-- **Every operation is a step.** -/
theorem perform_step (n : Node) (op : Operation) : n.Steps op (n.perform op).2 := by
  cases op with
  | createInvoice e id amount expiry =>
    exact .of_atomic (n.atomic_createInvoice e id amount expiry) fun _ _ => steps_of_createInvoice
  | learnSecret secret => exact (Steps.refl n _).learnSecret secret
  | proposeChannel e partner =>
    exact .of_atomic (n.atomic_proposeChannel e partner) fun _ _ => steps_of_proposeChannel
  | joinChannel e partner funder =>
    refine .of_atomic (n.atomic_joinChannel e partner funder) fun _ _ h => ?_
    obtain ⟨c, -, hopened, -, -, rfl⟩ := opened_of_joinChannel h
    exact .setChannel rfl (.opened hopened rfl)
  | createChannel partner other =>
    exact .of_atomic (n.atomic_createChannel partner other) fun _ _ => steps_of_createChannel
  | proposePayment partner invoice =>
    refine .of_atomic (n.atomic_proposePayment partner invoice) fun _ _ h => ?_
    obtain ⟨c, hc, hproposes, rfl⟩ := proposes_of_proposePayment h
    exact .setChannel rfl (hc ▸ .moved (.propose hproposes))
  | receivePayment partner proposal =>
    refine .of_atomic (n.atomic_receivePayment partner proposal) fun _ _ h => ?_
    obtain ⟨c, hc, hanswers, rfl⟩ := answers_of_receivePayment h
    exact .setChannel rfl (hc ▸ .moved (.answer hanswers))
  | confirmPayment partner receipt => exact n.steps_of_confirmPayment partner receipt
  | proposeUpdate partner blockTime =>
    refine .of_atomic (n.atomic_proposeUpdate partner blockTime) fun _ _ h => ?_
    obtain ⟨c, hc, hproposes, rfl⟩ := proposes_of_proposeUpdate h
    exact .setChannel rfl (hc ▸ .moved (.propose hproposes))
  | acceptUpdate partner proposal blockTime =>
    exact .of_atomic (n.atomic_acceptUpdate partner proposal blockTime) fun _ _ =>
      steps_of_acceptUpdate
  | confirmUpdate partner answer =>
    exact n.steps_of_finishProposal rfl fun c hr => .update hr
  | closeAlone partner settle txid options =>
    exact .of_atomic (n.atomic_closeAlone partner settle txid options) fun _ _ =>
      steps_of_closeAlone
  | proposeClose partner funding =>
    exact .of_atomic (n.atomic_proposeClose partner funding) fun _ _ => steps_of_proposeClose
  | acceptClose partner close =>
    exact .of_atomic (n.atomic_acceptClose partner close) fun _ _ => steps_of_acceptClose
  | confirmClose partner tx =>
    exact .of_atomic (n.atomic_confirmClose partner tx) fun _ _ => steps_of_confirmClose

/-- What an operation does to the record of one partner. -/
theorem perform_channel (n : Node) (op : Operation) (partner : PeerId) :
    (n.perform op).2.channels.get? partner = n.channels.get? partner ∨
    ∃ c', (n.perform op).2.channels.get? partner = some c' ∧
      n.Changes partner op (n.channels.get? partner) c' := by
  rcases (n.perform_step op).channels with heq | ⟨partner', c', -, heq, h⟩
  · exact .inl (by rw [heq])
  · by_cases hp : partner = partner'
    · subst hp
      exact .inr ⟨c', by rw [heq, SortedMap.get?_insert_self], h⟩
    · exact .inl (by rw [heq, SortedMap.get?_insert_of_ne _ hp])

end Node

end Supersede
