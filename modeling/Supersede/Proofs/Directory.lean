import Supersede.Proofs.Handshake
import Supersede.Proofs.Soundness

/-!
# The directory of a node

About each partner a node holds the record of their channel and the keys of a channel that it has
proposed and not yet created (`Node.entry`). Partners do not meet in the directory, and requests
that fail do not show in it.

**Theorem (`Node.perform_confined`).** An operation that fails leaves the node as it was, except
that a confirmation whose answer does not fit drops the proposal that it was to end
(`Node.Drops`). Whatever its outcome, an operation leaves the entries of all partners that it does
not name as they were.

What a channel was opened with (`Channel.terms`) should stay for good. Proposing and joining a
channel check that there is none yet, but creating one checks only that it was proposed. So a node
that proposes a channel, then joins one that the same partner has proposed, can still create its
own, which takes the place of the one that it has joined.

**Theorem (`Node.replaced_iff_proposed`).** After any run, the terms of a channel can be changed by
further operations exactly when keys for another one are still proposed to the partner. The record
never vanishes, and its terms change at most once: from a channel that the node has joined to one
that it funds.

Both rest on `Node.perform_entry`, which says how an operation can turn the entry of one partner.
-/

namespace Supersede

open Result

variable [KeyScheme]

/-! ## Failures -/

namespace Node

/-- By an operation, a node refuses the answer to its pending proposal: the proposal is dropped, the
channel is active again, and nothing else changes. -/
inductive Drops (n : Node) : Operation → Error → Node → Prop
  | refused {partner : PeerId} {c : Channel} {op : Operation} {answer pending : StateTxs}
      {e : Error} (record : n.channels.get? partner = some c)
      (confirms : c.Confirms partner op answer) (awaits : c.pending = some pending)
      (misfit : pending.complete answer c.role = .error e) :
      n.Drops op e (n.setChannel partner { c with pending := none, status := .active })

theorem drops_of_finishProposal {n : Node} {partner : PeerId} {role : Role} {answer : StateTxs}
    {op : Operation} {e : Error}
    (hconfirms : ∀ c : Channel, c.role = role → c.Confirms partner op answer)
    (h : (n.finishProposal partner role answer).1 = .error e) :
    (n.finishProposal partner role answer).2 = n ∨
      n.Drops op e (n.finishProposal partner role answer).2 := by
  rcases n.finishProposal_cases partner role answer with ⟨_, heq⟩ | ⟨c, pending, hc, rfl, hpending⟩
  · exact .inl (congrArg Prod.snd heq)
  · rw [finishProposal_of_pending hc hpending] at h ⊢
    cases hcomplete : pending.complete answer c.role with
    | ok txs =>
      rw [hcomplete] at h
      cases h
    | error e' =>
      rw [hcomplete] at h
      cases h
      exact .inr (.refused hc (hconfirms c rfl) hpending hcomplete)

/-- A confirmation of a payment fails only where the proposal does not end well. -/
theorem confirmPayment_eq_finishProposal {n : Node} {partner : PeerId} {receipt : PaymentReceipt}
    {e : Error} (h : (n.confirmPayment partner receipt).1 = .error e) :
    n.confirmPayment partner receipt = n.finishProposal partner .funder receipt.txs := by
  rcases n.confirmPayment_cases partner receipt with heq | ⟨secret, n', -, heq⟩
  · exact heq
  · rw [heq] at h
    cases h

/-- What is left of a node after an operation that fails. -/
theorem eq_or_drops_of_error {n : Node} {op : Operation} {e : Error}
    (h : (n.perform op).1 = .error e) :
    (n.perform op).2 = n ∨ n.Drops op e (n.perform op).2 := by
  cases op with
  | createInvoice en id amount expiry =>
    exact .inl ((n.atomic_createInvoice en id amount expiry).conclude h)
  | learnSecret => cases h
  | proposeChannel en partner => exact .inl ((n.atomic_proposeChannel en partner).conclude h)
  | joinChannel en partner funder =>
    exact .inl ((n.atomic_joinChannel en partner funder).conclude h)
  | createChannel partner other => exact .inl ((n.atomic_createChannel partner other).conclude h)
  | proposePayment partner invoice =>
    exact .inl ((n.atomic_proposePayment partner invoice).conclude h)
  | receivePayment partner proposal =>
    exact .inl ((n.atomic_receivePayment partner proposal).conclude h)
  | confirmPayment partner receipt =>
    have heq : n.perform (.confirmPayment partner receipt) = _ :=
      confirmPayment_eq_finishProposal h
    rw [heq] at h ⊢
    exact drops_of_finishProposal (fun c hr => .payment hr) h
  | proposeUpdate partner blockTime =>
    exact .inl ((n.atomic_proposeUpdate partner blockTime).conclude h)
  | acceptUpdate partner proposal blockTime =>
    exact .inl ((n.atomic_acceptUpdate partner proposal blockTime).conclude h)
  | confirmUpdate partner answer => exact drops_of_finishProposal (fun c hr => .update hr) h
  | closeAlone partner settle txid options =>
    exact .inl ((n.atomic_closeAlone partner settle txid options).conclude h)
  | proposeClose partner funding => exact .inl ((n.atomic_proposeClose partner funding).conclude h)
  | acceptClose partner close => exact .inl ((n.atomic_acceptClose partner close).conclude h)
  | confirmClose partner tx => exact .inl ((n.atomic_confirmClose partner tx).conclude h)

end Node

/-! ## Entries -/

/-- What a node holds about one partner. -/
structure Entry where
  record : Option Channel
  keys : Option ChannelKeys

/-- The entry of a partner. -/
def Node.entry (n : Node) (partner : PeerId) : Entry :=
  ⟨n.channels.get? partner, n.proposed.get? partner⟩

/-- How operations turn the entry of one partner. Only the creation of a channel does not look
whether there is a record. -/
inductive Entry.Turns (p : Params) (known : Secrets) (partner : PeerId) :
    Entry → Operation → Entry → Prop
  | kept {entry : Entry} {op : Operation} : Turns p known partner entry op entry
  | moved {c c' : Channel} {keys? : Option ChannelKeys} {op : Operation}
      (h : c.Moves p known partner op c') :
      Turns p known partner ⟨some c, keys?⟩ op ⟨some c', keys?⟩
  | proposed {e : Entropy} {keys : ChannelKeys} {own : PartyKeys} {keys? : Option ChannelKeys}
      (publish : keys.publish 0 = .ok own) :
      Turns p known partner ⟨none, keys?⟩ (.proposeChannel e partner) ⟨none, some keys⟩
  | joined {e : Entropy} {funder : Party} {c : Channel} {keys? : Option ChannelKeys}
      (opened : c.Opened p) (role : c.role = .counterparty) :
      Turns p known partner ⟨none, keys?⟩ (.joinChannel e partner funder) ⟨some c, keys?⟩
  | created {other : Party} {c : Channel} {c? : Option Channel} {keys : ChannelKeys}
      (opened : c.Opened p) (role : c.role = .funder) :
      Turns p known partner ⟨c?, some keys⟩ (.createChannel partner other) ⟨some c, none⟩

namespace Node

theorem Proposals.get?_of_ne {n : Node} {op : Operation} {proposed : SortedMap PeerId ChannelKeys}
    (h : n.Proposals op proposed) {partner : PeerId} (hp : op.partner? ≠ some partner) :
    proposed.get? partner = n.proposed.get? partner := by
  cases h with
  | kept => rfl
  | added => exact SortedMap.get?_insert_of_ne _ (fun heq => hp (congrArg some heq.symm)) _
  | used => exact SortedMap.get?_erase_of_ne _ fun heq => hp (congrArg some heq.symm)

theorem Proposals.eq_of_phase {n : Node} {op : Operation} {proposed : SortedMap PeerId ChannelKeys}
    (h : n.Proposals op proposed) (hphase : op.phase ≠ .opening) : proposed = n.proposed := by
  cases h with
  | kept => rfl
  | added | used => exact absurd rfl hphase

/-- An operation leaves the entries of all partners that it does not name. -/
theorem entry_of_partner?_ne {n : Node} {op : Operation} {partner : PeerId}
    (hp : op.partner? ≠ some partner) : (n.perform op).2.entry partner = n.entry partner := by
  have hstep := n.perform_step op
  have hchannel : (n.perform op).2.channels.get? partner = n.channels.get? partner := by
    rcases hstep.channels with heq | ⟨partner', c', hpartner, heq, -⟩
    · rw [heq]
    · rw [heq, SortedMap.get?_insert_of_ne]
      rintro rfl
      exact hp hpartner
  rw [entry, entry, hchannel, hstep.proposed.get?_of_ne hp]

theorem entry_run_of_partner?_ne {n : Node} {ops : List Operation} {partner : PeerId}
    (hp : ∀ op ∈ ops, op.partner? ≠ some partner) :
    (n.run ops).entry partner = n.entry partner := by
  induction ops generalizing n with
  | nil => rfl
  | cons op ops ih =>
    obtain ⟨hop, hops⟩ := List.forall_mem_cons.1 hp
    rw [run_cons rfl, ih hops, entry_of_partner?_ne hop]

/-- What an atomic computation does to an entry, if a success of it is a turn. -/
theorem turns_of_atomic {α : Type} {n : Node} {p : Params} {known : Secrets} {partner : PeerId}
    {op : Operation} {x : Acting α} (hx : x.Atomic n)
    (h : ∀ a n', x n = (.ok a, n') →
      Entry.Turns p known partner (n.entry partner) op (n'.entry partner)) :
    Entry.Turns p known partner (n.entry partner) op ((conclude (x n)).2.entry partner) := by
  rcases hx.cases with heq | ⟨a, heq⟩
  · rw [conclude, heq]
    exact .kept
  · exact h a _ heq

/-- How the operations that open a channel turn the entry of the partner that they name. -/
theorem perform_entry_opening (n : Node) {op : Operation} {partner : PeerId}
    (hphase : op.phase = .opening) (hp : op.partner? = some partner) :
    Entry.Turns n.params n.secrets partner (n.entry partner) op
      ((n.perform op).2.entry partner) := by
  cases op with
  | proposeChannel e partner =>
    cases hp
    refine turns_of_atomic (n.atomic_proposeChannel e partner) fun a n' h => ?_
    obtain ⟨keys, hnew, hpublish, rfl⟩ := keys_of_proposeChannel h
    simp only [entry, hnew, SortedMap.get?_insert_self]
    exact .proposed hpublish
  | joinChannel e partner funder =>
    cases hp
    refine turns_of_atomic (n.atomic_joinChannel e partner funder) fun a n' h => ?_
    obtain ⟨c, hnew, hopened, hrole, -, rfl⟩ := opened_of_joinChannel h
    simp only [entry, hnew, get?_setChannel_self]
    exact .joined hopened hrole
  | createChannel partner other =>
    cases hp
    refine turns_of_atomic (n.atomic_createChannel partner other) fun a n' h => ?_
    obtain ⟨c, keys, own, hopened, hrole, hkeys, -, -, rfl⟩ := opened_of_createChannel h
    have herased : (setChannel { n with proposed := n.proposed.erase partner } partner
        c).proposed.get? partner = none := SortedMap.get?_erase_self ..
    simp only [entry, get?_setChannel_self, hkeys, herased]
    exact .created hopened hrole
  | _ => cases hphase

/-- How an operation turns the entry of a partner. -/
theorem perform_entry (n : Node) (op : Operation) (partner : PeerId) :
    Entry.Turns n.params n.secrets partner (n.entry partner) op
      ((n.perform op).2.entry partner) := by
  by_cases hp : op.partner? = some partner
  · by_cases hphase : op.phase = .opening
    · exact n.perform_entry_opening hphase hp
    · have hproposed := (n.perform_step op).proposed.eq_of_phase hphase
      rw [entry, entry, hproposed]
      rcases n.perform_channel op partner with heq | ⟨c', heq, hchange⟩
      · rw [heq]
        exact .kept
      · rw [heq]
        generalize n.channels.get? partner = old at hchange ⊢
        cases hchange with
        | moved h => exact .moved h
        | opened _ h => exact absurd h hphase
  · rw [entry_of_partner?_ne hp]
    exact .kept

/-- What every turn keeps of an entry holds after any run. -/
theorem entry_run {n : Node} {partner : PeerId} {P : Entry → Prop}
    (hstep : ∀ {known : Secrets} {entry entry' : Entry} {op : Operation}, P entry →
      Entry.Turns n.params known partner entry op entry' → P entry')
    (h : P (n.entry partner)) (ops : List Operation) : P ((n.run ops).entry partner) := by
  induction ops generalizing n with
  | nil => exact h
  | cons op ops ih =>
    refine ih (n := (n.perform op).2) (fun hentry hturn => ?_)
      (hstep h (n.perform_entry op partner))
    rw [(n.perform_step op).params] at hturn
    exact hstep hentry hturn

/-- **Operations are confined.** An operation that fails leaves the node as it was or drops the
proposal that it was to end, and no operation touches what the node holds about other partners. -/
theorem perform_confined (n : Node) (op : Operation) :
    (∀ e, (n.perform op).1 = .error e →
      (n.perform op).2 = n ∨ n.Drops op e (n.perform op).2) ∧
    ∀ partner, op.partner? ≠ some partner →
      (n.perform op).2.channels.get? partner = n.channels.get? partner ∧
      (n.perform op).2.proposed.get? partner = n.proposed.get? partner := by
  refine ⟨fun e h => eq_or_drops_of_error h, fun partner hp => ?_⟩
  have hentry := entry_of_partner?_ne (n := n) hp
  exact ⟨congrArg Entry.record hentry, congrArg Entry.keys hentry⟩

end Node

/-! ## Terms -/

/-- What a channel was opened with: the keys, the side, and the transaction that funds it. -/
def Channel.terms (c : Channel) : ChannelKeys × Role × UpdateTx := (c.keys, c.role, c.setup)

theorem Channel.Moves.terms_eq {p : Params} {known : Secrets} {partner : PeerId} {op : Operation}
    {c c' : Channel} (h : c.Moves p known partner op c') : c'.terms = c.terms := by
  cases h <;> rfl

omit [KeyScheme] in
theorem Channel.role_of_terms {c c' : Channel} (h : c'.terms = c.terms) : c'.role = c.role :=
  congrArg (·.2.1) h

namespace Entry

variable {p : Params} {known : Secrets} {partner : PeerId} {entry entry' : Entry} {op : Operation}

/-- Keys that are proposed can be published, and a channel that stands beside them was joined. -/
structure Sound (entry : Entry) : Prop where
  publish : ∀ keys, entry.keys = some keys → ∃ own, keys.publish 0 = .ok own
  joined : ∀ c keys, entry.record = some c → entry.keys = some keys → c.role = .counterparty

theorem Sound.turns (h : entry.Sound) (ht : Turns p known partner entry op entry') :
    entry'.Sound := by
  cases ht with
  | kept => exact h
  | @moved c c' keys? _ hm =>
    refine ⟨h.publish, fun d keys hd hkeys => ?_⟩
    cases hd
    rw [Channel.role_of_terms hm.terms_eq]
    exact h.joined c keys rfl hkeys
  | proposed hpublish =>
    refine ⟨fun keys hkeys => ?_, fun _ _ hd => (nomatch hd)⟩
    cases hkeys
    exact ⟨_, hpublish⟩
  | joined _ hrole =>
    refine ⟨h.publish, fun d _ hd _ => ?_⟩
    cases hd
    exact hrole
  | created => exact ⟨fun _ hkeys => (nomatch hkeys), fun _ _ _ hkeys => (nomatch hkeys)⟩

/-- An entry holds a channel on the given terms, with no keys proposed beside it. -/
def Fixed (terms : ChannelKeys × Role × UpdateTx) (entry : Entry) : Prop :=
  entry.keys = none ∧ ∃ c, entry.record = some c ∧ c.terms = terms

theorem Fixed.turns {terms : ChannelKeys × Role × UpdateTx} (h : entry.Fixed terms)
    (ht : Turns p known partner entry op entry') : entry'.Fixed terms := by
  obtain ⟨hkeys, c, hc, hterms⟩ := h
  cases ht with
  | kept => exact ⟨hkeys, c, hc, hterms⟩
  | moved hm =>
    cases hc
    exact ⟨hkeys, _, rfl, hm.terms_eq.trans hterms⟩
  | proposed | joined => cases hc
  | created => cases hkeys

/-- An entry holds a channel on the terms of another, or one that the node funds in place of the
other that it has joined. -/
def Replaces (c : Channel) (entry : Entry) : Prop :=
  ∃ c', entry.record = some c' ∧
    (c'.terms = c.terms ∨ c.role = .counterparty ∧ c'.role = .funder)

theorem Replaces.turns {c : Channel} (h : entry.Replaces c) (hs : entry.Sound)
    (ht : Turns p known partner entry op entry') : entry'.Replaces c := by
  obtain ⟨c', hc', hterms⟩ := h
  cases ht with
  | kept => exact ⟨c', hc', hterms⟩
  | moved hm =>
    cases hc'
    refine ⟨_, rfl, ?_⟩
    rw [hm.terms_eq, Channel.role_of_terms hm.terms_eq]
    exact hterms
  | proposed | joined => cases hc'
  | created _ hrole =>
    -- The channel that gives way was joined, so it is the one that we started from.
    have hjoined := hs.joined c' _ hc' rfl
    rcases hterms with hterms | ⟨-, hfunder⟩
    · exact ⟨_, rfl, .inr ⟨(Channel.role_of_terms hterms).symm.trans hjoined, hrole⟩⟩
    · rw [hjoined] at hfunder
      cases hfunder

end Entry

/-! ## Replacement -/

omit [KeyScheme] in
theorem StateTxs.Built.lockTime_lt {p : Params} {t : StateTxs} (h : t.Built p) :
    p.lockTimeBase.toNat + t.snapshot.state.toNat + 1 < UInt32.size := by
  have hsettle := h.settle
  simp only [Settlement.build, bind_eq_ok, pure_eq_ok] at hsettle
  obtain ⟨-, -, -, -, lockTime, hlock, -⟩ := hsettle
  rw [← Params.toNat_of_settleLockTime hlock]
  exact lockTime.toNat_lt

namespace Node

theorem sound_entry_run (id : PeerId) (params : Params) (ops : List Operation) (partner : PeerId) :
    (((create id params).run ops).entry partner).Sound := by
  have hempty : (create id params).entry partner = ⟨none, none⟩ := rfl
  refine entry_run (P := Entry.Sound) Entry.Sound.turns ?_ ops
  rw [hempty]
  exact ⟨fun _ hkeys => (nomatch hkeys), fun _ _ hc => (nomatch hc)⟩

variable [LawfulKeyScheme]

/-- With keys that are proposed, a node can create a channel with whoever signs the refund, also
where it has one. -/
theorem exists_createChannel {n : Node} {partner : PeerId} {keys : ChannelKeys} {k : PartyKeys}
    (hproposed : n.proposed.get? partner = some keys) (hk : keys.publish 0 = .ok k)
    (hlock : n.params.lockTimeBase.toNat + 1 < UInt32.size) :
    ∃ other c, (n.perform (.createChannel partner other)).2.channels.get? partner = some c ∧
      c.role = .funder := by
  obtain ⟨du, ds, hdu, hds⟩ := StateTxs.exists_build
    (Snapshot.conserved_first n.params.capacity k k) hlock
  obtain ⟨sig, -, hsig⟩ := SettleTx.exists_sign (.unsigned ds) .counterparty hds hk
  obtain ⟨settle, hcreate⟩ := createChannel_of_keys hproposed hk hk hdu hds hsig
  refine ⟨{ keys := k, signatures := { settle := some sig } },
    openedChannel keys .funder (.unsigned du) settle, ?_, rfl⟩
  rw [perform_of_ok (.createChannel partner _) rfl hcreate]
  exact get?_setChannel_self ..

/-- **When a channel can be replaced.** After any run, further operations can change the keys, the
side or the funding transaction of a channel exactly when keys are still proposed to the partner. In
any case there is always a record, and all it can change to is a channel that the node funds in
place of one that it has joined. -/
theorem replaced_iff_proposed (id : PeerId) (params : Params) (ops : List Operation)
    (partner : PeerId) (c : Channel)
    (hc : ((create id params).run ops).channels.get? partner = some c) :
    ((∃ later c', (((create id params).run ops).run later).channels.get? partner = some c' ∧
        c'.terms ≠ c.terms) ↔
      ∃ keys, ((create id params).run ops).proposed.get? partner = some keys) ∧
    ∀ later, ∃ c', (((create id params).run ops).run later).channels.get? partner = some c' ∧
      (c'.terms = c.terms ∨ c.role = .counterparty ∧ c'.role = .funder) := by
  have hsound := sound_entry_run id params ops partner
  have hinv := ((inv_create id params).run ops).channels partner c hc
  generalize (create id params).run ops = n at hc hsound hinv ⊢
  refine ⟨⟨?_, ?_⟩, fun later => ?_⟩
  · rintro ⟨later, c', hc', hne⟩
    cases hkeys : n.proposed.get? partner with
    | some keys => exact ⟨keys, rfl⟩
    | none =>
      have hfixed : ((n.run later).entry partner).Fixed c.terms :=
        entry_run (P := Entry.Fixed c.terms) Entry.Fixed.turns ⟨hkeys, c, hc, rfl⟩ later
      obtain ⟨-, d, hd, hterms⟩ := hfixed
      obtain rfl := Option.some.inj (hd.symm.trans hc')
      exact absurd hterms hne
  · rintro ⟨keys, hkeys⟩
    obtain ⟨k, hk⟩ := hsound.publish keys hkeys
    have hlock := hinv.built.lockTime_lt
    obtain ⟨other, c', hc', hrole⟩ := exists_createChannel hkeys hk (by omega)
    refine ⟨[.createChannel partner other], c', hc', fun hterms => ?_⟩
    have hjoined := hsound.joined c keys hc hkeys
    rw [← Channel.role_of_terms hterms, hrole] at hjoined
    cases hjoined
  · have hreplaces : ((n.run later).entry partner).Sound ∧
        ((n.run later).entry partner).Replaces c :=
      entry_run (P := fun entry => entry.Sound ∧ entry.Replaces c)
        (fun h ht => ⟨h.1.turns ht, h.2.turns h.1 ht⟩) ⟨hsound, c, hc, .inl rfl⟩ later
    exact hreplaces.2

omit [KeyScheme] [LawfulKeyScheme] in
/-- A node with the default parameters proposes a channel, joins one with the same partner, and
creates its own in place of it. -/
theorem replaced_zeros :
    letI : KeyScheme := .secp256k1
    ∃ ops c, ((create ⟨0⟩ {}).run ops).channels.get? ⟨1⟩ = some c ∧
      ∃ later c', (((create ⟨0⟩ {}).run ops).run later).channels.get? ⟨1⟩ = some c' ∧
        c'.terms ≠ c.terms := by
  let _ : KeyScheme := .secp256k1
  have _ : LawfulKeyScheme := lawful_secp256k1
  obtain ⟨keys, k, -, hkeys, hk, -⟩ := exists_keys_zeros
  obtain ⟨du, ds, hdu, hds⟩ := StateTxs.exists_build (Snapshot.conserved_first 1000000 k k)
    (show ({} : Params).lockTimeBase.toNat + (0 : UInt32).toNat + 1 < UInt32.size by decide)
  let n : Node := { create ⟨0⟩ {} with proposed := SortedMap.insert ∅ ⟨1⟩ keys }
  have hpropose : (proposeChannel ⟨1⟩).outcome .zeros (create ⟨0⟩ {}) = (.ok _, n) :=
    proposeChannel_of_keys rfl hkeys hk
  have hnew : n.channels.get? ⟨1⟩ = none := rfl
  obtain ⟨sig, hjoin, -⟩ := joinChannel_of_keys hnew hkeys hk hk hdu hds
  have hrun : (create ⟨0⟩ {}).run
      [.proposeChannel .zeros ⟨1⟩, .joinChannel .zeros ⟨1⟩ { keys := k }] = _ :=
    (run_cons (perform_of_ok (.proposeChannel .zeros ⟨1⟩) rfl hpropose) _).trans
      (run_cons (perform_of_ok (.joinChannel .zeros ⟨1⟩ { keys := k }) rfl hjoin) [])
  have hc := congrArg (·.channels.get? ⟨1⟩) hrun
  have hproposed := congrArg (·.proposed.get? ⟨1⟩) hrun
  exact ⟨_, _, hc, (replaced_iff_proposed ⟨0⟩ {} _ ⟨1⟩ _ hc).1.2 ⟨keys, hproposed⟩⟩

end Node

end Supersede
