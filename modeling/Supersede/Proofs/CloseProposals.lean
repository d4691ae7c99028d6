import Mathlib.Logic.Relation
import Supersede.Proofs.CooperativeClose

/-!
# Which state a confirmed close pays

A proposed close does not block the channel. Payments and resolutions may be completed before the
partner signs it, and the proposer, who confirms the signed transaction, compares it with the close
that it has stored and not with its complete state. So a confirmed close need not pay the newest
state (`Node.stale_close_confirmed`).

* `Node.proposedClose_perform`: an operation stores a close only by proposing it, and where it
  leaves a stored one, the complete state stays or moves to a next one.
* `Node.LastClose`, `Node.exists_lastClose`: a stored close is the last one that was proposed, and
  all that the channel has done since are payments and resolutions.

**Theorem (`Node.confirmed_close_origin`).** The transaction of a confirmed close is that of the
last close that the node proposed to the partner, with valid signatures of both sides, and pays the
complete state of that time. It pays the complete state of the confirmation exactly if both states
have the same number.
-/

namespace Supersede

open Result Relation

variable [KeyScheme]

/-- Later states have greater numbers. -/
theorem Snapshot.state_of_reflTransGen {c d : Snapshot} (h : ReflTransGen Snapshot.Next c d) :
    c.state.toNat ≤ d.state.toNat ∧ (c.state = d.state → c = d) := by
  induction h with
  | refl => exact ⟨Nat.le_refl _, fun _ => rfl⟩
  | @tail d e _ hnext ih =>
    have hstate := hnext.follows.state
    refine ⟨by omega, fun heq => ?_⟩
    rw [heq] at ih
    omega

/-! ## Adopted closes -/

/-- A transaction is that of a close, and carries the signatures of both sides on it. -/
structure CloseTx.Carries (signed : CloseTx) (tx : Transaction) : Prop where
  template : tx.withWitness 0 [] = signed.document.template
  valid : signed.FullySigned
  funder : ∃ sig, signed.signature .funder = some sig ∧
    witnessSignature (firstWitness tx) 1 .funder = .ok sig
  counterparty : ∃ sig, signed.signature .counterparty = some sig ∧
    witnessSignature (firstWitness tx) 2 .counterparty = .ok sig

theorem CloseTx.carries_of_adopt {close signed : CloseTx} {tx : Transaction}
    (h : close.adopt tx = .ok signed) : signed.document = close.document ∧ signed.Carries tx := by
  simp only [adopt, ite_error_eq_ok, bind_eq_ok, pure_eq_ok, not_not, ne_eq] at h
  obtain ⟨htemplate, f, hf, g, hg, ⟨⟩, hverify, rfl⟩ := h
  exact ⟨rfl, htemplate, ⟨hverify, Cosigned.verify_eq_ok_iff.1 hverify⟩, ⟨f, rfl, hf⟩, g, rfl, hg⟩

namespace Node

/-! ## Stored closes -/

/-- A close is stored by an operation that proposes it, or was stored before. An operation that
leaves what was stored keeps the complete state or moves it to a next one. -/
theorem proposedClose_perform {n : Node} (hinv : n.Inv) {op : Operation} {partner : PeerId}
    {c : Channel} {close : CloseTx} (hc : (n.perform op).2.channels.get? partner = some c)
    (hp : c.proposedClose = some close) :
    (∃ funding, op = .proposeClose partner funding ∧
      n.proposeClose partner funding = (.ok close, (n.perform op).2)) ∨
    (∀ funding close' n', op = .proposeClose partner funding →
      n.proposeClose partner funding ≠ (.ok close', n')) ∧
      ∃ c₀, n.channels.get? partner = some c₀ ∧ c₀.proposedClose = some close ∧
        c.terms = c₀.terms ∧ (c.snapshot = c₀.snapshot ∨ c₀.snapshot.Next c.snapshot) := by
  by_cases hproposes : ∃ funding close' n', op = .proposeClose partner funding ∧
      n.proposeClose partner funding = (.ok close', n')
  · obtain ⟨funding, close', n', rfl, hpropose⟩ := hproposes
    have hperform := perform_of_ok (.proposeClose partner funding) rfl hpropose
    rw [hperform] at hc ⊢
    obtain ⟨c₀, -, -, -, rfl⟩ := proposeClose_eq_ok hpropose
    rw [get?_setChannel_self] at hc
    cases hc
    cases hp
    exact .inl ⟨funding, rfl, hpropose⟩
  · refine .inr ⟨fun funding close' n' hop hok => hproposes ⟨funding, close', n', hop, hok⟩, ?_⟩
    rcases n.perform_channel op partner with heq | ⟨c', heq, hchange⟩
    · exact ⟨c, heq.symm.trans hc, hp, rfl, .inl rfl⟩
    · obtain rfl := Option.some.inj (heq.symm.trans hc)
      generalize hold : n.channels.get? partner = old at hchange
      cases hchange with
      | opened hopened =>
        rw [hopened.proposedClose] at hp
        cases hp
      | @moved c₀ _ hm =>
        have hnext := (hinv.channels partner c₀ hold).snapshot_moves hm
        have hterms := hm.terms_eq
        cases hm with
        | propose | answer | confirm | drop => exact ⟨c₀, rfl, hp, hterms, hnext⟩
        | closeAlone | acceptClose | confirmClose => cases hp
        | @proposeClose funding close' =>
          -- The proposal failed, so the node is as it was.
          rcases (n.atomic_proposeClose partner funding).cases with hsame | ⟨a, hok⟩
          · have hkept : n.channels.get? partner = some _ :=
              (congrArg (·.channels.get? partner) hsame).symm.trans hc
            exact ⟨_, hold.symm.trans hkept, hp, rfl, .inl rfl⟩
          · exact absurd ⟨funding, a, _, rfl, hok⟩ hproposes

/-- After the operations `before`, the node proposes a close to a partner, and none of the
operations `after` proposes another one to the same partner. -/
structure LastClose (n : Node) (partner : PeerId) (before : List Operation) (funding : OutPoint)
    (after : List Operation) (close : CloseTx) : Prop where
  proposed : ∃ n', (n.run before).proposeClose partner funding = (.ok close, n')
  last : ∀ mid funding' later, after = mid ++ .proposeClose partner funding' :: later →
    ∀ close' n', (n.run (before ++ .proposeClose partner funding :: mid)).proposeClose partner
      funding' ≠ (.ok close', n')

theorem LastClose.concat {n : Node} {partner : PeerId} {before after : List Operation}
    {funding : OutPoint} {close : CloseTx} {op : Operation}
    (h : n.LastClose partner before funding after close)
    (hop : ∀ funding' close' n', op = .proposeClose partner funding' →
      (n.run (before ++ .proposeClose partner funding :: after)).proposeClose partner funding' ≠
        (.ok close', n')) :
    n.LastClose partner before funding (after ++ [op]) close := by
  refine ⟨h.proposed, fun mid funding' later heq close' n' => ?_⟩
  rcases List.eq_nil_or_concat later with rfl | ⟨later', op', rfl⟩
  · -- The operation at hand is the one that was added.
    obtain ⟨rfl, hlast⟩ := List.append_inj' heq rfl
    exact hop funding' close' n' (List.cons.inj hlast).1
  · rw [List.concat_eq_append, ← List.cons_append, ← List.append_assoc] at heq
    exact h.last mid funding' later' (List.append_inj' heq rfl).1 close' n'

/-- A stored close is the last one that the node proposed, on the same terms, and the channel has
moved only by payments and resolutions since. -/
theorem exists_lastClose {id : PeerId} {params : Params} {ops : List Operation} {partner : PeerId}
    {c : Channel} {close : CloseTx}
    (hc : ((create id params).run ops).channels.get? partner = some c)
    (hp : c.proposedClose = some close) :
    ∃ before funding after c₀, ops = before ++ .proposeClose partner funding :: after ∧
      (create id params).LastClose partner before funding after close ∧
      ((create id params).run before).channels.get? partner = some c₀ ∧ c.terms = c₀.terms ∧
      ReflTransGen Snapshot.Next c₀.snapshot c.snapshot := by
  induction ops using List.reverseRecOn generalizing c with
  | nil => cases hc
  | append_singleton ops op ih =>
    rw [run_concat] at hc
    have hinv := (inv_create id params).run ops
    rcases proposedClose_perform hinv hc hp with
      ⟨funding, rfl, hpropose⟩ | ⟨hop, c₁, hc₁, hp₁, hterms, hnext⟩
    · obtain ⟨c₀, hc₀, -, -, hn'⟩ := proposeClose_eq_ok hpropose
      rw [hn', get?_setChannel_self] at hc
      cases hc
      refine ⟨ops, funding, [], c₀, rfl, ⟨⟨_, hpropose⟩, ?_⟩, hc₀, rfl, .refl⟩
      intro mid funding' later heq
      simp at heq
    · obtain ⟨before, funding, after, c₀, rfl, hlast, hc₀, hterms₀, hmoved⟩ := ih hc₁ hp₁
      refine ⟨before, funding, after ++ [op], c₀, by simp, hlast.concat hop, hc₀,
        hterms.trans hterms₀, ?_⟩
      rcases hnext with heq | hnext
      · rw [heq]
        exact hmoved
      · exact hmoved.tail hnext

/-- **Which state a confirmed close pays.** Whatever a node did before, if it confirms a close by
some transaction, that is the transaction of the last close that it proposed to the partner, with
valid signatures of both sides. The close was built from the complete state of that time, and the
state has moved since by the payments and resolutions that were completed. So the transaction pays
the newest complete state exactly if the two states have the same number. -/
theorem confirmed_close_origin (id : PeerId) (params : Params) (ops : List Operation)
    (partner : PeerId) (tx : Transaction) (n' : Node)
    (h : ((create id params).run ops).confirmClose partner tx = (.ok (), n')) :
    ∃ (before after : List Operation) (funding : OutPoint) (close signed : CloseTx)
      (c₀ c : Channel),
      ops = before ++ .proposeClose partner funding :: after ∧
      (create id params).LastClose partner before funding after close ∧
      ((create id params).run before).channels.get? partner = some c₀ ∧
      ((create id params).run ops).channels.get? partner = some c ∧
      c.proposedClose = some close ∧
      close.document.Built c₀.snapshot c.setup.document.script funding params ∧
      signed.document = close.document ∧ signed.Carries tx ∧
      ReflTransGen Snapshot.Next c₀.snapshot c.snapshot ∧
      (close.document.snapshot = c.snapshot ↔ c₀.snapshot.state = c.snapshot.state) := by
  obtain ⟨c, close, signed, hc, hp, hadopt, -⟩ := confirmClose_eq_ok h
  obtain ⟨hdocument, hcarries⟩ := CloseTx.carries_of_adopt hadopt
  obtain ⟨before, funding, after, c₀, hops, hlast, hc₀, hterms, hmoved⟩ := exists_lastClose hc hp
  obtain ⟨n₁, hpropose⟩ := hlast.proposed
  obtain ⟨d, hd, -, hbuild, -⟩ := proposeClose_eq_ok hpropose
  obtain rfl := Option.some.inj (hd.symm.trans hc₀)
  have hsetup : c.setup = d.setup := congrArg (·.2.2) hterms
  have hbuilt := Closing.built_of_build hbuild
  rw [params_run, ← hsetup] at hbuilt
  refine ⟨before, after, funding, close, signed, d, c, hops, hlast, hd, hc, hp, hbuilt, hdocument,
    hcarries, hmoved, ?_⟩
  rw [hbuilt.snapshot]
  exact ⟨congrArg Snapshot.state, (Snapshot.state_of_reflTransGen hmoved).2⟩

/-! ## A close of a state that has been left behind -/

/-- A payment that the counterparty receives after it has proposed a close does not keep it from
confirming the close. -/
theorem exists_stale_close [LawfulKeyScheme] {n : Node} {partner : PeerId} {c : Channel}
    {s next : Snapshot} {invoice : Invoice} {funding : OutPoint} {document : Closing}
    {keys : ChannelKeys} (hc : n.channels.get? partner = some c) (h : c.Ready .counterparty s)
    (hs : s.Conserved) (hkeys : keys.publish s.state = .ok (s.party .funder))
    (hbuild : Closing.build s c.setup.document funding n.params = .ok document)
    (hoffer : s.offer invoice = .ok next)
    (hlock : n.params.lockTimeBase.toNat + next.state.toNat + 1 < UInt32.size) :
    ∃ proposal tx n' c' close,
      (n.run [.proposeClose partner funding, .receivePayment partner proposal]).channels.get?
        partner = some c' ∧
      c'.proposedClose = some close ∧ close.document.snapshot = s ∧ c'.snapshot = next ∧
      (n.run [.proposeClose partner funding, .receivePayment partner proposal]).confirmClose
        partner tx = (.ok (), n') := by
  obtain ⟨close, signed, tx, rfl, hclose, hadopt⟩ := exists_signed_close hc h hkeys hbuild
  let c₁ : Channel := { c with proposedClose := some close }
  have hready₁ : c₁.Ready .counterparty s := ⟨h.role_eq, h.active, h.snapshot_eq, h.keys⟩
  have hoffers := Snapshot.offers_of_offer hoffer
  obtain ⟨du, ds, hdu, hds⟩ := StateTxs.exists_build hoffers.conserved hlock
  obtain ⟨txs, hpropose, hsigned⟩ :=
    StateTxs.exists_propose hdu hds (publish_of_follows hoffers.toFollows hkeys)
  obtain ⟨rfl, hbuilt⟩ := StateTxs.built_of_propose hpropose
  obtain ⟨answer, hreceive, hanswer⟩ := receivePayment_of_ready
    (get?_setChannel_self n partner c₁) hready₁ hs hoffer hbuilt hsigned
  have hrun : n.run [.proposeClose partner funding, .receivePayment partner ⟨txs⟩] = _ :=
    (run_cons (perform_of_ok (.proposeClose partner funding) rfl hclose) _).trans
      (run_cons (perform_of_ok (.receivePayment partner ⟨txs⟩) rfl hreceive) [])
  have hc₂ := (congrArg (·.channels.get? partner) hrun).trans (get?_setChannel_self ..)
  exact ⟨⟨txs⟩, tx, _, _, close, hc₂, rfl, (Closing.built_of_build hbuild).snapshot,
    hanswer.snapshot, confirmClose_of_adopt hc₂ rfl hadopt⟩

omit [KeyScheme] in
/-- A counterparty with the default parameters and keys drawn from zeros proposes a close in
state 0, receives a payment, and confirms the close in state 1. -/
theorem exists_stale_close_zeros :
    letI : KeyScheme := .secp256k1
    ∃ ops tx n' c close, ((create ⟨1⟩ {}).run ops).channels.get? ⟨0⟩ = some c ∧
      c.proposedClose = some close ∧ close.document.snapshot.state = 0 ∧ c.snapshot.state = 1 ∧
      ((create ⟨1⟩ {}).run ops).confirmClose ⟨0⟩ tx = (.ok (), n') := by
  let _ : KeyScheme := .secp256k1
  have _ : LawfulKeyScheme := lawful_secp256k1
  obtain ⟨party, funder, reply, counterparty, txs, funder', k, next, -, hjoin, -,
    ⟨-, c', -, hready'⟩, ⟨hparams, c, hc, hready⟩, hoffer, hstate⟩ := exists_opening_zeros
  obtain ⟨document, hbuild⟩ := Closing.exists_build_first k k c.setup.document .null
  rw [← hparams] at hbuild
  obtain ⟨proposal, tx, n', d, close, hd, hclose, hstale, hnew, hconfirm⟩ :=
    exists_stale_close hc hready (Snapshot.conserved_first 1000000 k k) hready'.keys hbuild hoffer
      (by rw [hparams, hstate]; decide)
  have hrun := run_cons (perform_of_ok (.joinChannel .zeros ⟨0⟩ party) rfl hjoin)
    [.proposeClose ⟨0⟩ .null, .receivePayment ⟨0⟩ proposal]
  rw [← hrun] at hd hconfirm
  exact ⟨_, tx, n', d, close, hd, hclose, by rw [hstale]; rfl, by rw [hnew]; exact hstate, hconfirm⟩

omit [KeyScheme] in
/-- A close that was proposed in an earlier state than the complete one is confirmed. -/
theorem stale_close_confirmed :
    letI : KeyScheme := .secp256k1
    ∃ ops tx n' c close, ((create ⟨1⟩ {}).run ops).channels.get? ⟨0⟩ = some c ∧
      c.proposedClose = some close ∧
      ((create ⟨1⟩ {}).run ops).confirmClose ⟨0⟩ tx = (.ok (), n') ∧
      close.document.snapshot ≠ c.snapshot := by
  let _ : KeyScheme := .secp256k1
  obtain ⟨ops, tx, n', c, close, hc, hp, hstale, hnew, hconfirm⟩ := exists_stale_close_zeros
  refine ⟨ops, tx, n', c, close, hc, hp, hconfirm, fun heq => ?_⟩
  rw [heq, hnew] at hstale
  exact absurd hstale (by decide)

omit [KeyScheme] in
/-- The close that is confirmed in state 1 was built from state 0, which the channel has left. -/
theorem confirmed_close_origin_zeros :
    letI : KeyScheme := .secp256k1
    ∃ (ops : List Operation) (tx : Transaction) (n' : Node),
      ((create ⟨1⟩ {}).run ops).confirmClose ⟨0⟩ tx = (.ok (), n') ∧
      ∃ (before after : List Operation) (funding : OutPoint) (close signed : CloseTx)
        (c₀ c : Channel),
        ops = before ++ .proposeClose ⟨0⟩ funding :: after ∧
        (create ⟨1⟩ {}).LastClose ⟨0⟩ before funding after close ∧
        close.document.Built c₀.snapshot c.setup.document.script funding {} ∧
        signed.document = close.document ∧ signed.Carries tx ∧
        ReflTransGen Snapshot.Next c₀.snapshot c.snapshot ∧
        c₀.snapshot.state = 0 ∧ c.snapshot.state = 1 := by
  let _ : KeyScheme := .secp256k1
  obtain ⟨ops, tx, n', c, close, hc, hp, hstale, hnew, hconfirm⟩ := exists_stale_close_zeros
  obtain ⟨before, after, funding, close', signed, c₀, c', hops, hlast, -, hc', hp', hbuilt,
    hdocument, hcarries, hmoved, -⟩ := confirmed_close_origin ⟨1⟩ {} ops ⟨0⟩ tx n' hconfirm
  obtain rfl := Option.some.inj (hc'.symm.trans hc)
  obtain rfl := Option.some.inj (hp'.symm.trans hp)
  rw [hbuilt.snapshot] at hstale
  exact ⟨ops, tx, n', hconfirm, before, after, funding, close', signed, c₀, c', hops, hlast, hbuilt,
    hdocument, hcarries, hmoved, hstale, hnew⟩

end Node

end Supersede
