import Supersede.Proofs.CooperativeClose
import Supersede.Proofs.Secrets

/-!
# Which payments are received

A proposal is a message that anyone can make up: it shows two snapshots and carries signatures. The
counterparty looks for the one new payment in it, offers that payment in its own state, and signs
what it has rebuilt from there. The checks on the way are there for the errors that they give: none
of them turns down what the last comparison would accept.

**Theorem (`Node.receives_payment_iff`).** A payment is received exactly if some offer in the
counterparty's own state leads to the state that both transactions show, and the funder's signatures
are valid on the transactions that the counterparty builds for it. What the counterparty then holds
is what it has built, with the signatures of both sides.

That signing succeeds exactly on such messages does not depend on the side or on the step that led
there (`StateTxs.countersigns_iff`).
-/

namespace Supersede

open Result

variable [KeyScheme]

/-! ## Messages that stand for a state -/

/-- A signature is good for an update in one mode only, and under the key of that side. -/
theorem Update.check_iff_of_build {s : Snapshot} {p : Params} {u : Update} {role : Role}
    {sig : ChannelSignature} (h : Update.build s p = .ok u) :
    (Signable.subject u).check role (some sig) = .ok () ↔ sig.mode = .anyPrevOutAnyScript ∧
      u.template.verifyInput 0 u.script s.capacity sig (s.party role).updateKey = .ok true := by
  rw [SigningSubject.check_eq_ok, ← snapshot_of_build h]
  rfl

theorem Settlement.check_iff_of_build {s : Snapshot} {p : Params} {d : Settlement} {role : Role}
    {sig : ChannelSignature} (h : Settlement.build s p = .ok d) :
    (Signable.subject d).check role (some sig) = .ok () ↔ sig.mode = .anyPrevOut ∧
      d.template.verifyInput 0 d.updateScript s.capacity sig (s.party role).settleKey =
        .ok true := by
  rw [SigningSubject.check_eq_ok, ← snapshot_of_build h]
  rfl

namespace StateTxs

/-- A message stands for a state on behalf of a side. Both transactions show the state, and the
side's signatures, each in its mode, are valid on the transactions built from that state. The
transactions in the message itself do not count. -/
structure StandsFor (message : StateTxs) (role : Role) (s : Snapshot) (p : Params) : Prop where
  update_snapshot : message.update.document.snapshot = s
  settle_snapshot : message.settle.document.snapshot = s
  update : ∃ u sig, Update.build s p = .ok u ∧ message.update.signature role = some sig ∧
    sig.mode = .anyPrevOutAnyScript ∧
    u.template.verifyInput 0 u.script s.capacity sig (s.party role).updateKey = .ok true
  settle : ∃ d sig, Settlement.build s p = .ok d ∧ message.settle.signature role = some sig ∧
    sig.mode = .anyPrevOut ∧
    d.template.verifyInput 0 d.updateScript s.capacity sig (s.party role).settleKey = .ok true

variable {message : StateTxs} {role : Role} {s : Snapshot} {p : Params} {keys : ChannelKeys}

/-- What a side has built and signed stands for its state. -/
theorem standsFor_of_built (hb : message.Built p) (hs : message.SignedBy role) :
    message.StandsFor role message.snapshot p := by
  obtain ⟨su, ss, hsigs, hcu, hcs⟩ := hs.exists_signatures
  obtain ⟨hsu, hss⟩ := signatures_eq_ok_iff.1 hsigs
  rw [Update.check_iff_of_build hb.update] at hcu
  rw [Settlement.check_iff_of_build hb.settle] at hcs
  exact ⟨rfl, hb.snapshot_settle, ⟨_, su, hb.update, hsu, hcu⟩, _, ss, hb.settle, hss, hcs⟩

/-- Only signatures are taken from a message that shows the expected state. -/
theorem countersign_congr {message' : StateTxs} (h : message.commitTo s = true)
    (h' : message'.commitTo s = true)
    (hsigs : message.signatures role.other = message'.signatures role.other) :
    countersign s message keys role p = countersign s message' keys role p := by
  simp only [countersign, h, h', hsigs]
  rfl

theorem standsFor_of_countersign {t : StateTxs} (h : countersign s message keys role p = .ok t) :
    message.StandsFor role.other s p := by
  simp only [countersign, ite_error_eq_ok, UpdateTx.build, SettleTx.build, bind_eq_ok, map_eq_ok,
    pure_eq_ok] at h
  obtain ⟨hcommit, ⟨su, ss⟩, hsigs, _, ⟨u, hu, rfl⟩, ⟨⟩, hcu, _, ⟨d, hd, rfl⟩, ⟨⟩, hcs, -⟩ := h
  obtain ⟨hupdate, hsettle⟩ := commitTo_iff.1 (by simpa using hcommit)
  obtain ⟨hsu, hss⟩ := signatures_eq_ok_iff.1 hsigs
  rw [Cosigned.verifySignature_withSignature, Update.check_iff_of_build hu] at hcu
  rw [Cosigned.verifySignature_withSignature, Settlement.check_iff_of_build hd] at hcs
  exact ⟨hupdate, hsettle, ⟨u, su, hu, hsu, hcu⟩, d, ss, hd, hss, hcs⟩

variable [LawfulKeyScheme]

/-- A message that stands for a state is as good as the one that an honest partner sends. -/
theorem StandsFor.exists_countersign (h : message.StandsFor role.other s p)
    (hk : keys.publish s.state = .ok (s.party role)) :
    ∃ t, countersign s message keys role p = .ok t := by
  obtain ⟨hupdate, hsettle, ⟨u, su, hu, hsu, hcu⟩, d, ss, hd, hss, hcs⟩ := h
  rw [← Update.check_iff_of_build hu] at hcu
  rw [← Settlement.check_iff_of_build hd] at hcs
  let honest : StateTxs := ⟨(Cosigned.unsigned u).withSignature role.other su,
    (Cosigned.unsigned d).withSignature role.other ss⟩
  obtain ⟨hsnapshot, hbuilt⟩ : honest.snapshot = s ∧ honest.Built p :=
    Built.of_build (by simpa [honest] using hu) (by simpa [honest] using hd)
  have hsigned : honest.SignedBy role.other :=
    ⟨(Cosigned.verifySignature_withSignature u role.other su).trans hcu,
      (Cosigned.verifySignature_withSignature d role.other ss).trans hcs⟩
  rw [← hsnapshot] at hk
  obtain ⟨t, ht⟩ := StateTxs.exists_countersign role hbuilt hsigned hk
  rw [hsnapshot] at ht
  refine ⟨t, ?_⟩
  rw [← ht]
  refine countersign_congr (commitTo_iff.2 ⟨hupdate, hsettle⟩)
    (commitTo_iff.2 ⟨hsnapshot, hbuilt.snapshot_settle.trans hsnapshot⟩) ?_
  rw [signatures_eq_ok_iff.2 ⟨hsu, hss⟩]
  exact (signatures_eq_ok_iff.2 ⟨Cosigned.signature_withSignature_self ..,
    Cosigned.signature_withSignature_self ..⟩).symm

/-- The owner of a state's keys signs it exactly after messages that stand for it. -/
theorem countersigns_iff (hk : keys.publish s.state = .ok (s.party role)) :
    (∃ t, countersign s message keys role p = .ok t) ↔ message.StandsFor role.other s p := by
  constructor
  · rintro ⟨t, ht⟩
    exact standsFor_of_countersign ht
  · intro h
    exact h.exists_countersign hk

end StateTxs

/-! ## Payments -/

namespace Node

variable [LawfulKeyScheme]

/-- A counterparty with a conserved state receives the payments that its own offer leads to. -/
theorem receivePayment_iff_of_ready {n : Node} {partner : PeerId} {c : Channel}
    {proposal : PaymentProposal} (hc : n.channels.get? partner = some c)
    (h : c.Ready .counterparty c.snapshot) (hconserved : c.snapshot.Conserved) :
    (∃ receipt n', n.receivePayment partner proposal = (.ok receipt, n')) ↔ ∃ invoice expected,
      c.snapshot.offer invoice = .ok expected ∧
      proposal.txs.StandsFor .funder expected n.params := by
  constructor
  · rintro ⟨receipt, n', hreceive⟩
    obtain ⟨d, invoice, expected, ⟨hd, -, -⟩, -, hoffer, hsign, -⟩ :=
      receivePayment_eq_ok.1 hreceive
    obtain rfl := Option.some.inj (hc.symm.trans hd)
    exact ⟨invoice, expected, hoffer, StateTxs.standsFor_of_countersign hsign⟩
  · rintro ⟨invoice, expected, hoffer, hstands⟩
    have hoffers := Snapshot.offers_of_offer hoffer
    have hkeys := publish_of_follows hoffers.toFollows h.keys
    obtain ⟨txs, hsign⟩ := (StateTxs.countersigns_iff hkeys).2 hstands
    have hinvoice : offeredInvoice c.snapshot proposal.txs.snapshot = .ok invoice := by
      rw [show proposal.txs.snapshot = expected from hstands.update_snapshot]
      exact offeredInvoice_of_offers hconserved hoffers
    exact ⟨⟨txs, _⟩, _, receivePayment_eq_ok.2 ⟨c, invoice, expected, ⟨hc, h.role_eq, h.active⟩,
      hinvoice, hoffer, hsign, rfl, rfl⟩⟩

/-- **The right payments are received.** After any operations of a node, let it be the counterparty
of an open channel. Then of all proposals it accepts exactly those that stand for the state to which
an offer leads from its own. It keeps the transactions that it has rebuilt, with the funder's
signatures and its own. -/
theorem receives_payment_iff (id : PeerId) (params : Params) (ops : List Operation)
    (partner : PeerId) (c : Channel) (proposal : PaymentProposal)
    (hc : ((create id params).run ops).channels.get? partner = some c)
    (hrole : c.role = .counterparty) (hopen : c.status = .active) :
    ((∃ receipt n', ((create id params).run ops).receivePayment partner proposal =
        (.ok receipt, n')) ↔
      ∃ invoice expected, c.snapshot.offer invoice = .ok expected ∧
        proposal.txs.StandsFor .funder expected params) ∧
    ∀ receipt n', ((create id params).run ops).receivePayment partner proposal =
        (.ok receipt, n') →
      ∃ invoice expected, c.snapshot.offer invoice = .ok expected ∧
        StateTxs.Countersigned expected proposal.txs .counterparty params receipt.txs ∧
        n'.channels.get? partner = some { c with complete := receipt.txs } := by
  have hgrounded := grounded_run hc
  have hready := hgrounded.ready hopen
  rw [hrole] at hready
  have hparams : ((create id params).run ops).params = params := params_run (create id params) ops
  constructor
  · rw [receivePayment_iff_of_ready hc hready hgrounded.owned.inv.sound.conserved, hparams]
  · intro receipt n' hreceive
    obtain ⟨d, invoice, expected, ⟨hd, -, -⟩, -, hoffer, hsign, -, rfl⟩ :=
      receivePayment_eq_ok.1 hreceive
    obtain rfl := Option.some.inj (hc.symm.trans hd)
    rw [hparams] at hsign
    exact ⟨invoice, expected, hoffer, StateTxs.countersigned_of_countersign hsign,
      get?_setChannel_self ..⟩

omit [KeyScheme] [LawfulKeyScheme] in
/-- The counterparty of a new channel receives the first payment that the funder offers, and does
not receive it without the signature on the settlement. -/
theorem receives_payment_zeros :
    letI : KeyScheme := .secp256k1
    ∃ ops c proposal receipt n',
      ((create ⟨1⟩ {}).run ops).channels.get? ⟨0⟩ = some c ∧ c.role = .counterparty ∧
      c.status = .active ∧
      ((create ⟨1⟩ {}).run ops).receivePayment ⟨0⟩ proposal = (.ok receipt, n') ∧
      n'.channels.get? ⟨0⟩ = some { c with complete := receipt.txs } ∧
      ¬ ∃ receipt' n'', ((create ⟨1⟩ {}).run ops).receivePayment ⟨0⟩
        ⟨⟨proposal.txs.update, .unsigned proposal.txs.settle.document⟩⟩ = (.ok receipt', n'') := by
  let _ : KeyScheme := .secp256k1
  have _ : LawfulKeyScheme := lawful_secp256k1
  obtain ⟨party, _, _, n, _, _, k, next, -, hjoin, -, ⟨hparams, d, hd, hready⟩, ⟨-, c, hc, hready'⟩,
    hoffer, hstate⟩ := exists_opening_zeros
  obtain ⟨txs, -, rfl, hbuilt, hsigned⟩ := proposePayment_of_ready hd hready hoffer
    (by rw [hparams, hstate]; decide)
  obtain ⟨ops, hrun⟩ : ∃ ops, (create ⟨1⟩ {}).run ops = n :=
    ⟨[.joinChannel .zeros ⟨0⟩ party],
      run_cons (perform_of_ok (.joinChannel .zeros ⟨0⟩ party) rfl hjoin) []⟩
  rw [← hrun] at hc
  rw [hparams] at hbuilt
  have hreceives (proposal : PaymentProposal) := receives_payment_iff ⟨1⟩ {} ops ⟨0⟩ c proposal hc
    hready'.role_eq hready'.active
  have hstands : txs.StandsFor .funder txs.snapshot {} := StateTxs.standsFor_of_built hbuilt hsigned
  rw [← hready'.snapshot_eq] at hoffer
  obtain ⟨receipt, n', hreceive⟩ := (hreceives ⟨txs⟩).1.2 ⟨_, _, hoffer, hstands⟩
  obtain ⟨-, -, -, -, hc'⟩ := (hreceives ⟨txs⟩).2 receipt n' hreceive
  refine ⟨ops, c, ⟨txs⟩, receipt, n', hc, hready'.role_eq, hready'.active, hreceive, hc', ?_⟩
  intro hunsigned
  obtain ⟨_, _, -, hstands'⟩ := (hreceives _).1.1 hunsigned
  obtain ⟨_, _, -, hsig, -⟩ := hstands'.settle
  cases hsig

end Node

end Supersede
