import Supersede.Proofs.Completion
import Supersede.Proofs.FeeSplit
import Supersede.Proofs.Sweeping

/-!
# Cooperative closes go through

A close of the channel's complete state spends the funding output directly. One side builds and
signs it, the other builds it anew, adds its own signature and hands out the transaction, and the
first side finds both signatures in the witness. If both hold the same state and the same funding
script, none of these steps can fail.

On the chain, the funding output is locked by the script of state 0, so the close has to pass the
update branch of that script with the lock time of its own, later state.

* `Closing.Built`: what the close of a snapshot consists of.
* `CloseTx.validate_iff`: the chain's rules for a close that both sides signed.
* `Channel.Grounded`, `Node.grounded_run`: in every record that a run can lead to, the node owns the
  keys of its side, and the channel was funded in state 0 for the same update keys.

**Theorem (`Node.cooperative_close`).** A close that one side can propose is signed by the other and
confirmed by the first, if both hold the same complete state and funding script. Both end with the
channel closed in that state. A chain that holds the funding output accepts the transaction exactly
if its lock time has been reached, the lock time of state 0 is not zero, and both are of one kind.
-/

namespace Supersede

open Result

/-! ## What a close consists of -/

namespace Closing

/-- A close pays no more than the channel holds. -/
theorem payouts_le {c : Snapshot} {p : Params} {out : Payouts} (hc : c.Conserved)
    (h : payouts c p = .ok out) :
    out.funder.toNat + out.counterparty.toNat ≤ c.capacity.toNat := by
  simp only [payouts, Snapshot.offeredTotal, bind_eq_ok] at h
  obtain ⟨offered, hoffered, refund, hrefund, hsplit⟩ := h
  obtain ⟨-, -, hshares⟩ := splitFee_eq_ok_iff.1 hsplit
  have htotal := hshares.total
  rw [Snapshot.toNat_addBalance hrefund, Snapshot.toNat_invoiceTotal hoffered] at htotal
  unfold Snapshot.Conserved at hc
  omega

/-- An amount gets one output or none. -/
theorem values_payoutOutput (p : Params) (value : Amount) (key : PublicKey) :
    ((payoutOutput p value key).map (·.value)).Sublist [value] := by
  unfold payoutOutput
  split
  · exact List.Sublist.refl _
  · exact List.nil_sublist _

/-- The parts of the close of a snapshot. -/
structure Built (d : Closing) (c : Snapshot) (script : Bytes) (funding : OutPoint) (p : Params) :
    Prop where
  conserved : c.Conserved
  snapshot : d.snapshot = c
  setupScript : d.setupScript = script
  lockTime : p.settleLockTime c.state = .ok d.template.lockTime
  version : d.template.version = 2
  inputs : d.template.inputs = [{ outpoint := funding, sequence := LockTime.enabledSequence }]
  outputs : ∃ out, payouts c p = .ok out ∧
    d.template.outputs = payoutOutput p out.funder c.funder.paymentKey ++
      payoutOutput p out.counterparty c.counterparty.paymentKey

theorem built_of_build {d : Closing} {c : Snapshot} {setup : Update} {funding : OutPoint}
    {p : Params} (h : build c setup funding p = .ok d) : d.Built c setup.script funding p := by
  simp only [build, bind_eq_ok, pure_eq_ok] at h
  obtain ⟨⟨⟩, hcheck, out, hout, lockTime, hlockTime, rfl⟩ := h
  exact ⟨Snapshot.conserved_of_check hcheck, rfl, rfl, hlockTime, rfl, rfl, out, hout, rfl⟩

/-- All that a close takes from the funding transaction is its script. -/
theorem build_congr {setup setup' : Update} (h : setup.script = setup'.script) (c : Snapshot)
    (funding : OutPoint) (p : Params) : build c setup funding p = build c setup' funding p := by
  simp only [build, h]

namespace Built

variable {d : Closing} {c : Snapshot} {script : Bytes} {funding : OutPoint} {p : Params}

theorem funding_eq (h : d.Built c script funding p) : d.funding = funding := by
  rw [Closing.funding, h.inputs]

theorem totalValue_le (h : d.Built c script funding p) :
    Chain.totalValue d.template.outputs ≤ c.capacity := by
  obtain ⟨out, hout, houtputs⟩ := h.outputs
  have hpaid := payouts_le h.conserved hout
  have hsublist : (d.template.outputs.map (·.value)).Sublist [out.funder, out.counterparty] := by
    rw [houtputs, List.map_append]
    exact (values_payoutOutput ..).append (values_payoutOutput ..)
  have htotal := Amount.total_le_of_sublist hsublist
  simp only [Amount.total] at htotal
  rw [UInt64.le_iff_toNat_le, Chain.toNat_totalValue]
  refine (Nat.mod_le _ _).trans ?_
  omega

end Built

theorem agrees_witnessed (d : Closing) (f g : ChannelSignature) :
    (d.witnessed f g).Agrees d.template := by
  refine ⟨rfl, rfl, rfl, ?_⟩
  rw [witnessed, List.map_map]
  rfl

end Closing

/-! ## Closes on the chain -/

theorem Transaction.Agrees.verifyInput_eq [KeyScheme] {tx tx' : Transaction} (h : tx.Agrees tx')
    (index : Nat) (scriptCode : Bytes) (value : UInt64) (sig : ChannelSignature)
    (key : PublicKey) :
    tx.verifyInput index scriptCode value sig key =
      tx'.verifyInput index scriptCode value sig key := by
  rw [verifyInput, verifyInput, h.signatureHash_eq]

namespace CloseTx

variable [KeyScheme]

/-- A valid signature of a close is valid on the output that the close was made for. -/
theorem accepts_of_verify {signed : CloseTx} (hverify : signed.verify = .ok ())
    {ctx : SpendContext} (hctx : ctx.ForScript signed.document.setupScript)
    (htx : ctx.tx.Agrees signed.document.template) (hindex : ctx.index = 0)
    (hvalue : ctx.spent.value = signed.document.snapshot.capacity) {role : Role}
    {sig : ChannelSignature} (hsig : signed.signature role = some sig) :
    ctx.Accepts sig.toBytes (signed.document.snapshot.party role).updateKey := by
  rw [hctx.accepts_iff, hctx.scriptCode, hindex, hvalue, htx.verifyInput_eq]
  exact (Cosigned.valid_of_verify hverify hsig).2

/-- The chain's rules for a close that both sides signed, on an output locked by the script of a
state with the same update keys. -/
theorem validate_iff {signed : CloseTx} {s : Snapshot} {script : Bytes} {funding : OutPoint}
    {p : Params} {tx : Transaction} (hbuilt : signed.document.Built s script funding p)
    (htx : signed.transaction = .ok tx) {chain : Chain} {coin : Coin}
    (hcoin : chain.coins.get? funding = some coin) (hfree : funding ∉ chain.mempoolSpends)
    {keys : UpdateKeys} {window : UInt16} {lockTime : UInt32}
    (hfunder : keys.funderUpdate = s.funder.updateKey)
    (hother : keys.otherUpdate = s.counterparty.updateKey)
    (hscript : script = Script.update keys window lockTime)
    (houtput : coin.output = ⟨s.capacity, Script.lock script⟩) :
    chain.validate tx = .ok () ↔ chain.Reached tx.lockTime ∧
      (lockTime < LockTime.threshold ↔ tx.lockTime < LockTime.threshold) ∧
      lockTime ≤ tx.lockTime ∧ lockTime ≠ 0 := by
  obtain ⟨f, g, hf, hg, hverify, rfl⟩ := transaction_eq_ok.1 htx
  have hagrees := signed.document.agrees_witnessed f g
  have hinputs : (signed.document.witnessed f g).inputs =
      [UpdateTx.spendingInput f g script funding] := by
    rw [Closing.witnessed, hbuilt.inputs, hbuilt.setupScript]
    rfl
  refine UpdateTx.validate_update_iff (hagrees.version.trans hbuilt.version) hinputs hcoin hfree
    hscript (by rw [houtput]) ?_ ?_
  · rw [hagrees.outputs, houtput]
    exact hbuilt.totalValue_le
  · intro ctx hctx hctxTx hinput hspent
    rw [← hbuilt.setupScript] at hctx
    rw [← hctxTx] at hagrees hinputs
    have hindex : ctx.index = 0 := by
      have hget := hctx.input
      rw [hinputs, List.getElem?_singleton] at hget
      split at hget
      · assumption
      · cases hget
    have hvalue : ctx.spent.value = signed.document.snapshot.capacity := by
      rw [hspent, houtput, hbuilt.snapshot]
    rw [hfunder, hother, ← hbuilt.snapshot]
    exact ⟨accepts_of_verify hverify hctx hagrees hindex hvalue hf,
      accepts_of_verify hverify hctx hagrees hindex hvalue hg⟩

end CloseTx

/-! ## Records of channels that were funded -/

theorem PartyKeys.updateKey_of_atState [KeyScheme] {k k' : PartyKeys} {state : UInt32}
    (h : k.atState state = .ok k') : k'.updateKey = k.updateKey := by
  simp only [atState, bind_eq_ok, pure_eq_ok] at h
  obtain ⟨-, -, -, -, rfl⟩ := h
  rfl

theorem Snapshot.Follows.updateKey_eq [KeyScheme] {c d : Snapshot} (h : c.Follows d)
    (role : Role) : (d.party role).updateKey = (c.party role).updateKey := by
  cases role with
  | funder => exact PartyKeys.updateKey_of_atState h.funder
  | counterparty => exact PartyKeys.updateKey_of_atState h.counterparty

variable [KeyScheme] [LawfulKeyScheme]

namespace Channel

variable {p : Params} {c c' : Channel}

/-- The node owns the keys of its side of a channel, and the channel was funded in state 0 for the
update keys of the complete state. -/
structure Grounded (p : Params) (c : Channel) : Prop where
  owned : c.Owned p c.role
  setup : ∃ first : Snapshot, first.state = 0 ∧ Update.build first p = .ok c.setup.document ∧
    ∀ role, (first.party role).updateKey = (c.snapshot.party role).updateKey

theorem Opened.grounded (h : c.Opened p) : c.Grounded p := by
  obtain ⟨funder, counterparty, hopening⟩ := h.snapshot
  have hstate : c.snapshot.state = 0 := by
    obtain ⟨-, -, heq⟩ := Snapshot.opening_eq_ok hopening
    rw [heq]
  obtain ⟨own, hown, hparty⟩ := h.keys
  rw [PartyKeys.atState_of_publish hown] at hparty
  refine ⟨⟨h.inv, rfl, ?_⟩, c.snapshot, hstate, ?_, fun _ => rfl⟩
  · rw [hstate]
    exact hparty
  · rw [h.setup]
    exact h.built.update

theorem Grounded.moves {known : Secrets} {partner : PeerId} {op : Operation}
    (h : c.Grounded p) (hm : c.Moves p known partner op c') : c'.Grounded p := by
  obtain ⟨first, hstate, hbuild, hkeys⟩ := h.setup
  have hsetup : c'.setup = c.setup := congrArg (·.2.2) hm.terms_eq
  refine ⟨?_, first, hstate, ?_, fun role => ?_⟩
  · rw [Channel.role_of_terms hm.terms_eq]
    exact h.owned.moves hm
  · rw [hsetup]
    exact hbuild
  · rcases h.owned.inv.snapshot_moves hm with heq | hnext
    · rw [heq]
      exact hkeys role
    · rw [hnext.follows.updateKey_eq]
      exact hkeys role

omit [LawfulKeyScheme] in
theorem Grounded.ready (h : c.Grounded p) (hactive : c.status = .active) :
    c.Ready c.role c.snapshot :=
  ⟨rfl, hactive, rfl, h.owned.keys⟩

omit [LawfulKeyScheme] in
/-- The script of the funding output is that of state 0, for the update keys of the complete
state. -/
theorem Grounded.exists_setupScript (h : c.Grounded p) :
    ∃ (keys : UpdateKeys) (window : UInt16),
      keys.funderUpdate = c.snapshot.funder.updateKey ∧
      keys.otherUpdate = c.snapshot.counterparty.updateKey ∧
      c.setup.document.script = Script.update keys window p.lockTimeBase := by
  obtain ⟨first, hstate, hbuild, hkeys⟩ := h.setup
  have hscript := (Update.template_of_build hbuild).1
  simp only [Snapshot.updateScript, bind_eq_ok, pure_eq_ok] at hscript
  obtain ⟨lockTime, hlockTime, hscript⟩ := hscript
  rw [eq_of_addState hlockTime, hstate, UInt32.add_zero] at hscript
  exact ⟨_, _, hkeys .funder, hkeys .counterparty, hscript.symm⟩

omit [LawfulKeyScheme] in
/-- On the funding output of its channel, only the lock times decide about a close that both sides
signed. -/
theorem Grounded.validate_close_iff (h : c.Grounded p) {signed : CloseTx} {funding : OutPoint}
    {tx : Transaction}
    (hbuild : Closing.build c.snapshot c.setup.document funding p = .ok signed.document)
    (htx : signed.transaction = .ok tx) {chain : Chain} {coin : Coin}
    (hcoin : chain.coins.get? funding = some coin) (hfree : funding ∉ chain.mempoolSpends)
    (houtput : coin.output = ⟨p.capacity, Script.lock c.setup.document.script⟩) :
    chain.validate tx = .ok () ↔ chain.Reached (p.lockTimeBase + c.snapshot.state + 1) ∧
      p.lockTimeBase ≠ 0 ∧ (p.lockTimeBase < LockTime.threshold ↔
        p.lockTimeBase + c.snapshot.state + 1 < LockTime.threshold) := by
  have hbuilt := Closing.built_of_build hbuild
  have hlockTime := Params.eq_of_settleLockTime hbuilt.lockTime
  have htxTime : tx.lockTime = p.lockTimeBase + c.snapshot.state + 1 := by
    obtain ⟨f, g, -, -, -, rfl⟩ := CloseTx.transaction_eq_ok.1 htx
    exact hlockTime
  -- The lock time of a later state is an exact sum, so it is not below that of state 0.
  have hle : p.lockTimeBase ≤ p.lockTimeBase + c.snapshot.state + 1 := by
    rw [UInt32.le_iff_toNat_le, ← hlockTime, Params.toNat_of_settleLockTime hbuilt.lockTime]
    omega
  obtain ⟨keys, window, hfunder, hother, hscript⟩ := h.exists_setupScript
  rw [← h.owned.inv.sound.capacity_eq] at houtput
  rw [CloseTx.validate_iff hbuilt htx hcoin hfree hfunder hother hscript houtput, htxTime]
  simp only [hle, true_and]
  exact and_congr_right fun _ => and_comm

end Channel

namespace Node

/-- Whatever a node does, its records are those of channels that were funded. -/
theorem grounded_run {id : PeerId} {params : Params} {ops : List Operation} {partner : PeerId}
    {c : Channel} (hc : ((create id params).run ops).channels.get? partner = some c) :
    c.Grounded params := by
  refine entry_run (P := fun entry => ∀ c, entry.record = some c → c.Grounded params) ?_ ?_ ops c hc
  · intro known entry entry' op h ht d hd
    cases ht with
    | kept => exact h d hd
    | moved hm =>
      cases hd
      exact (h _ rfl).moves hm
    | proposed => cases hd
    | joined hopened | created hopened =>
      cases hd
      exact hopened.grounded
  · intro d hd
    cases hd

/-! ## The handshake -/

/-- A close of the same state, with a valid signature of the other side, is signed. -/
theorem acceptClose_of_ready {n : Node} {partner : PeerId} {c : Channel} {role : Role}
    {s : Snapshot} {funding : OutPoint} {close : CloseTx} {sig : ChannelSignature}
    (hc : n.channels.get? partner = some c) (h : c.Ready role s)
    (hbuild : Closing.build s c.setup.document funding n.params = .ok close.document)
    (hsig : close.signature role.other = some sig)
    (hcheck : (Signable.subject close.document).check role.other (some sig) = .ok ()) :
    ∃ (signed : CloseTx) (tx : Transaction), n.acceptClose partner close =
        (.ok tx, n.setChannel partner { c with proposedClose := none, status := .closed }) ∧
      signed.document = close.document ∧ signed.transaction = .ok tx := by
  obtain ⟨rfl, hactive, rfl, hkeys⟩ := h
  have hclosable := closableChannel_eq_ok.2 ⟨hc, hactive⟩
  have hexpected : Closing.build c.snapshot c.setup.document close.document.funding n.params =
      .ok close.document := by
    rw [(Closing.built_of_build hbuild).funding_eq]
    exact hbuild
  have hsignature : closeSignature close c.role.other = .ok sig := by
    rw [closeSignature, hsig]
  let received : CloseTx := .withSignature (.unsigned close.document) c.role.other sig
  have hreceived : received.document = close.document := Cosigned.document_withSignature ..
  have hverified : received.verifySignature c.role.other = .ok () := by
    rw [Cosigned.verifySignature_withSignature]
    exact hcheck
  obtain ⟨ours, hsign, hours⟩ := CloseTx.exists_sign received c.role
    (hbuild.trans (congrArg _ hreceived.symm)) hkeys
  rw [hreceived] at hours
  obtain ⟨tx, htx⟩ := CloseTx.exists_transaction
    (Cosigned.verify_withSignature (.unsigned close.document) c.role hcheck hours)
  refine ⟨_, tx, ?_, ?_, htx⟩
  · have hsame : checkSameClose (.unsigned close.document) close = .ok () :=
      if_neg fun hne => hne.elim (· rfl) (· rfl)
    simp only [acceptClose, Acting.get_bind, Acting.lift_bind_ok_iff, CloseTx.build, map_eq_ok]
    exact ⟨c, hclosable, _, ⟨_, hexpected, rfl⟩, (), hsame, sig, hsignature, (), hverified, _,
      hsign, tx, htx, modifyChannel_bind_pure hc _ _⟩
  · rw [Cosigned.document_withSignature, Cosigned.document_withSignature]
    rfl

/-- A close that one side proposes is signed by the other and confirmed, between records in the same
complete state with the same funding script. -/
theorem close_completes {n n' proposer : Node} {p : Params} {partner partner' : PeerId}
    {c c' : Channel} {funding : OutPoint} {close : CloseTx} (hparams : n.params = p)
    (hparams' : n'.params = p) (hc : n.channels.get? partner = some c)
    (hc' : n'.channels.get? partner' = some c') (h : c.Grounded p) (h' : c'.Grounded p)
    (hroles : c'.role = c.role.other) (hopen : c'.status = .active)
    (hsnapshot : c'.snapshot = c.snapshot)
    (hscript : c'.setup.document.script = c.setup.document.script)
    (hpropose : n.proposeClose partner funding = (.ok close, proposer)) :
    ∃ (signed : CloseTx) (tx : Transaction),
      Closing.build c.snapshot c.setup.document funding p = .ok signed.document ∧
      signed.transaction = .ok tx ∧
      n'.acceptClose partner' close =
        (.ok tx, n'.setChannel partner' { c' with proposedClose := none, status := .closed }) ∧
      proposer.confirmClose partner tx = (.ok (),
        proposer.setChannel partner { c with proposedClose := none, status := .closed }) := by
  obtain ⟨d, hd, hactive, hbuild, rfl⟩ := proposeClose_eq_ok hpropose
  obtain rfl := Option.some.inj (hd.symm.trans hc)
  obtain ⟨sig, hpropose', hcheck⟩ := proposeClose_of_ready hc (h.ready hactive) hbuild
  have hclose := Except.ok.inj (Prod.mk.inj (hpropose.symm.trans hpropose')).1
  have hbuild' : Closing.build c'.snapshot c'.setup.document funding n'.params =
      .ok close.document := by
    rw [hsnapshot, Closing.build_congr hscript, hparams', ← hparams]
    exact hbuild
  have hsig : close.signature c'.role.other = some sig := by
    rw [hroles, Role.other_other, hclose, Cosigned.signature_withSignature_self]
  rw [← Role.other_other d.role, ← hroles] at hcheck
  obtain ⟨signed, tx, haccept, hdocument, htx⟩ :=
    acceptClose_of_ready hc' (h'.ready hopen) hbuild' hsig hcheck
  have hadopt := CloseTx.adopt_of_transaction hbuild htx hdocument
  have hconfirm := confirmClose_of_adopt
    (get?_setChannel_self n partner { d with proposedClose := some close }) rfl hadopt
  rw [hparams, ← hdocument] at hbuild
  exact ⟨signed, tx, hbuild, htx, haccept, hconfirm⟩

/-- **Cooperative closes go through.** After any operations of two nodes with the same parameters,
let their records of a channel be those of its two sides, in the same complete state and with the
same funding script, and let the second node's channel be open. Then a close that the first node
proposes is signed by the second and confirmed by the first. Both channels end closed, with nothing
else changed but the proposal, and the funding output decides about the transaction by its lock
times alone. -/
theorem cooperative_close (id id' : PeerId) (params : Params) (ops ops' : List Operation)
    (partner partner' : PeerId) (c c' : Channel) (funding : OutPoint) (close : CloseTx)
    (proposer : Node) (hc : ((create id params).run ops).channels.get? partner = some c)
    (hc' : ((create id' params).run ops').channels.get? partner' = some c')
    (hroles : c'.role = c.role.other) (hopen : c'.status = .active)
    (hsnapshot : c'.snapshot = c.snapshot)
    (hscript : c'.setup.document.script = c.setup.document.script)
    (hpropose : ((create id params).run ops).proposeClose partner funding =
      (.ok close, proposer)) :
    ∃ tx proposer' acceptor,
      ((create id' params).run ops').acceptClose partner' close = (.ok tx, acceptor) ∧
      proposer.confirmClose partner tx = (.ok (), proposer') ∧
      proposer'.channels.get? partner =
        some { c with proposedClose := none, status := .closed } ∧
      acceptor.channels.get? partner' =
        some { c' with proposedClose := none, status := .closed } ∧
      (params.lockTimeBase + c.snapshot.state + 1).toNat =
        params.lockTimeBase.toNat + c.snapshot.state.toNat + 1 ∧
      ∀ (chain : Chain) (coin : Coin), chain.coins.get? funding = some coin →
        funding ∉ chain.mempoolSpends →
        coin.output = ⟨params.capacity, Script.lock c.setup.document.script⟩ →
        (chain.validate tx = .ok () ↔
          chain.Reached (params.lockTimeBase + c.snapshot.state + 1) ∧ params.lockTimeBase ≠ 0 ∧
          (params.lockTimeBase < LockTime.threshold ↔
            params.lockTimeBase + c.snapshot.state + 1 < LockTime.threshold)) := by
  have hground := grounded_run hc
  obtain ⟨signed, tx, hbuild, htx, haccept, hconfirm⟩ := close_completes
    ((create id params).params_run ops) ((create id' params).params_run ops') hc hc' hground
    (grounded_run hc') hroles hopen hsnapshot hscript hpropose
  have hlockTime := (Closing.built_of_build hbuild).lockTime
  have htoNat := Params.toNat_of_settleLockTime hlockTime
  rw [Params.eq_of_settleLockTime hlockTime] at htoNat
  refine ⟨tx, _, _, haccept, hconfirm, get?_setChannel_self .., get?_setChannel_self .., htoNat, ?_⟩
  intro chain coin hcoin hfree houtput
  exact hground.validate_close_iff hbuild htx hcoin hfree houtput

end Node

/-! ## A close over secp256k1 -/

omit [KeyScheme] [LawfulKeyScheme] in
/-- With the default parameters, state 0 can be closed. -/
theorem Closing.exists_build_first (k k' : PartyKeys) (setup : Update) (funding : OutPoint) :
    ∃ document, build (.first 1000000 k k') setup funding {} = .ok document := by
  have hpayouts : (payouts (.first 1000000 k k') {}).isOk = true := by
    change (do
      splitFee (← Snapshot.addBalance 1000000 (← Snapshot.invoiceTotal [])) 0 1000).isOk = _
    decide +kernel
  obtain ⟨out, hout⟩ := Result.exists_of_isOk hpayouts
  exact exists_build (Snapshot.conserved_first 1000000 k k') hout
    (show (500000000 : UInt32).toNat + (0 : UInt32).toNat + 1 < UInt32.size by decide) setup funding

namespace Node

omit [KeyScheme] [LawfulKeyScheme] in
/-- Two nodes with the default parameters open a channel with keys drawn from zeros and close it,
and a chain that holds the funding output accepts the close. -/
theorem cooperative_close_zeros :
    letI : KeyScheme := .secp256k1
    ∃ (ops ops' : List Operation) (c : Channel) (close : CloseTx) (tx : Transaction)
      (proposer proposer' acceptor : Node) (chain : Chain),
      ((create ⟨0⟩ {}).run ops).channels.get? ⟨1⟩ = some c ∧
      ((create ⟨0⟩ {}).run ops).proposeClose ⟨1⟩ .null = (.ok close, proposer) ∧
      ((create ⟨1⟩ {}).run ops').acceptClose ⟨0⟩ close = (.ok tx, acceptor) ∧
      proposer.confirmClose ⟨1⟩ tx = (.ok (), proposer') ∧
      chain.unspent? .null = some ⟨1000000, Script.lock c.setup.document.script⟩ ∧
      chain.validate tx = .ok () := by
  let _ : KeyScheme := .secp256k1
  have _ : LawfulKeyScheme := lawful_secp256k1
  obtain ⟨keys, k, -, hkeys, hk, -⟩ := exists_keys_zeros
  have hnew (id partner : PeerId) : (create id {}).channels.get? partner = none := rfl
  obtain ⟨reply, txs, du, settle, settle', hpropose, hjoin, hcreate, hsnapshot⟩ :=
    exists_opening_records (create ⟨0⟩ {}) (create ⟨1⟩ {}) rfl (hnew ⟨0⟩ ⟨1⟩) (hnew ⟨1⟩ ⟨0⟩) hkeys
      hkeys hk hk (by decide)
  have hfunder : (create ⟨0⟩ {}).run [.proposeChannel .zeros ⟨1⟩, .createChannel ⟨1⟩ reply] = _ :=
    (run_cons (perform_of_ok (.proposeChannel .zeros ⟨1⟩) rfl hpropose) _).trans
      (run_cons (perform_of_ok (.createChannel ⟨1⟩ reply) rfl hcreate) [])
  have hother : (create ⟨1⟩ {}).run [.joinChannel .zeros ⟨0⟩ { keys := k }] = _ :=
    run_cons (perform_of_ok (.joinChannel .zeros ⟨0⟩ { keys := k }) rfl hjoin) []
  have hc := (congrArg (·.channels.get? ⟨1⟩) hfunder).trans (get?_setChannel_self ..)
  have hc' := (congrArg (·.channels.get? ⟨0⟩) hother).trans (get?_setChannel_self ..)
  have hparams := (create ⟨0⟩ {}).params_run [.proposeChannel .zeros ⟨1⟩, .createChannel ⟨1⟩ reply]
  obtain ⟨document, hbuild⟩ := Closing.exists_build_first k k du .null
  obtain ⟨sig, hclose, -⟩ := proposeClose_of_ready hc ⟨rfl, rfl, hsnapshot, hk⟩
    (by rw [hparams]; exact hbuild)
  obtain ⟨tx, proposer', acceptor, haccept, hconfirm, -, -, -, hchain⟩ :=
    cooperative_close ⟨0⟩ ⟨1⟩ {} _ _ ⟨1⟩ ⟨0⟩ _ _ .null _ _ hc hc' rfl rfl rfl rfl hclose
  let coin : Coin := ⟨⟨1000000, Script.lock du.script⟩, some 100⟩
  let chain : Chain := { coins := (∅ : SortedMap OutPoint Coin).insert .null coin }
  have hcoin : chain.coins.get? .null = some coin := SortedMap.get?_insert_self _ _ _
  refine ⟨_, _, _, _, tx, _, proposer', acceptor, chain, hc, hclose, haccept, hconfirm, ?_, ?_⟩
  · rw [Chain.unspent?, hcoin]
    rfl
  · have hstate : (openedChannel keys .funder (.unsigned du) settle).snapshot.state = 0 := by
      show du.snapshot.state = 0
      rw [hsnapshot]
      rfl
    rw [hstate] at hchain
    refine (hchain chain coin hcoin List.not_mem_nil rfl).2 ⟨?_, by decide, by decide⟩
    rw [Chain.Reached, if_neg (by decide)]
    show ({} : Params).lockTimeBase + 0 + 1 ≤ 1500000000
    decide

end Node

end Supersede
