import Supersede.Proofs.Derivation
import Supersede.Proofs.Encoding
import Supersede.Proofs.Moves
import Supersede.Proofs.Scheme

/-!
# Honest handshakes succeed

With a lawful scheme, nothing that an honest party sends is refused by an honest partner who holds
the same complete state. The two sides build the same documents, each signs with keys whose public
halves the other has derived, and honest signatures verify.

* `StateTxs.exists_propose`, `StateTxs.exists_countersign`: a state that can be built can be
  proposed, and every honest proposal can be countersigned.
* `Node.exists_opening`, `Node.exists_payment`: two nodes can open a channel, and a payment that
  the funder can offer is completed on both sides. Both end with the nodes holding the same state
  (`Node.Holds`), from which the next handshake starts.
* `CloseTx.adopt_of_transaction`: a close that both sides signed is adopted by its proposer.

The keys of a channel are hashes of its seed, and a seed whose hash is not a key opens no channel.
For one seed the module derives the keys (`exists_keys_zeros`), so that the channels spoken of
here exist.
-/

namespace Supersede

open Result Acting

/-! ## Building -/

/-- State 0 between two parties. -/
def Snapshot.first (capacity : Amount) (funder counterparty : PartyKeys) : Snapshot :=
  ⟨0, capacity, funder, counterparty, capacity, 0, ∅⟩

theorem Snapshot.conserved_first (capacity : Amount) (funder counterparty : PartyKeys) :
    (first capacity funder counterparty).Conserved := rfl

theorem Params.stateLockTime_eq {p : Params} {state : UInt32}
    (h : p.lockTimeBase.toNat + state.toNat + 1 < UInt32.size) :
    p.stateLockTime state = .ok (p.lockTimeBase + state) :=
  if_pos (by omega)

theorem Params.settleLockTime_eq {p : Params} {state : UInt32}
    (h : p.lockTimeBase.toNat + state.toNat + 1 < UInt32.size) :
    p.settleLockTime state = .ok (p.lockTimeBase + state + 1) := by
  have hstate := stateLockTime_eq h
  rw [settleLockTime, hstate, ok_bind, addState, toNat_addState hstate]
  exact if_pos h

theorem Params.toNat_of_settleLockTime {p : Params} {state lockTime : UInt32}
    (h : p.settleLockTime state = .ok lockTime) :
    lockTime.toNat = p.lockTimeBase.toNat + state.toNat + 1 := by
  simp only [settleLockTime, bind_eq_ok] at h
  obtain ⟨stateTime, hstate, hsettle⟩ := h
  have hadd : lockTime.toNat = stateTime.toNat + 1 := toNat_addState hsettle
  rw [hadd, toNat_addState hstate]

theorem Params.eq_of_settleLockTime {p : Params} {state lockTime : UInt32}
    (h : p.settleLockTime state = .ok lockTime) : lockTime = p.lockTimeBase + state + 1 := by
  have hlt : p.lockTimeBase.toNat + state.toNat + 1 < UInt32.size := by
    rw [← toNat_of_settleLockTime h]
    exact lockTime.toNat_lt
  exact Except.ok.inj (h.symm.trans (settleLockTime_eq hlt))

/-- A state with conserved balances and representable lock times can be built. -/
theorem StateTxs.exists_build {c : Snapshot} {p : Params} (hc : c.Conserved)
    (hlock : p.lockTimeBase.toNat + c.state.toNat + 1 < UInt32.size) :
    ∃ du ds, Update.build c p = .ok du ∧ Settlement.build c p = .ok ds := by
  have hcheck := Snapshot.check_of_conserved hc
  have hstate := Params.stateLockTime_eq hlock
  have hsettle := Params.settleLockTime_eq hlock
  have hupdate : ∃ du, Update.build c p = .ok du := by
    simp only [Update.build, Snapshot.updateScript, hcheck, hstate, ok_bind]
    exact ⟨_, rfl⟩
  have hsettlement : ∃ ds, Settlement.build c p = .ok ds := by
    simp only [Settlement.build, Snapshot.updateScript, hcheck, hstate, hsettle, ok_bind]
    exact ⟨_, rfl⟩
  obtain ⟨du, hdu⟩ := hupdate
  obtain ⟨ds, hds⟩ := hsettlement
  exact ⟨du, ds, hdu, hds⟩

/-- A state that can be built can be closed, if both sides can pay the fee. -/
theorem Closing.exists_build {c : Snapshot} {p : Params} {out : Payouts} (hc : c.Conserved)
    (hout : payouts c p = .ok out)
    (hlock : p.lockTimeBase.toNat + c.state.toNat + 1 < UInt32.size) (setup : Update)
    (funding : OutPoint) : ∃ document, build c setup funding p = .ok document := by
  simp only [build, Snapshot.check_of_conserved hc, hout, Params.settleLockTime_eq hlock,
    ok_bind]
  exact ⟨_, rfl⟩

theorem CloseTx.witnessSignature_of_get {witness : List Bytes} {index : Nat}
    {sig : ChannelSignature} (h : witness[index]? = some sig.toBytes) (role : Role) :
    witnessSignature witness index role = .ok sig := by
  unfold witnessSignature
  rw [h]
  split
  · rename_i hnone
    cases hnone
  · rename_i hnil
    exact absurd (Option.some.inj hnil) sig.toBytes_ne_nil
  · rename_i bytes _ hbytes
    rw [← Option.some.inj hbytes, ChannelSignature.ofBytes_toBytes]

section Scheme

variable [KeyScheme]

/-- The published keys of a party and the secrets behind them. -/
theorem ChannelKeys.publish_eq_ok {keys : ChannelKeys} {state : UInt32} {k : PartyKeys}
    (h : keys.publish state = .ok k) :
    k.updateKey = keys.updateKey.publicKey ∧
      ∃ settle, keys.settleKey state = .ok settle ∧ k.settleKey = settle.publicKey := by
  simp only [publish, bind_eq_ok, pure_eq_ok] at h
  obtain ⟨settle, hsettle, rfl⟩ := h
  exact ⟨rfl, settle, hsettle, rfl⟩

theorem ChannelKeys.paymentKey_of_publish {keys : ChannelKeys} {state : UInt32} {k : PartyKeys}
    (h : keys.publish state = .ok k) : keys.paymentKey.publicKey = k.paymentKey := by
  simp only [publish, bind_eq_ok, pure_eq_ok] at h
  obtain ⟨settle, -, rfl⟩ := h
  rfl

/-! ## Signatures -/

/-- The signature of a side alone on a document. -/
theorem Cosigned.verifySignature_withSignature {α : Type} [Signable α] (d : α) (role : Role)
    (sig : ChannelSignature) :
    ((unsigned d).withSignature role sig).verifySignature role =
      (Signable.subject d).check role (some sig) := by
  rw [verifySignature, document_withSignature, signature_withSignature_self, document_unsigned]

/-- A side's signatures on both transactions are valid. -/
structure StateTxs.SignedBy (t : StateTxs) (role : Role) : Prop where
  update : t.update.verifySignature role = .ok ()
  settle : t.settle.verifySignature role = .ok ()

theorem StateTxs.SignedBy.exists_signatures {t : StateTxs} {role : Role}
    (h : t.SignedBy role) :
    ∃ su ss, t.signatures role = .ok (su, ss) ∧
      (Signable.subject t.update.document).check role (some su) = .ok () ∧
      (Signable.subject t.settle.document).check role (some ss) = .ok () := by
  obtain ⟨hu, hs⟩ := h
  rw [Cosigned.verifySignature] at hu hs
  cases hsu : t.update.signature role with
  | none => simp [hsu, SigningSubject.check] at hu
  | some su =>
    cases hss : t.settle.signature role with
    | none => simp [hss, SigningSubject.check] at hs
    | some ss =>
      rw [hsu] at hu
      rw [hss] at hs
      exact ⟨su, ss, StateTxs.signatures_eq_ok_iff.2 ⟨hsu, hss⟩, hu, hs⟩

/-- Both signatures on a document verify if each does. -/
theorem Cosigned.verify_withSignature {α : Type} [Signable α] (d : Cosigned α) (role : Role)
    {theirs ours : ChannelSignature}
    (h : (Signable.subject d.document).check role.other (some theirs) = .ok ())
    (h' : (Signable.subject d.document).check role (some ours) = .ok ()) :
    ((d.withSignature role.other theirs).withSignature role ours).verify = .ok () := by
  rw [verify_eq_ok_iff]
  intro r
  rw [verifySignature, document_withSignature, document_withSignature]
  by_cases hr : r = role
  · rw [hr, signature_withSignature_self]
    exact h'
  · rw [signature_withSignature_of_ne _ hr, Role.eq_other_of_ne hr, signature_withSignature_self]
    exact h

variable [LawfulKeyScheme]

/-- The owner of a key can sign, and the signature passes the check for that key. -/
theorem SigningSubject.exists_sign {s : SigningSubject} {input : TxIn} {key : SecretKey}
    {role : Role} (hinput : s.transaction.inputs = [input]) (hkey : s.key role = key.publicKey) :
    ∃ sig, s.sign key = .ok sig ∧ s.check role (some sig) = .ok () := by
  obtain ⟨digest, hdigest⟩ : ∃ digest,
      s.transaction.signatureHash 0 s.scriptCode s.value s.mode = .ok digest := by
    simp [Transaction.signatureHash, hinput]
  refine ⟨⟨KeyScheme.ecdsaSign key digest, s.mode⟩, ?_, ?_⟩
  · rw [sign, Transaction.signInput, hdigest]
    rfl
  · simp only [check, ne_eq, not_true_eq_false, if_false, Transaction.verifyInput, hdigest, hkey,
      Except.map, LawfulKeyScheme.ecdsaVerify_sign]

/-- The owner of a state's keys can sign its update. -/
theorem UpdateTx.exists_sign (u : UpdateTx) (role : Role) {c : Snapshot} {p : Params}
    {keys : ChannelKeys} (hu : Update.build c p = .ok u.document)
    (hk : keys.publish c.state = .ok (c.party role)) :
    ∃ sig, u.sign keys role = .ok (u.withSignature role sig) ∧
      (Signable.subject u.document).check role (some sig) = .ok () := by
  have hkey := (ChannelKeys.publish_eq_ok hk).1
  simp only [Update.build, bind_eq_ok, pure_eq_ok] at hu
  obtain ⟨-, -, script, -, lockTime, -, hdoc⟩ := hu
  have hparty : (u.document.snapshot.party role).updateKey = keys.updateKey.publicKey := by
    rw [← hdoc, hkey]
  obtain ⟨sig, hsig, hcheck⟩ := SigningSubject.exists_sign (s := Signable.subject u.document)
    (by rw [← hdoc]; rfl) hparty
  refine ⟨sig, ?_, hcheck⟩
  rw [sign, if_neg (by simp [hparty]), hsig]
  rfl

/-- The owner of a state's keys can sign its settlement. -/
theorem SettleTx.exists_sign (s : SettleTx) (role : Role) {c : Snapshot} {p : Params}
    {keys : ChannelKeys} (hs : Settlement.build c p = .ok s.document)
    (hk : keys.publish c.state = .ok (c.party role)) :
    ∃ sig, s.sign keys role = .ok (s.withSignature role sig) ∧
      (Signable.subject s.document).check role (some sig) = .ok () := by
  obtain ⟨-, settle, hsettle, hkey⟩ := ChannelKeys.publish_eq_ok hk
  have hsnapshot := Settlement.snapshot_of_build hs
  simp only [Settlement.build, bind_eq_ok, pure_eq_ok] at hs
  obtain ⟨-, -, script, -, lockTime, -, hdoc⟩ := hs
  have hparty : (s.document.snapshot.party role).settleKey = settle.publicKey := by
    rw [hsnapshot, hkey]
  obtain ⟨sig, hsig, hcheck⟩ := SigningSubject.exists_sign (s := Signable.subject s.document)
    (by rw [← hdoc]; rfl) hparty
  refine ⟨sig, ?_, hcheck⟩
  rw [sign, Settlement.state, hsnapshot, hsettle, ok_bind, ← hsnapshot, if_neg (by simp [hparty]),
    hsig]
  rfl

/-- The owner of a state's keys can sign its close. -/
theorem CloseTx.exists_sign (close : CloseTx) (role : Role) {c : Snapshot} {setup : Update}
    {funding : OutPoint} {p : Params} {keys : ChannelKeys}
    (hc : Closing.build c setup funding p = .ok close.document)
    (hk : keys.publish c.state = .ok (c.party role)) :
    ∃ sig, close.sign keys role = .ok (close.withSignature role sig) ∧
      (Signable.subject close.document).check role (some sig) = .ok () := by
  have hkey := (ChannelKeys.publish_eq_ok hk).1
  simp only [Closing.build, bind_eq_ok, pure_eq_ok] at hc
  obtain ⟨-, -, out, -, lockTime, -, hdoc⟩ := hc
  have hparty : (close.document.snapshot.party role).updateKey = keys.updateKey.publicKey := by
    rw [← hdoc, hkey]
  obtain ⟨sig, hsig, hcheck⟩ := SigningSubject.exists_sign (s := Signable.subject close.document)
    (by rw [← hdoc]; rfl) hparty
  refine ⟨sig, ?_, hcheck⟩
  rw [sign, if_neg (by simp [hparty]), hsig]
  rfl

/-! ## States -/

namespace StateTxs

/-- The owner of a state's keys can propose it, with valid signatures. -/
theorem exists_propose {c : Snapshot} {p : Params} {keys : ChannelKeys} {role : Role}
    {du : Update} {ds : Settlement} (hu : Update.build c p = .ok du)
    (hs : Settlement.build c p = .ok ds) (hk : keys.publish c.state = .ok (c.party role)) :
    ∃ t, propose c p keys role = .ok t ∧ t.SignedBy role := by
  obtain ⟨su, hsu, hcu⟩ := UpdateTx.exists_sign (.unsigned du) role hu hk
  obtain ⟨ss, hss, hcs⟩ := SettleTx.exists_sign (.unsigned ds) role hs hk
  refine ⟨⟨.withSignature (.unsigned du) role su, .withSignature (.unsigned ds) role ss⟩,
    ?_, ?_, ?_⟩
  · simp only [propose, UpdateTx.build, SettleTx.build, hu, hs, Except.map, ok_bind, hsu, hss]
    rfl
  · rw [Cosigned.verifySignature_withSignature]
    exact hcu
  · rw [Cosigned.verifySignature_withSignature]
    exact hcs

/-- The owner of a state's keys signs what it proposes. -/
theorem signedBy_of_propose {c : Snapshot} {p : Params} {keys : ChannelKeys} {role : Role}
    {t : StateTxs} (h : propose c p keys role = .ok t)
    (hk : keys.publish c.state = .ok (c.party role)) : t.SignedBy role := by
  obtain ⟨hsnapshot, hbuilt⟩ := built_of_propose h
  rw [← hsnapshot] at h hk
  obtain ⟨t', ht', hsigned⟩ := exists_propose hbuilt.update hbuilt.settle hk
  cases h.symm.trans ht'
  exact hsigned

/-- An honest proposal can be countersigned by the other side. -/
theorem exists_countersign {message : StateTxs} {p : Params} {keys : ChannelKeys} (role : Role)
    (hb : message.Built p) (hm : message.SignedBy role.other)
    (hk : keys.publish message.snapshot.state = .ok (message.snapshot.party role)) :
    ∃ t, countersign message.snapshot message keys role p = .ok t := by
  have hcommit : message.commitTo message.snapshot = true :=
    commitTo_iff.2 ⟨rfl, hb.snapshot_settle⟩
  obtain ⟨su, ss, hsigs, hcu, hcs⟩ := hm.exists_signatures
  obtain ⟨su', hsu', hcu'⟩ := UpdateTx.exists_sign
    (.withSignature (.unsigned message.update.document) role.other su) role
    (by rw [Cosigned.document_withSignature]; exact hb.update) hk
  obtain ⟨ss', hss', hcs'⟩ := SettleTx.exists_sign
    (.withSignature (.unsigned message.settle.document) role.other ss) role
    (by rw [Cosigned.document_withSignature]; exact hb.settle) hk
  rw [Cosigned.document_withSignature] at hcu' hcs'
  simp only [countersign, ite_error_eq_ok, UpdateTx.build, SettleTx.build, bind_eq_ok, map_eq_ok,
    pure_eq_ok]
  refine ⟨_, by simp [hcommit], (su, ss), hsigs, _, ⟨_, hb.update, rfl⟩, (), ?_, _,
    ⟨_, hb.settle, rfl⟩, (), ?_, _, hsu', _, hss', (), ?_, (), ?_, rfl⟩
  · rw [Cosigned.verifySignature_withSignature]
    exact hcu
  · rw [Cosigned.verifySignature_withSignature]
    exact hcs
  · exact Cosigned.verify_withSignature (.unsigned _) role hcu hcu'
  · exact Cosigned.verify_withSignature (.unsigned _) role hcs hcs'

end StateTxs

/-! ## Opening -/

/-- A side holds a complete state of a channel and has nothing under way in it. -/
structure Channel.Ready (role : Role) (s : Snapshot) (c : Channel) : Prop where
  role_eq : c.role = role
  active : c.status = .active
  snapshot_eq : c.snapshot = s
  keys : c.keys.publish s.state = .ok (s.party role)

/-- A node holds a complete state of a channel on one side, with nothing under way in it. -/
structure Node.Holds (n : Node) (p : Params) (partner : PeerId) (role : Role) (s : Snapshot) :
    Prop where
  params : n.params = p
  channel : ∃ c, n.channels.get? partner = some c ∧ c.Ready role s

/-- Both sides derive the same state 0 from the keys that they publish. -/
theorem Snapshot.opening_of_publish {keys keys' : ChannelKeys} {k k' : PartyKeys}
    (hk : keys.publish 0 = .ok k) (hk' : keys'.publish 0 = .ok k') (capacity : Amount) :
    opening k k' capacity = .ok (first capacity k k') := by
  rw [opening, PartyKeys.atState_of_publish hk, hk, ok_bind, PartyKeys.atState_of_publish hk', hk',
    ok_bind]
  rfl

/-- The next state, with the keys that both sides publish for it. -/
theorem Snapshot.nextState_of_publish {c : Snapshot} {keys keys' : ChannelKeys}
    {k k' : PartyKeys} {state : UInt32} (hstate : addState c.state 1 = .ok state)
    (hk : keys.publish c.state = .ok c.funder) (hk' : keys'.publish c.state = .ok c.counterparty)
    (hk₁ : keys.publish state = .ok k) (hk₁' : keys'.publish state = .ok k') :
    c.nextState = .ok { c with state, funder := k, counterparty := k' } := by
  simp only [nextState, hstate, PartyKeys.atState_of_publish hk, PartyKeys.atState_of_publish hk',
    hk₁, hk₁', ok_bind]
  rfl

/-- The state after state 0, with the keys that both sides publish for it. -/
theorem Snapshot.nextState_first {keys keys' : ChannelKeys} {k k' k₁ k₁' : PartyKeys}
    (hk : keys.publish 0 = .ok k) (hk' : keys'.publish 0 = .ok k')
    (hk₁ : keys.publish 1 = .ok k₁) (hk₁' : keys'.publish 1 = .ok k₁') (capacity : Amount) :
    (first capacity k k').nextState =
      .ok { first capacity k k' with state := 1, funder := k₁, counterparty := k₁' } :=
  nextState_of_publish (c := first capacity k k') rfl hk hk' hk₁ hk₁'

namespace Node

theorem checkStateZero_of_publish {keys : ChannelKeys} {k : PartyKeys}
    (h : keys.publish 0 = .ok k) (role : Role) : checkStateZero k role = .ok () := by
  rw [checkStateZero, if_pos (PartyKeys.settleKeyMatches_of_publish h)]

omit [LawfulKeyScheme] in
theorem proposeChannel_of_keys {n : Node} {e : Entropy} {partner : PeerId} {keys : ChannelKeys}
    {k : PartyKeys} (hnew : n.channels.get? partner = none)
    (hkeys : ChannelKeys.ofSeed n.params.network e.next.1.toBytes = .ok keys)
    (hk : keys.publish 0 = .ok k) :
    (proposeChannel partner).outcome e n =
      (.ok { keys := k }, { n with proposed := n.proposed.insert partner keys }) := by
  simp only [proposeChannel, Drawing.outcome_ofActing_bind, Drawing.outcome_draw_bind,
    Drawing.outcome_ofActing, proposeChannelFrom, bind_assoc, get_bind, lift_ok_bind,
    checkNew_eq_ok.2 hnew, hkeys, hk]
  rfl

/-- The counterparty answers with a valid signature on the refund. -/
theorem joinChannel_of_keys {n : Node} {e : Entropy} {partner : PeerId}
    {keys keys' : ChannelKeys} {k k' : PartyKeys} {du : Update} {ds : Settlement}
    (hnew : n.channels.get? partner = none)
    (hkeys' : ChannelKeys.ofSeed n.params.network e.next.1.toBytes = .ok keys')
    (hk : keys.publish 0 = .ok k) (hk' : keys'.publish 0 = .ok k')
    (hdu : Update.build (.first n.params.capacity k k') n.params = .ok du)
    (hds : Settlement.build (.first n.params.capacity k k') n.params = .ok ds) :
    ∃ sig, (joinChannel partner { keys := k }).outcome e n =
        (.ok { keys := k', signatures := { settle := some sig } },
          n.setChannel partner (openedChannel keys' .counterparty (.unsigned du)
            (.withSignature (.unsigned ds) .counterparty sig))) ∧
      (Signable.subject ds).check .counterparty (some sig) = .ok () := by
  obtain ⟨sig, hsign, hcheck⟩ := SettleTx.exists_sign (.unsigned ds) .counterparty hds hk'
  refine ⟨sig, ?_, hcheck⟩
  simp only [joinChannel, Drawing.outcome_ofActing_bind, Drawing.outcome_draw_bind,
    Drawing.outcome_ofActing, joinChannelFrom, bind_assoc, get_bind, lift_ok_bind,
    checkNew_eq_ok.2 hnew, checkStateZero_of_publish hk, hkeys', hk',
    Snapshot.opening_of_publish hk hk', UpdateTx.build, SettleTx.build, hdu, hds, Except.map, hsign]
  rfl

/-- The funder accepts a valid signature on the refund. -/
theorem createChannel_of_keys {n : Node} {partner : PeerId} {keys keys' : ChannelKeys}
    {k k' : PartyKeys} {du : Update} {ds : Settlement} {theirs : ChannelSignature}
    (hproposed : n.proposed.get? partner = some keys) (hk : keys.publish 0 = .ok k)
    (hk' : keys'.publish 0 = .ok k')
    (hdu : Update.build (.first n.params.capacity k k') n.params = .ok du)
    (hds : Settlement.build (.first n.params.capacity k k') n.params = .ok ds)
    (htheirs : (Signable.subject ds).check .counterparty (some theirs) = .ok ()) :
    ∃ settle, n.createChannel partner { keys := k', signatures := { settle := some theirs } } =
      (.ok ⟨.unsigned du, settle⟩,
        setChannel { n with proposed := n.proposed.erase partner } partner
          (openedChannel keys .funder (.unsigned du) settle)) := by
  obtain ⟨ours, hsign, hours⟩ := SettleTx.exists_sign
    (.withSignature (.unsigned ds) .counterparty theirs) .funder hds hk
  have hverify : Cosigned.verify
      (.withSignature (.withSignature (.unsigned ds) .counterparty theirs) .funder ours) = .ok () :=
    Cosigned.verify_withSignature (.unsigned ds) .funder htheirs hours
  refine ⟨.withSignature (.withSignature (.unsigned ds) .counterparty theirs) .funder ours, ?_⟩
  have hkeys : n.proposedKeys partner = .ok keys := expectProposal_eq_ok.2 hproposed
  simp only [createChannel, get_bind, lift_ok_bind, hkeys, checkStateZero_of_publish hk',
    refundSignature, hk, Snapshot.opening_of_publish hk hk', UpdateTx.build, SettleTx.build, hdu,
    hds, Except.map, Cosigned.verifySignature_withSignature, htheirs, hsign, hverify,
    bind_of_ok (takeProposed_of_ok hkeys)]
  rfl

/-- The records with which two nodes open a channel. -/
theorem exists_opening_records (funder counterparty : Node) {e e' : Entropy}
    {partner partner' : PeerId} {keys keys' : ChannelKeys} {k k' : PartyKeys}
    (hparams : counterparty.params = funder.params)
    (hnew : funder.channels.get? partner = none)
    (hnew' : counterparty.channels.get? partner' = none)
    (hkeys : ChannelKeys.ofSeed funder.params.network e.next.1.toBytes = .ok keys)
    (hkeys' : ChannelKeys.ofSeed funder.params.network e'.next.1.toBytes = .ok keys')
    (hk : keys.publish 0 = .ok k) (hk' : keys'.publish 0 = .ok k')
    (hlock : funder.params.lockTimeBase.toNat + 1 < UInt32.size) :
    ∃ reply txs du settle settle',
      (proposeChannel partner).outcome e funder =
        (.ok { keys := k }, { funder with proposed := funder.proposed.insert partner keys }) ∧
      (joinChannel partner' { keys := k }).outcome e' counterparty =
        (.ok reply, counterparty.setChannel partner'
          (openedChannel keys' .counterparty (.unsigned du) settle')) ∧
      createChannel partner reply
          { funder with proposed := funder.proposed.insert partner keys } =
        (.ok txs, setChannel
          { funder with proposed := (funder.proposed.insert partner keys).erase partner } partner
          (openedChannel keys .funder (.unsigned du) settle)) ∧
      du.snapshot = .first funder.params.capacity k k' := by
  obtain ⟨du, ds, hdu, hds⟩ := StateTxs.exists_build
    (Snapshot.conserved_first funder.params.capacity k k') hlock
  have hpropose := proposeChannel_of_keys hnew hkeys hk
  have hdu' := hdu
  have hds' := hds
  rw [← hparams] at hkeys' hdu' hds'
  obtain ⟨theirs, hjoin, htheirs⟩ := joinChannel_of_keys hnew' hkeys' hk hk' hdu' hds'
  obtain ⟨settle, hcreate⟩ := createChannel_of_keys
    (n := { funder with proposed := funder.proposed.insert partner keys })
    (SortedMap.get?_insert_self ..) hk hk' hdu hds htheirs
  exact ⟨_, _, du, settle, _, hpropose, hjoin, hcreate, Update.snapshot_of_build hdu⟩

/-- Two nodes can open a channel, if their keys can be derived and the lock times of state 0 can be
represented. -/
theorem exists_opening (funder counterparty : Node) {e e' : Entropy} {partner partner' : PeerId}
    {keys keys' : ChannelKeys} {k k' : PartyKeys} (hparams : counterparty.params = funder.params)
    (hnew : funder.channels.get? partner = none)
    (hnew' : counterparty.channels.get? partner' = none)
    (hkeys : ChannelKeys.ofSeed funder.params.network e.next.1.toBytes = .ok keys)
    (hkeys' : ChannelKeys.ofSeed funder.params.network e'.next.1.toBytes = .ok keys')
    (hk : keys.publish 0 = .ok k) (hk' : keys'.publish 0 = .ok k')
    (hlock : funder.params.lockTimeBase.toNat + 1 < UInt32.size) :
    ∃ party funder₁ reply counterparty₁ txs funder₂,
      (proposeChannel partner).outcome e funder = (.ok party, funder₁) ∧
      (joinChannel partner' party).outcome e' counterparty = (.ok reply, counterparty₁) ∧
      funder₁.createChannel partner reply = (.ok txs, funder₂) ∧
      funder₂.Holds funder.params partner .funder (.first funder.params.capacity k k') ∧
      counterparty₁.Holds funder.params partner' .counterparty
        (.first funder.params.capacity k k') := by
  obtain ⟨reply, txs, du, settle, settle', hpropose, hjoin, hcreate, hsnapshot⟩ :=
    exists_opening_records funder counterparty hparams hnew hnew' hkeys hkeys' hk hk' hlock
  exact ⟨_, _, _, _, _, _, hpropose, hjoin, hcreate,
    ⟨rfl, _, get?_setChannel_self .., rfl, rfl, hsnapshot, hk⟩,
    ⟨hparams, _, get?_setChannel_self .., rfl, rfl, hsnapshot, hk'⟩⟩

/-! ## Payments -/

omit [LawfulKeyScheme] in
/-- An offer adds one invoice. -/
theorem newInvoices_of_offers {c d : Snapshot} {invoice : Invoice} (h : c.Offers invoice d) :
    newInvoices c d = [invoice] := by
  have hget : (d.offered.filter fun hash _ => !c.offered.contains hash).get? invoice.hash =
      some invoice := by
    rw [SortedMap.get?_filter_eq_some_iff, h.offered, SortedMap.get?_insert_self, h.fresh]
    exact ⟨rfl, rfl⟩
  have hone : ∀ k v, (d.offered.filter fun hash _ => !c.offered.contains hash).get? k = some v →
      k = invoice.hash := by
    intro k v hkv
    rw [SortedMap.get?_filter_eq_some_iff, h.offered] at hkv
    by_cases hk : k = invoice.hash
    · exact hk
    · rw [SortedMap.get?_insert_of_ne _ hk] at hkv
      simp [SortedMap.contains, hkv.1] at hkv
  rw [newInvoices, SortedMap.values, SortedMap.entries_eq_singleton hget hone]
  rfl

omit [LawfulKeyScheme] in
/-- The counterparty finds the invoice of an honest offer. -/
theorem offeredInvoice_of_offers {c d : Snapshot} {invoice : Invoice} (hc : c.Conserved)
    (h : c.Offers invoice d) : offeredInvoice c d = .ok invoice := by
  have hlater : ¬ d.state ≤ c.state := by
    rw [UInt32.le_iff_toNat_le, h.state]
    omega
  have hcap : d.capacity.toNat < UInt64.size := d.capacity.toNat_lt
  have hd := h.conserved
  have hrefund := h.refund
  have hamount : 0 < invoice.amount.toNat :=
    Nat.pos_of_ne_zero fun h0 => h.nonzero (UInt64.toNat_inj.1 h0)
  unfold Snapshot.Conserved at hc hd
  rw [h.payment, h.capacity] at hd
  rw [h.capacity] at hcap
  obtain ⟨offered, ho⟩ := Snapshot.exists_invoiceTotal (l := c.offered.values) (by omega)
  obtain ⟨offered', ho'⟩ := Snapshot.exists_invoiceTotal (l := d.offered.values) (by omega)
  have hmore : ¬ offered' ≤ offered := by
    rw [UInt64.le_iff_toNat_le, Snapshot.toNat_invoiceTotal ho, Snapshot.toNat_invoiceTotal ho']
    omega
  simp only [offeredInvoice, checkLater, if_neg hlater, ok_bind,
    Snapshot.check_of_conserved h.conserved, h.payment, UInt64.lt_irrefl, if_false,
    Snapshot.offeredTotal, ho, ho', if_neg hmore, newInvoices_of_offers h]
  rfl

/-- The owner of a state's keys has those of the next state, if the state follows. -/
theorem publish_of_follows {c d : Snapshot} {keys : ChannelKeys} {role : Role}
    (h : c.Follows d) (hk : keys.publish c.state = .ok (c.party role)) :
    keys.publish d.state = .ok (d.party role) := by
  rw [← PartyKeys.atState_of_publish hk]
  cases role
  · exact h.funder
  · exact h.counterparty

theorem proposePayment_of_ready {n : Node} {partner : PeerId} {c : Channel} {s next : Snapshot}
    {invoice : Invoice} (hc : n.channels.get? partner = some c) (h : c.Ready .funder s)
    (hoffer : s.offer invoice = .ok next)
    (hlock : n.params.lockTimeBase.toNat + next.state.toNat + 1 < UInt32.size) :
    ∃ txs, n.proposePayment partner invoice = (.ok ⟨txs⟩, n.setChannel partner (c.awaiting txs)) ∧
      txs.snapshot = next ∧ txs.Built n.params ∧ txs.SignedBy .funder := by
  have hoffers := Snapshot.offers_of_offer hoffer
  have hidle := idleChannel_eq_ok.2 ⟨hc, h.role_eq, h.active⟩
  obtain ⟨du, ds, hdu, hds⟩ := StateTxs.exists_build hoffers.conserved hlock
  obtain ⟨txs, hpropose, hsigned⟩ :=
    StateTxs.exists_propose hdu hds (publish_of_follows hoffers.toFollows h.keys)
  obtain ⟨hnext, hbuilt⟩ := StateTxs.built_of_propose hpropose
  refine ⟨txs, ?_, hnext, hbuilt, hsigned⟩
  simp only [proposePayment, get_bind, lift_ok_bind, hidle, h.snapshot_eq, hoffer, hpropose,
    modifyChannel_bind_pure hc]

theorem receivePayment_of_ready {n : Node} {partner : PeerId} {c : Channel} {s : Snapshot}
    {invoice : Invoice} {txs : StateTxs} (hc : n.channels.get? partner = some c)
    (h : c.Ready .counterparty s) (hs : s.Conserved) (hoffer : s.offer invoice = .ok txs.snapshot)
    (hbuilt : txs.Built n.params) (hsigned : txs.SignedBy .funder) :
    ∃ answer, n.receivePayment partner ⟨txs⟩ =
        (.ok ⟨answer, n.secrets.get? invoice.hash⟩, n.setChannel partner (c.withComplete answer)) ∧
      StateTxs.Countersigned txs.snapshot txs .counterparty n.params answer := by
  have hoffers := Snapshot.offers_of_offer hoffer
  have hidle := idleChannel_eq_ok.2 ⟨hc, h.role_eq, h.active⟩
  obtain ⟨answer, hanswer⟩ := StateTxs.exists_countersign .counterparty hbuilt hsigned
    (publish_of_follows hoffers.toFollows h.keys)
  refine ⟨answer, ?_, StateTxs.countersigned_of_countersign hanswer⟩
  simp only [receivePayment, get_bind, lift_ok_bind, hidle, h.snapshot_eq,
    offeredInvoice_of_offers hs hoffers, hoffer, hanswer, modifyChannel_bind_pure hc]

omit [LawfulKeyScheme] in
theorem confirmPayment_of_complete {n : Node} {partner : PeerId} {c : Channel}
    {pending answer : StateTxs} (hc : n.channels.get? partner = some c) (hrole : c.role = .funder)
    (hp : c.pending = some pending) (hcomplete : pending.complete answer .funder = .ok answer)
    (secret : Option Preimage) :
    ∃ n', n.confirmPayment partner ⟨answer, secret⟩ = (.ok (), n') ∧ n'.params = n.params ∧
      n'.channels.get? partner =
        some { c with pending := none, status := .active, complete := answer } := by
  have hfinish := finishProposal_of_pending hc hp answer
  rw [hrole, hcomplete] at hfinish
  have hrecord := get?_setChannel_self n partner (c.idle.withComplete answer)
  rcases n.confirmPayment_cases partner ⟨answer, secret⟩ with heq | ⟨s, n', hfinish', heq⟩
  · exact ⟨_, heq.trans hfinish, rfl, hrecord⟩
  · cases hfinish'.symm.trans hfinish
    exact ⟨_, heq, rfl, hrecord⟩

/-- A payment that can be offered is paid, between nodes that hold the same state. -/
theorem exists_payment {funder counterparty : Node} {p : Params} {partner partner' : PeerId}
    {s next : Snapshot} {invoice : Invoice} (hf : funder.Holds p partner .funder s)
    (hg : counterparty.Holds p partner' .counterparty s) (hs : s.Conserved)
    (hoffer : s.offer invoice = .ok next)
    (hlock : p.lockTimeBase.toNat + next.state.toNat + 1 < UInt32.size) :
    ∃ proposal funder₁ receipt counterparty₁ funder₂,
      funder.proposePayment partner invoice = (.ok proposal, funder₁) ∧
      counterparty.receivePayment partner' proposal = (.ok receipt, counterparty₁) ∧
      funder₁.confirmPayment partner receipt = (.ok (), funder₂) ∧
      funder₂.Holds p partner .funder next ∧
      counterparty₁.Holds p partner' .counterparty next := by
  obtain ⟨rfl, c, hc, hready⟩ := hf
  obtain ⟨hparams, c', hc', hready'⟩ := hg
  have hfollows := (Snapshot.offers_of_offer hoffer).toFollows
  obtain ⟨txs, hpropose, rfl, hbuilt, hsigned⟩ := proposePayment_of_ready hc hready hoffer hlock
  obtain ⟨answer, hreceive, hanswer⟩ :=
    receivePayment_of_ready hc' hready' hs hoffer (hparams ▸ hbuilt) hsigned
  rw [hparams] at hanswer
  have hcomplete : txs.complete answer .funder = .ok answer :=
    StateTxs.complete_of_countersign hbuilt hanswer
  obtain ⟨funder₂, hconfirm, hparams₂, hc₂⟩ := confirmPayment_of_complete
    (get?_setChannel_self funder partner { c with pending := some txs, status := .updating })
    hready.role_eq rfl hcomplete (counterparty.secrets.get? invoice.hash)
  exact ⟨_, _, _, _, funder₂, hpropose, hreceive, hconfirm,
    ⟨hparams₂, _, hc₂, hready.role_eq, rfl, hanswer.snapshot,
      publish_of_follows hfollows hready.keys⟩,
    ⟨hparams, _, get?_setChannel_self .., hready'.role_eq, hready'.active, hanswer.snapshot,
      publish_of_follows hfollows hready'.keys⟩⟩

end Node

/-! ## Closing -/

/-- The transaction of a close, with the signatures of both sides. -/
def Closing.witnessed (c : Closing) (funderSig otherSig : ChannelSignature) : Transaction :=
  { c.template with
    inputs := c.template.inputs.map fun i =>
      { i with witness := Witness.update funderSig otherSig c.setupScript } }

namespace Closing

variable {d : Closing} {c : Snapshot} {setup : Update} {funding : OutPoint} {p : Params}

omit [KeyScheme] [LawfulKeyScheme] in
theorem withWitness_witnessed (h : build c setup funding p = .ok d) (f g : ChannelSignature) :
    (d.witnessed f g).withWitness 0 [] = d.template := by
  simp only [build, bind_eq_ok, pure_eq_ok] at h
  obtain ⟨-, -, out, -, lockTime, -, rfl⟩ := h
  rfl

omit [KeyScheme] [LawfulKeyScheme] in
theorem firstWitness_witnessed (h : build c setup funding p = .ok d) (f g : ChannelSignature) :
    CloseTx.firstWitness (d.witnessed f g) = Witness.update f g d.setupScript := by
  simp only [build, bind_eq_ok, pure_eq_ok] at h
  obtain ⟨-, -, out, -, lockTime, -, rfl⟩ := h
  rfl

end Closing

omit [LawfulKeyScheme] in
theorem CloseTx.transaction_eq_ok {close : CloseTx} {tx : Transaction} :
    close.transaction = .ok tx ↔ ∃ f g, close.signature .funder = some f ∧
      close.signature .counterparty = some g ∧ close.verify = .ok () ∧
      tx = close.document.witnessed f g := by
  simp only [transaction, bind_eq_ok, pure_eq_ok]
  constructor
  · rintro ⟨⟨f, g⟩, hsigs, rfl⟩
    obtain ⟨hf, hg, hverify⟩ := Cosigned.verifiedSignatures_eq_ok.1 hsigs
    exact ⟨f, g, hf, hg, hverify, rfl⟩
  · rintro ⟨f, g, hf, hg, hverify, rfl⟩
    exact ⟨(f, g), Cosigned.verifiedSignatures_eq_ok.2 ⟨hf, hg, hverify⟩, rfl⟩

omit [LawfulKeyScheme] in
theorem CloseTx.exists_transaction {close : CloseTx} (h : close.verify = .ok ()) :
    ∃ tx, close.transaction = .ok tx := by
  obtain ⟨f, hf⟩ := Cosigned.exists_signature h .funder
  obtain ⟨g, hg⟩ := Cosigned.exists_signature h .counterparty
  exact ⟨_, transaction_eq_ok.2 ⟨f, g, hf, hg, h, rfl⟩⟩

omit [LawfulKeyScheme] in
/-- The transaction of a close that both sides signed is adopted by whoever built that close. -/
theorem CloseTx.adopt_of_transaction {close signed : CloseTx} {c : Snapshot} {setup : Update}
    {funding : OutPoint} {p : Params} {tx : Transaction}
    (hc : Closing.build c setup funding p = .ok close.document)
    (htx : signed.transaction = .ok tx) (hdocument : signed.document = close.document) :
    close.adopt tx = .ok signed := by
  obtain ⟨f, g, hf, hg, hverify, rfl⟩ := transaction_eq_ok.1 htx
  rw [hdocument]
  have htemplate := Closing.withWitness_witnessed hc f g
  have hfirst := Closing.firstWitness_witnessed hc f g
  have hfunder : witnessSignature (firstWitness (close.document.witnessed f g)) 1 .funder = .ok f :=
    witnessSignature_of_get (by rw [hfirst]; rfl) .funder
  have hother :
      witnessSignature (firstWitness (close.document.witnessed f g)) 2 .counterparty = .ok g :=
    witnessSignature_of_get (by rw [hfirst]; rfl) .counterparty
  have hsigned : (close.withSignature .funder f).withSignature .counterparty g = signed :=
    Cosigned.ext_signature hdocument.symm .funder hf.symm hg.symm
  simp only [adopt, htemplate, ne_eq, not_true_eq_false, if_false, hfunder, hother, ok_bind,
    hsigned, hverify]
  rfl

namespace Node

theorem proposeClose_of_ready {n : Node} {partner : PeerId} {c : Channel} {role : Role}
    {s : Snapshot} {funding : OutPoint} {document : Closing}
    (hc : n.channels.get? partner = some c) (h : c.Ready role s)
    (hbuild : Closing.build s c.setup.document funding n.params = .ok document) :
    ∃ sig, n.proposeClose partner funding =
        (.ok (.withSignature (.unsigned document) role sig), n.setChannel partner
          { c with proposedClose := some (.withSignature (.unsigned document) role sig) }) ∧
      (Signable.subject document).check role (some sig) = .ok () := by
  have hclosable := closableChannel_eq_ok.2 ⟨hc, h.active⟩
  obtain ⟨sig, hsign, hcheck⟩ := CloseTx.exists_sign (.unsigned document) role hbuild h.keys
  refine ⟨sig, ?_, hcheck⟩
  simp only [proposeClose, get_bind, lift_ok_bind, hclosable, h.snapshot_eq, h.role_eq,
    CloseTx.build, hbuild, Except.map, hsign, modifyChannel_bind_pure hc]

/-- A proposed close can be signed by the owner of the other side's keys, so that its proposer
adopts it. -/
theorem exists_signed_close {n : Node} {partner : PeerId} {c : Channel} {role : Role}
    {s : Snapshot} {funding : OutPoint} {document : Closing} {keys : ChannelKeys}
    (hc : n.channels.get? partner = some c) (h : c.Ready role s)
    (hkeys : keys.publish s.state = .ok (s.party role.other))
    (hbuild : Closing.build s c.setup.document funding n.params = .ok document) :
    ∃ (close signed : CloseTx) (tx : Transaction), close.document = document ∧
      n.proposeClose partner funding =
        (.ok close, n.setChannel partner { c with proposedClose := some close }) ∧
      close.adopt tx = .ok signed := by
  obtain ⟨ours, hpropose, hours⟩ := proposeClose_of_ready hc h hbuild
  obtain ⟨theirs, -, htheirs⟩ := CloseTx.exists_sign (.unsigned document) role.other hbuild hkeys
  rw [← Role.other_other role] at hours
  obtain ⟨tx, htx⟩ := CloseTx.exists_transaction
    (Cosigned.verify_withSignature (.unsigned document) role.other hours htheirs)
  have hdocument : (Cosigned.withSignature (.unsigned document) role ours).document = document :=
    Cosigned.document_withSignature ..
  rw [← hdocument] at hbuild
  refine ⟨_, _, tx, hdocument, hpropose, CloseTx.adopt_of_transaction hbuild htx ?_⟩
  simp only [Cosigned.document_withSignature]

omit [LawfulKeyScheme] in
theorem confirmClose_of_adopt {n : Node} {partner : PeerId} {c : Channel} {close signed : CloseTx}
    {tx : Transaction} (hc : n.channels.get? partner = some c)
    (hp : c.proposedClose = some close) (hadopt : close.adopt tx = .ok signed) :
    n.confirmClose partner tx =
      (.ok (), n.setChannel partner { c with proposedClose := none, status := .closed }) := by
  simp only [confirmClose, get_bind, lift_ok_bind, channel_eq_ok.2 hc, expectProposal_eq_ok.2 hp,
    hadopt]
  exact modifyChannel_of_get? hc _

end Node

end Scheme

/-! ## A channel over secp256k1 -/

/-- A source that draws zeros only. -/
def Entropy.zeros : Entropy := ⟨fun _ => FixedBytes.zero 32, 0⟩

/-- The keys drawn from zeros exist, with those of states 0, 1 and 2, and the scripts of the first
two states do not have the same hash. -/
theorem exists_states_zeros :
    letI : KeyScheme := .secp256k1
    ∃ keys k k' k'' script script',
      ChannelKeys.ofSeed .regtest Entropy.zeros.next.1.toBytes = .ok keys ∧
      keys.publish 0 = .ok k ∧ keys.publish 1 = .ok k' ∧ keys.publish 2 = .ok k'' ∧
      (Snapshot.first 1000000 k k).updateScript {} = .ok script ∧
      { Snapshot.first 1000000 k' k' with state := 1 }.updateScript {} = .ok script' ∧
      sha256 script ≠ sha256 script' := by
  let _ : KeyScheme := .secp256k1
  have hderive : ((do
      let keys ← ChannelKeys.ofSeed .regtest Entropy.zeros.next.1.toBytes
      let k ← keys.publish 0
      let k' ← keys.publish 1
      let _ ← keys.publish 2
      let script ← (Snapshot.first 1000000 k k).updateScript {}
      let script' ← { Snapshot.first 1000000 k' k' with state := 1 }.updateScript {}
      return decide (sha256 script ≠ sha256 script')) : Result Bool).toOption = some true := by
    decide +kernel
  rw [toOption_eq_some] at hderive
  simp only [bind_eq_ok, pure_eq_ok, decide_eq_true_eq] at hderive
  obtain ⟨keys, hkeys, k, hk, k', hk', k'', hk'', script, hscript, script', hscript', hne⟩ :=
    hderive
  exact ⟨keys, k, k', k'', script, script', hkeys, hk, hk', hk'', hscript, hscript', hne⟩

theorem exists_scripts_zeros :
    letI : KeyScheme := .secp256k1
    ∃ keys k k' script script',
      ChannelKeys.ofSeed .regtest Entropy.zeros.next.1.toBytes = .ok keys ∧
      keys.publish 0 = .ok k ∧ keys.publish 1 = .ok k' ∧
      (Snapshot.first 1000000 k k).updateScript {} = .ok script ∧
      { Snapshot.first 1000000 k' k' with state := 1 }.updateScript {} = .ok script' ∧
      sha256 script ≠ sha256 script' := by
  obtain ⟨keys, k, k', -, script, script', hkeys, hk, hk', -, hscripts⟩ := exists_states_zeros
  exact ⟨keys, k, k', script, script', hkeys, hk, hk', hscripts⟩

theorem exists_keys_zeros :
    letI : KeyScheme := .secp256k1
    ∃ keys k k', ChannelKeys.ofSeed .regtest Entropy.zeros.next.1.toBytes = .ok keys ∧
      keys.publish 0 = .ok k ∧ keys.publish 1 = .ok k' := by
  obtain ⟨keys, k, k', -, -, hkeys, hk, hk', -⟩ := exists_scripts_zeros
  exact ⟨keys, k, k', hkeys, hk, hk'⟩

/-- With keys drawn from zeros, a payment that the funder can afford can be offered in state 0 and
resolved in state 1. -/
theorem Snapshot.exists_next_zeros :
    letI : KeyScheme := .secp256k1
    ∃ keys k, ChannelKeys.ofSeed .regtest Entropy.zeros.next.1.toBytes = .ok keys ∧
      keys.publish 0 = .ok k ∧
      ∀ invoice : Invoice, invoice.amount ≠ 0 → invoice.amount ≤ 1000000 →
        ∃ s, (first 1000000 k k).offer invoice = .ok s ∧ s.state = 1 ∧
          ∀ secrets t, ∃ s', s.resolve secrets t = .ok s' ∧ s'.state = 2 := by
  let _ : KeyScheme := .secp256k1
  have _ : LawfulKeyScheme := lawful_secp256k1
  obtain ⟨keys, k, k₁, k₂, -, -, hkeys, hk, hk₁, hk₂, -⟩ := exists_states_zeros
  refine ⟨keys, k, hkeys, hk, ?_⟩
  intro invoice hne hle
  obtain ⟨s, hoffer, hstate⟩ := exists_offer invoice (conserved_first 1000000 k k)
    (nextState_first hk hk hk₁ hk₁ 1000000) hne rfl hle
  have hstate : s.state = 1 := hstate
  have hoffers := offers_of_offer hoffer
  have hnext : addState s.state 1 = .ok 2 := by
    rw [hstate]
    rfl
  have hfunder : keys.publish s.state = .ok (s.party .funder) :=
    Node.publish_of_follows hoffers.toFollows hk
  have hcounterparty : keys.publish s.state = .ok (s.party .counterparty) :=
    Node.publish_of_follows hoffers.toFollows hk
  have hfollows := nextState_of_publish hnext hfunder hcounterparty hk₂ hk₂
  exact ⟨s, hoffer, hstate, fun secrets t => exists_resolve secrets t hoffers.conserved hfollows⟩

/-- Two nodes with the default parameters open a channel with keys drawn from zeros. -/
theorem Node.exists_opening_default [KeyScheme] [LawfulKeyScheme] {funder counterparty : Node}
    {partner partner' : PeerId} {keys : ChannelKeys} {k : PartyKeys} (hf : funder.params = {})
    (hg : counterparty.params = {}) (hnew : funder.channels.get? partner = none)
    (hnew' : counterparty.channels.get? partner' = none)
    (hkeys : ChannelKeys.ofSeed .regtest Entropy.zeros.next.1.toBytes = .ok keys)
    (hk : keys.publish 0 = .ok k) :
    ∃ party funder₁ reply counterparty₁ txs funder₂,
      (Node.proposeChannel partner).outcome .zeros funder = (.ok party, funder₁) ∧
      (Node.joinChannel partner' party).outcome .zeros counterparty = (.ok reply, counterparty₁) ∧
      funder₁.createChannel partner reply = (.ok txs, funder₂) ∧
      funder₂.Holds {} partner .funder (.first 1000000 k k) ∧
      counterparty₁.Holds {} partner' .counterparty (.first 1000000 k k) := by
  have hnetwork : ChannelKeys.ofSeed funder.params.network Entropy.zeros.next.1.toBytes =
      .ok keys := by
    rw [hf]
    exact hkeys
  have hlock : funder.params.lockTimeBase.toNat + 1 < UInt32.size := by
    rw [hf]
    decide
  have hopening := exists_opening funder counterparty (hg.trans hf.symm) hnew hnew' hnetwork
    hnetwork hk hk hlock
  rw [hf] at hopening
  exact hopening

/-- An invoice over a thousand units. -/
def sampleInvoice : Invoice := ⟨0, FixedBytes.zero 20, 1000, 0⟩

/-- Two nodes with the default parameters open a channel with keys drawn from zeros, and the funder
can offer a payment in it. -/
theorem exists_opening_zeros :
    letI : KeyScheme := .secp256k1
    ∃ party funder reply counterparty txs funder' k next,
      (Node.proposeChannel ⟨1⟩).outcome .zeros (Node.create ⟨0⟩ {}) = (.ok party, funder) ∧
      (Node.joinChannel ⟨0⟩ party).outcome .zeros (Node.create ⟨1⟩ {}) = (.ok reply, counterparty) ∧
      funder.createChannel ⟨1⟩ reply = (.ok txs, funder') ∧
      funder'.Holds {} ⟨1⟩ .funder (.first 1000000 k k) ∧
      counterparty.Holds {} ⟨0⟩ .counterparty (.first 1000000 k k) ∧
      (Snapshot.first 1000000 k k).offer sampleInvoice = .ok next ∧ next.state = 1 := by
  let _ : KeyScheme := .secp256k1
  have _ : LawfulKeyScheme := lawful_secp256k1
  obtain ⟨keys, k, hkeys, hk, hnext⟩ := Snapshot.exists_next_zeros
  obtain ⟨next, hoffer, hstate, -⟩ := hnext sampleInvoice (by decide) (by decide)
  have hnew (id partner : PeerId) : (Node.create id {}).channels.get? partner = none := rfl
  obtain ⟨party, funder, reply, counterparty, txs, funder', hpropose, hjoin, hcreate, hf, hg⟩ :=
    Node.exists_opening_default rfl rfl (hnew ⟨0⟩ ⟨1⟩) (hnew ⟨1⟩ ⟨0⟩) hkeys hk
  exact ⟨party, funder, reply, counterparty, txs, funder', k, next, hpropose, hjoin, hcreate, hf,
    hg, hoffer, hstate⟩

end Supersede
