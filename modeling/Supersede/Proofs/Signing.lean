import Supersede.Node.Exchange
import Supersede.Proofs.Ledger

/-!
# Signing a state

Both parties build the transactions of a state on their own; a message of the other party adds only
signatures to them. So whatever a party takes as complete is what `build` gives for a snapshot of
its own, with signatures that it has checked.

* `StateTxs.built_of_propose`, `StateTxs.countersigned_of_countersign` and
  `StateTxs.signed_of_complete`: what the three steps of a handshake yield.
* `StateTxs.complete_of_countersign`: an honest answer always completes the proposal it answers.
-/

namespace Supersede

open Result

@[simp] theorem Role.other_other (role : Role) : role.other.other = role := by cases role <;> rfl

theorem Role.other_ne (role : Role) : role.other ≠ role := by cases role <;> nofun

theorem Role.eq_other_of_ne {r role : Role} (h : r ≠ role) : r = role.other := by
  cases r <;> cases role <;> first | rfl | exact absurd rfl h

/-! ## Signatures on one document -/

theorem SigningSubject.check_eq_ok [KeyScheme] {s : SigningSubject} {role : Role}
    {sig : ChannelSignature} :
    s.check role (some sig) = .ok () ↔ sig.mode = s.mode ∧
      s.transaction.verifyInput 0 s.scriptCode s.value sig (s.key role) = .ok true := by
  by_cases hmode : sig.mode = s.mode
  · simp only [check, hmode, ne_eq, not_true_eq_false, if_false, true_and]
    rcases s.transaction.verifyInput 0 s.scriptCode s.value sig (s.key role) with e | (_ | _) <;>
      simp
  · simp [check, hmode]

namespace Cosigned

variable {α : Type}

@[simp] theorem document_unsigned (document : α) : (unsigned document).document = document := rfl

@[simp] theorem document_withSignature (d : Cosigned α) (role : Role) (sig : ChannelSignature) :
    (d.withSignature role sig).document = d.document := by
  cases role <;> rfl

@[simp] theorem signature_withSignature_self (d : Cosigned α) (role : Role)
    (sig : ChannelSignature) : (d.withSignature role sig).signature role = some sig := by
  cases role <;> rfl

theorem signature_withSignature_of_ne (d : Cosigned α) {role role' : Role} (h : role ≠ role')
    (sig : ChannelSignature) : (d.withSignature role' sig).signature role = d.signature role := by
  cases role <;> cases role' <;> first | rfl | exact absurd rfl h

/-- Documents with the same content and the same signatures are equal. -/
theorem ext_signature {d e : Cosigned α} (hdoc : d.document = e.document) (role : Role)
    (h : d.signature role = e.signature role)
    (h' : d.signature role.other = e.signature role.other) : d = e := by
  cases d; cases e
  cases role <;> simp_all [signature, Role.other]

variable [KeyScheme] [Signable α]

theorem verify_eq_ok_iff {d : Cosigned α} :
    d.verify = .ok () ↔ ∀ role, d.verifySignature role = .ok () := by
  simp only [verify, bind_eq_ok]
  constructor
  · rintro ⟨⟨⟩, hf, hc⟩ (_ | _)
    · exact hf
    · exact hc
  · intro h
    exact ⟨(), h .funder, h .counterparty⟩

theorem verifiedSignatures_eq_ok {d : Cosigned α} {f c : ChannelSignature} :
    d.verifiedSignatures = .ok (f, c) ↔ d.signature .funder = some f ∧
      d.signature .counterparty = some c ∧ d.verify = .ok () := by
  simp only [verifiedSignatures, bind_eq_ok]
  constructor
  · rintro ⟨⟨⟩, hverify, hsigs⟩
    split at hsigs
    · cases hsigs
      exact ⟨‹_›, ‹_›, hverify⟩
    · cases hsigs
  · rintro ⟨hf, hc, hverify⟩
    change d.funderSig = some f at hf
    change d.counterpartySig = some c at hc
    exact ⟨(), hverify, by rw [hf, hc]⟩

/-- A signature on a verified document is in the document's mode and valid. -/
theorem valid_of_verify {d : Cosigned α} (h : d.verify = .ok ()) {role : Role}
    {sig : ChannelSignature} (hsig : d.signature role = some sig) :
    sig.mode = (Signable.subject d.document).mode ∧
      (Signable.subject d.document).transaction.verifyInput 0
        (Signable.subject d.document).scriptCode (Signable.subject d.document).value sig
        ((Signable.subject d.document).key role) = .ok true := by
  have hcheck := verify_eq_ok_iff.1 h role
  rw [verifySignature, hsig] at hcheck
  exact SigningSubject.check_eq_ok.1 hcheck

theorem exists_signature {d : Cosigned α} (h : d.verify = .ok ()) (role : Role) :
    ∃ sig, d.signature role = some sig := by
  have hcheck := verify_eq_ok_iff.1 h role
  rw [verifySignature] at hcheck
  cases hsig : d.signature role with
  | none => simp [hsig, SigningSubject.check] at hcheck
  | some sig => exact ⟨sig, rfl⟩

end Cosigned

section Scheme

variable [KeyScheme]

theorem UpdateTx.exists_signature_of_sign {u u' : UpdateTx} {keys : ChannelKeys} {role : Role}
    (h : u.sign keys role = .ok u') : ∃ sig, u' = u.withSignature role sig := by
  simp only [sign, ite_error_eq_ok, bind_eq_ok, pure_eq_ok] at h
  obtain ⟨-, sig, -, rfl⟩ := h
  exact ⟨sig, rfl⟩

theorem SettleTx.exists_signature_of_sign {s s' : SettleTx} {keys : ChannelKeys} {role : Role}
    (h : s.sign keys role = .ok s') : ∃ sig, s' = s.withSignature role sig := by
  simp only [sign, ite_error_eq_ok, bind_eq_ok, pure_eq_ok] at h
  obtain ⟨-, -, -, sig, -, rfl⟩ := h
  exact ⟨sig, rfl⟩

end Scheme

/-! ## Built transactions -/

theorem Update.snapshot_of_build {c : Snapshot} {p : Params} {u : Update}
    (h : Update.build c p = .ok u) : u.snapshot = c := by
  simp only [build, bind_eq_ok, pure_eq_ok] at h
  obtain ⟨-, -, -, -, -, -, rfl⟩ := h
  rfl

theorem Settlement.snapshot_of_build {c : Snapshot} {p : Params} {s : Settlement}
    (h : Settlement.build c p = .ok s) : s.snapshot = c := by
  simp only [build, bind_eq_ok, pure_eq_ok] at h
  obtain ⟨-, -, -, -, -, -, rfl⟩ := h
  rfl

namespace StateTxs

/-- The transactions are those that `build` gives for their snapshot, signatures aside. -/
structure Built (p : Params) (t : StateTxs) : Prop where
  update : Update.build t.snapshot p = .ok t.update.document
  settle : Settlement.build t.snapshot p = .ok t.settle.document

theorem Built.of_build {c : Snapshot} {p : Params} {t : StateTxs}
    (hu : Update.build c p = .ok t.update.document)
    (hs : Settlement.build c p = .ok t.settle.document) : t.snapshot = c ∧ t.Built p := by
  have hc : t.snapshot = c := Update.snapshot_of_build hu
  exact ⟨hc, hc ▸ hu, hc ▸ hs⟩

/-- Both transactions commit to one snapshot. -/
theorem Built.snapshot_settle {p : Params} {t : StateTxs} (h : t.Built p) :
    t.settle.document.snapshot = t.snapshot :=
  Settlement.snapshot_of_build h.settle

theorem commitTo_iff {t : StateTxs} {c : Snapshot} :
    t.commitTo c = true ↔ t.snapshot = c ∧ t.settle.document.snapshot = c := by
  rw [commitTo, Bool.and_eq_true, beq_iff_eq, beq_iff_eq]
  rfl

theorem signatures_eq_ok_iff {t : StateTxs} {role : Role} {su ss : ChannelSignature} :
    t.signatures role = .ok (su, ss) ↔
      t.update.signature role = some su ∧ t.settle.signature role = some ss := by
  unfold signatures
  split <;> simp_all

variable [KeyScheme]

/-- Both parties' signatures on both transactions are valid. -/
structure Signed (t : StateTxs) : Prop where
  update : t.update.verify = .ok ()
  settle : t.settle.verify = .ok ()

/-! ## The three steps of a handshake -/

theorem built_of_propose {c : Snapshot} {p : Params} {keys : ChannelKeys} {role : Role}
    {t : StateTxs} (h : propose c p keys role = .ok t) : t.snapshot = c ∧ t.Built p := by
  simp only [propose, UpdateTx.build, SettleTx.build, bind_eq_ok, map_eq_ok, pure_eq_ok] at h
  obtain ⟨_, ⟨du, hdu, rfl⟩, update, hu, _, ⟨ds, hds, rfl⟩, settle, hs, rfl⟩ := h
  obtain ⟨su, rfl⟩ := UpdateTx.exists_signature_of_sign hu
  obtain ⟨ss, rfl⟩ := SettleTx.exists_signature_of_sign hs
  exact Built.of_build (by simpa using hdu) (by simpa using hds)

/-- What a side gets by signing the expected snapshot after the other side's message. -/
structure Countersigned (expected : Snapshot) (message : StateTxs) (role : Role) (p : Params)
    (t : StateTxs) : Prop where
  message_snapshot : message.snapshot = expected
  snapshot : t.snapshot = expected
  built : t.Built p
  signed : t.Signed
  update_signature : t.update.signature role.other = message.update.signature role.other
  settle_signature : t.settle.signature role.other = message.settle.signature role.other
  own_signatures : ∃ su ss, t.signatures role = .ok (su, ss)

theorem countersigned_of_countersign {expected : Snapshot} {message t : StateTxs}
    {keys : ChannelKeys} {role : Role} {p : Params}
    (h : countersign expected message keys role p = .ok t) :
    Countersigned expected message role p t := by
  simp only [countersign, ite_error_eq_ok, UpdateTx.build, SettleTx.build, bind_eq_ok, map_eq_ok,
    pure_eq_ok] at h
  obtain ⟨hcommit, ⟨su, ss⟩, hsigs, _, ⟨du, hdu, rfl⟩, -, -, _, ⟨ds, hds, rfl⟩, -, -, update, hu,
    settle, hs, ⟨⟩, hvu, ⟨⟩, hvs, rfl⟩ := h
  obtain ⟨hsu, hss⟩ := signatures_eq_ok_iff.1 hsigs
  obtain ⟨su', rfl⟩ := UpdateTx.exists_signature_of_sign hu
  obtain ⟨ss', rfl⟩ := SettleTx.exists_signature_of_sign hs
  -- Signatures do not change what was built.
  obtain ⟨hsnapshot, hbuilt⟩ := @Built.of_build expected p
    ⟨((Cosigned.unsigned du).withSignature role.other su).withSignature role su',
      ((Cosigned.unsigned ds).withSignature role.other ss).withSignature role ss'⟩
    (by simpa using hdu) (by simpa using hds)
  exact {
    message_snapshot := (commitTo_iff.1 (by simpa using hcommit)).1
    snapshot := hsnapshot
    built := hbuilt
    signed := ⟨hvu, hvs⟩
    update_signature := by
      rw [Cosigned.signature_withSignature_of_ne _ role.other_ne,
        Cosigned.signature_withSignature_self, hsu]
    settle_signature := by
      rw [Cosigned.signature_withSignature_of_ne _ role.other_ne,
        Cosigned.signature_withSignature_self, hss]
    own_signatures := ⟨su', ss', signatures_eq_ok_iff.2
      ⟨Cosigned.signature_withSignature_self _ role su',
        Cosigned.signature_withSignature_self _ role ss'⟩⟩ }

/-- A completed proposal is the proposal itself, fully signed. -/
theorem signed_of_complete {pending answer t : StateTxs} {role : Role}
    (h : pending.complete answer role = .ok t) :
    t.update.document = pending.update.document ∧ t.settle.document = pending.settle.document ∧
      t.Signed := by
  simp only [complete, ite_error_eq_ok, bind_eq_ok, pure_eq_ok] at h
  obtain ⟨-, ⟨su, ss⟩, -, ⟨⟩, hvu, ⟨⟩, hvs, rfl⟩ := h
  exact ⟨Cosigned.document_withSignature _ _ su, Cosigned.document_withSignature _ _ ss, hvu, hvs⟩

theorem snapshot_of_complete {pending answer t : StateTxs} {role : Role}
    (h : pending.complete answer role = .ok t) : t.snapshot = pending.snapshot :=
  congrArg Update.snapshot (signed_of_complete h).1

/-- A proposal that the other side has countersigned completes to what that side took as
complete. -/
theorem complete_of_countersign {expected : Snapshot} {pending answer : StateTxs} {role : Role}
    {p : Params} (hp : pending.Built p)
    (h : Countersigned expected pending role.other p answer) :
    pending.complete answer role = .ok answer := by
  obtain ⟨hmsg, hsnap, hbuilt, hsigned, hu, hs, su, ss, hsigs⟩ := h
  rw [Role.other_other] at hu hs
  obtain ⟨hsu, hss⟩ := signatures_eq_ok_iff.1 hsigs
  -- Both sides have built the same two documents.
  have hdu : pending.update.document = answer.update.document :=
    Except.ok.inj (hp.update.symm.trans (by rw [hmsg, ← hsnap]; exact hbuilt.update))
  have hds : pending.settle.document = answer.settle.document :=
    Except.ok.inj (hp.settle.symm.trans (by rw [hmsg, ← hsnap]; exact hbuilt.settle))
  have hupdate : pending.update.withSignature role.other su = answer.update :=
    Cosigned.ext_signature (by rw [Cosigned.document_withSignature, hdu]) role
      (by rw [Cosigned.signature_withSignature_of_ne _ role.other_ne.symm, hu])
      (by rw [Cosigned.signature_withSignature_self, hsu])
  have hsettle : pending.settle.withSignature role.other ss = answer.settle :=
    Cosigned.ext_signature (by rw [Cosigned.document_withSignature, hds]) role
      (by rw [Cosigned.signature_withSignature_of_ne _ role.other_ne.symm, hs])
      (by rw [Cosigned.signature_withSignature_self, hss])
  have hcommit : answer.commitTo pending.snapshot = true :=
    commitTo_iff.2 ⟨by rw [hsnap, hmsg], by rw [hbuilt.snapshot_settle, hsnap, hmsg]⟩
  simp only [complete, ite_error_eq_ok, bind_eq_ok, pure_eq_ok]
  refine ⟨by simp [hcommit], (su, ss), hsigs, (), ?_, (), ?_, ?_⟩
  · rw [hupdate]; exact hsigned.update
  · rw [hsettle]; exact hsigned.settle
  · rw [hupdate, hsettle]

end StateTxs

end Supersede
