import Supersede.Proofs.CloseProposals
import Supersede.Proofs.SignatureForms

/-!
# What a proposer adopts as its close

Whoever proposed a close gets it back as a transaction, and adopts the two signatures that the
witness of its input holds. All else in that witness is left unread: the item before the signatures,
the script behind them, and how many items there are.

* `CloseTx.SameSignatures`: two transactions that differ in nothing that is read.
* `CloseTx.adopt_congr`: two such transactions have the same outcome, errors included.
* `KeyScheme.RejectsZero`: why a valid signature was read from its own bytes.

**Theorem (`CloseTx.adopt_up_to_unread`).** A transaction is adopted exactly if it differs from that
of the signed close in unread items only. It is the transaction of the signed close exactly if its
witness is the one that an update script takes; with any item appended it is adopted all the same.
-/

namespace Supersede

open Result

/-! ## Witnesses of the first input -/

namespace Transaction

theorem txid_withWitness (tx : Transaction) (witness : List Bytes) :
    (tx.withWitness 0 witness).txid = tx.txid := by
  rcases tx with ⟨version, lockTime, _ | ⟨input, inputs⟩, outputs⟩ <;> rfl

theorem withWitness_withWitness (tx : Transaction) (w w' : List Bytes) :
    (tx.withWitness 0 w).withWitness 0 w' = tx.withWitness 0 w' := by
  rcases tx with ⟨version, lockTime, _ | ⟨input, inputs⟩, outputs⟩ <;> rfl

theorem withWitness_firstWitness (tx : Transaction) :
    tx.withWitness 0 (CloseTx.firstWitness tx) = tx := by
  rcases tx with ⟨version, lockTime, _ | ⟨input, inputs⟩, outputs⟩ <;> rfl

theorem firstWitness_withWitness (tx : Transaction) (h : CloseTx.firstWitness tx ≠ [])
    (w : List Bytes) : CloseTx.firstWitness (tx.withWitness 0 w) = w := by
  rcases tx with ⟨version, lockTime, _ | ⟨input, inputs⟩, outputs⟩
  · exact absurd rfl h
  · rfl

/-- Transactions that differ at most in the first witness are equal if that is the same. -/
theorem eq_of_firstWitness {tx tx' : Transaction}
    (h : tx.withWitness 0 [] = tx'.withWitness 0 [])
    (hfirst : CloseTx.firstWitness tx = CloseTx.firstWitness tx') : tx = tx' :=
  calc
    tx = (tx.withWitness 0 []).withWitness 0 (CloseTx.firstWitness tx) := by
      rw [withWitness_withWitness, withWitness_firstWitness]
    _ = tx' := by rw [h, hfirst, withWitness_withWitness, withWitness_firstWitness]

end Transaction

/-! ## What is read -/

namespace CloseTx

/-- Two transactions that differ in nothing that an adoption reads: at most in the first witness,
and there in neither signature. -/
structure SameSignatures (tx tx' : Transaction) : Prop where
  stripped : tx.withWitness 0 [] = tx'.withWitness 0 []
  funder : (firstWitness tx)[1]? = (firstWitness tx')[1]?
  counterparty : (firstWitness tx)[2]? = (firstWitness tx')[2]?

/-- Items behind the signatures are not read. -/
theorem sameSignatures_append {tx : Transaction} (h : 3 ≤ (firstWitness tx).length)
    (extra : List Bytes) :
    SameSignatures (tx.withWitness 0 (firstWitness tx ++ extra)) tx := by
  have hfirst := tx.firstWitness_withWitness (List.length_pos_iff.1 (by omega))
    (firstWitness tx ++ extra)
  refine ⟨tx.withWitness_withWitness .., ?_, ?_⟩ <;> rw [hfirst]
  · exact List.getElem?_append_left (by omega)
  · exact List.getElem?_append_left (by omega)

theorem witnessSignature_congr {w w' : List Bytes} {i : Nat} (h : w[i]? = w'[i]?) (role : Role) :
    witnessSignature w i role = witnessSignature w' i role := by
  rw [witnessSignature, witnessSignature, h]

/-- A signature that was read stands in the witness, in some form. -/
theorem getElem?_of_witnessSignature {w : List Bytes} {i : Nat} {role : Role}
    {sig : ChannelSignature} (h : witnessSignature w i role = .ok sig) :
    ∃ bytes, w[i]? = some bytes ∧ ChannelSignature.ofBytes bytes = .ok sig := by
  unfold witnessSignature at h
  split at h
  · cases h
  · cases h
  · rename_i bytes _ hbytes
    split at h
    · rename_i sig' hsig
      cases h
      exact ⟨bytes, hbytes, hsig⟩
    · cases h

variable [KeyScheme]

/-- The adoption depends on what it reads. That holds of its errors too, since they name a
transaction by an identifier that leaves witnesses out. -/
theorem adopt_congr {tx tx' : Transaction} (h : SameSignatures tx tx') (close : CloseTx) :
    close.adopt tx = close.adopt tx' := by
  have htxid : tx.txid = tx'.txid := by
    rw [← tx.txid_withWitness [], h.stripped, tx'.txid_withWitness]
  simp only [adopt, h.stripped, htxid, witnessSignature_congr h.funder,
    witnessSignature_congr h.counterparty]

end CloseTx

/-! ## Signatures and their bytes -/

section Scheme

variable [KeyScheme]

/-- No signature with a number that is zero is valid. -/
def KeyScheme.RejectsZero : Prop :=
  ∀ key digest sig, ecdsaVerify key digest sig = true → sig.r ≠ 0 ∧ sig.s ≠ 0

theorem Cosigned.ne_zero_of_verify {α : Type} [Signable α] (hzero : KeyScheme.RejectsZero)
    {d : Cosigned α} (h : d.verify = .ok ()) {role : Role} {sig : ChannelSignature}
    (hsig : d.signature role = some sig) : sig.signature.r ≠ 0 ∧ sig.signature.s ≠ 0 := by
  obtain ⟨-, hvalid⟩ := valid_of_verify h hsig
  rw [Transaction.verifyInput, map_eq_ok] at hvalid
  obtain ⟨digest, -, hverify⟩ := hvalid
  exact hzero _ digest _ hverify

namespace CloseTx

variable {c : Snapshot} {setup : Update} {funding : OutPoint} {p : Params} {close signed : CloseTx}
  {tx : Transaction}

/-- An adopted signature is valid, hence not zero, so it stands in the witness in its own form. -/
theorem getElem?_of_verify (hzero : KeyScheme.RejectsZero) (hverify : signed.verify = .ok ())
    {i : Nat} {role role' : Role} {sig : ChannelSignature} (hsig : signed.signature role = some sig)
    (hread : witnessSignature (firstWitness tx) i role' = .ok sig) :
    (firstWitness tx)[i]? = some sig.toBytes := by
  obtain ⟨bytes, hget, hbytes⟩ := getElem?_of_witnessSignature hread
  obtain ⟨hr, hs⟩ := Cosigned.ne_zero_of_verify hzero hverify hsig
  rw [hget, ChannelSignature.toBytes_of_ne_zero hbytes hr hs]

theorem sameSignatures_of_adopt (hzero : KeyScheme.RejectsZero)
    (hc : Closing.build c setup funding p = .ok close.document) (h : close.adopt tx = .ok signed) :
    ∃ own, signed.transaction = .ok own ∧ SameSignatures tx own := by
  obtain ⟨hdocument, hcarries⟩ := carries_of_adopt h
  obtain ⟨f, hf, hreadf⟩ := hcarries.funder
  obtain ⟨g, hg, hreadg⟩ := hcarries.counterparty
  have hverify := hcarries.valid.1
  rw [← hdocument] at hc
  have hfirst := Closing.firstWitness_witnessed hc f g
  refine ⟨_, transaction_eq_ok.2 ⟨f, g, hf, hg, hverify, rfl⟩, ?_, ?_, ?_⟩
  · rw [hcarries.template, Closing.withWitness_witnessed hc]
  · rw [hfirst, getElem?_of_verify hzero hverify hf hreadf]
    rfl
  · rw [hfirst, getElem?_of_verify hzero hverify hg hreadg]
    rfl

/-- A transaction is adopted exactly if it differs in unread items only from that of the signed
close. -/
theorem adopt_eq_ok_iff (hzero : KeyScheme.RejectsZero)
    (hc : Closing.build c setup funding p = .ok close.document) :
    close.adopt tx = .ok signed ↔ signed.document = close.document ∧
      ∃ own, signed.transaction = .ok own ∧ SameSignatures tx own := by
  constructor
  · intro h
    exact ⟨(carries_of_adopt h).1, sameSignatures_of_adopt hzero hc h⟩
  · rintro ⟨hdocument, own, hown, hsame⟩
    rw [adopt_congr hsame]
    exact adopt_of_transaction hc hown hdocument

theorem length_firstWitness (hc : Closing.build c setup funding p = .ok close.document)
    (hdocument : signed.document = close.document) (htx : signed.transaction = .ok tx) :
    (firstWitness tx).length = 4 := by
  obtain ⟨f, g, -, -, -, rfl⟩ := transaction_eq_ok.1 htx
  rw [hdocument, Closing.firstWitness_witnessed hc]
  rfl

/-- Of all transactions that differ in unread items only, the close's own is the one with an update
witness. -/
theorem transaction_eq_ok_iff (hc : Closing.build c setup funding p = .ok close.document)
    (hdocument : signed.document = close.document) {own : Transaction}
    (hown : signed.transaction = .ok own) (hsame : SameSignatures tx own) :
    signed.transaction = .ok tx ↔
      ∃ f g, firstWitness tx = Witness.update f g close.document.setupScript := by
  obtain ⟨f, g, -, -, -, rfl⟩ := transaction_eq_ok.1 hown
  rw [← hdocument] at hc ⊢
  have hfirst := Closing.firstWitness_witnessed hc f g
  constructor
  · intro htx
    obtain rfl := Except.ok.inj (hown.symm.trans htx)
    exact ⟨f, g, hfirst⟩
  · rintro ⟨f', g', htx⟩
    -- The signatures are the same items in both witnesses.
    have hf := hsame.funder
    have hg := hsame.counterparty
    rw [htx, hfirst] at hf hg
    have hitems : f'.toBytes = f.toBytes ∧ g'.toBytes = g.toBytes :=
      ⟨Option.some.inj hf, Option.some.inj hg⟩
    have heq : firstWitness tx = firstWitness (signed.document.witnessed f g) := by
      rw [htx, hfirst, Witness.update, Witness.update, hitems.1, hitems.2]
    rw [Transaction.eq_of_firstWitness hsame.stripped heq]
    exact hown

end CloseTx

end Scheme

/-! ## Adoption over secp256k1 -/

theorem KeyScheme.rejectsZero_secp256k1 : @RejectsZero .secp256k1 := by
  intro key digest sig h
  change Secp256k1.Ecdsa.verify key digest sig = true at h
  unfold Secp256k1.Ecdsa.verify at h
  split at h
  · cases h
  · rename_i hzero
    exact ⟨fun hr => hzero (.inl hr), fun hs => hzero (.inr (.inl hs))⟩

namespace CloseTx

/-- **What a proposer adopts.** A transaction is adopted exactly if it differs from that of the
signed close in nothing but unread items of the witness. Then it is the transaction of the signed
close exactly if its witness is an update witness, which is not checked: the transaction of every
signed close is adopted by whoever proposed that close, with the same signatures, and it is so with
any items appended to its witness, when it is no longer the transaction of the signed close. -/
theorem adopt_up_to_unread :
    letI : KeyScheme := .secp256k1
    ∀ (c : Snapshot) (setup : Update) (funding : OutPoint) (p : Params) (close signed : CloseTx)
      (tx : Transaction), Closing.build c setup funding p = .ok close.document →
      (close.adopt tx = .ok signed ↔ signed.document = close.document ∧
        ∃ own, signed.transaction = .ok own ∧ SameSignatures tx own) ∧
      (close.adopt tx = .ok signed → (signed.transaction = .ok tx ↔
        ∃ f g, firstWitness tx = Witness.update f g close.document.setupScript)) ∧
      (signed.document = close.document → signed.transaction = .ok tx →
        close.adopt tx = .ok signed ∧ ∀ extra ≠ [],
          close.adopt (tx.withWitness 0 (firstWitness tx ++ extra)) = .ok signed ∧
          signed.transaction ≠ .ok (tx.withWitness 0 (firstWitness tx ++ extra))) := by
  let _ : KeyScheme := .secp256k1
  intro c setup funding p close signed tx hc
  have hzero := KeyScheme.rejectsZero_secp256k1
  refine ⟨adopt_eq_ok_iff hzero hc, fun hadopt => ?_, fun hdocument htx => ?_⟩
  · obtain ⟨hdocument, own, hown, hsame⟩ := (adopt_eq_ok_iff hzero hc).1 hadopt
    exact transaction_eq_ok_iff hc hdocument hown hsame
  · have hadopt := adopt_of_transaction hc htx hdocument
    have hlength := length_firstWitness hc hdocument htx
    refine ⟨hadopt, fun extra hextra => ⟨?_, fun hextended => hextra ?_⟩⟩
    · rw [adopt_congr (sameSignatures_append (by omega) extra), hadopt]
    · have hsame := Except.ok.inj (htx.symm.trans hextended)
      have hfirst := tx.firstWitness_withWitness (List.length_pos_iff.1 (by omega))
        (firstWitness tx ++ extra)
      rw [← hsame] at hfirst
      exact List.self_eq_append_right.1 hfirst

/-- Keys drawn from zeros close a channel in state 0. The proposer adopts the transaction of the
close, and adopts it with an empty item appended. -/
theorem adopt_up_to_unread_zeros :
    letI : KeyScheme := .secp256k1
    ∃ (keys : ChannelKeys) (k : PartyKeys) (setup : Update) (close signed : CloseTx)
      (tx : Transaction), ChannelKeys.ofSeed .regtest Entropy.zeros.next.1.toBytes = .ok keys ∧
      keys.publish 0 = .ok k ∧ Update.build (.first 1000000 k k) {} = .ok setup ∧
      Closing.build (.first 1000000 k k) setup .null {} = .ok close.document ∧
      signed.transaction = .ok tx ∧ close.adopt tx = .ok signed ∧
      close.adopt (tx.withWitness 0 (firstWitness tx ++ [[]])) = .ok signed ∧
      signed.transaction ≠ .ok (tx.withWitness 0 (firstWitness tx ++ [[]])) := by
  let _ : KeyScheme := .secp256k1
  have _ : LawfulKeyScheme := lawful_secp256k1
  obtain ⟨keys, k, -, hkeys, hk, -⟩ := exists_keys_zeros
  obtain ⟨setup, -, hsetup, -⟩ := StateTxs.exists_build (Snapshot.conserved_first 1000000 k k)
    (show ({} : Params).lockTimeBase.toNat + (0 : UInt32).toNat + 1 < UInt32.size by decide)
  obtain ⟨document, hbuild⟩ := Closing.exists_build_first k k setup .null
  let close : CloseTx := .unsigned document
  obtain ⟨f, -, hf⟩ := close.exists_sign .counterparty hbuild hk
  obtain ⟨g, -, hg⟩ := close.exists_sign .funder hbuild hk
  let signed : CloseTx := (close.withSignature .counterparty f).withSignature .funder g
  have hverify : signed.verify = .ok () := Cosigned.verify_withSignature close .funder hf hg
  obtain ⟨tx, htx⟩ := exists_transaction hverify
  obtain ⟨-, -, hadopt⟩ := adopt_up_to_unread _ setup .null {} close signed tx hbuild
  obtain ⟨hown, hextended⟩ := hadopt rfl htx
  obtain ⟨hadopted, hne⟩ := hextended [[]] (by decide)
  exact ⟨keys, k, setup, close, signed, tx, hkeys, hk, hsetup, hbuild, htx, hown, hadopted, hne⟩

end CloseTx

end Supersede
