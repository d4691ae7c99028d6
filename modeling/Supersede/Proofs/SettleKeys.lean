import Supersede.Proofs.Settling

/-!
# Settle keys match on both sides

The owner of a channel's keys derives the settle key of a state as a secret, the partner derives it
as a public key, and both may start from the keys of another state. That they meet is the law of the
key scheme; that they meet in every state of a channel is an induction over its states.

* `ExtendedSecretKey.Derivable`, `ExtendedSecretKey.exists_child_iff`: the numbers that a derivation
  meets, and that it succeeds exactly if they are in the group.
* `Snapshot.Derived`: the snapshots that either side derives from published keys.
* `Snapshot.Derived.publish_eq`: they hold the keys that the owner publishes for their state.

**Theorem (`ChannelKeys.settle_keys_match`).** Below `2 ^ 31`, keys published in one state and taken
to another are those published there, with the public half of the settle key that the owner derives.
From `2 ^ 31` on there are none. In every state that either side derives, the owner can sign the
settlement.
-/

namespace Supersede

open Result
open Secp256k1 (groupOrder)

/-! ## Derivations -/

theorem SecretKey.ofNat?_eq_some_iff {n : Nat} {k : SecretKey} : ofNat? n = some k ↔ n = k.val := by
  unfold ofNat?
  constructor
  · intro h
    split at h
    · cases h
      rfl
    · cases h
  · rintro rfl
    exact dif_pos ⟨k.pos, k.lt_order⟩

/-- The number by which the key of a child is shifted, from a chain code and the data it is keyed
to. -/
def shiftNumber (chainCode : Hash256) (data : Bytes) : Nat :=
  (halves (hmacSha512 chainCode.toBytes data)).1.toNat

theorem childShift_eq_ok_iff {chainCode code : Hash256} {data : Bytes} {shift : SecretKey} :
    childShift chainCode data = .ok (shift, code) ↔
      shiftNumber chainCode data = shift.val ∧
        (halves (hmacSha512 chainCode.toBytes data)).2 = code := by
  have hread (h : Hash256) : SecretKey.ofBytes? h.toBytes = SecretKey.ofNat? h.toNat :=
    if_pos h.length_toBytes
  simp only [childShift, hread]
  rw [← SecretKey.ofNat?_eq_some_iff, shiftNumber]
  cases SecretKey.ofNat? (halves (hmacSha512 chainCode.toBytes data)).1.toNat <;> simp

variable [KeyScheme]

namespace ExtendedSecretKey

/-- The data that the shift of a normal child is keyed to. -/
def normalData (k : ExtendedSecretKey) (i : UInt32) : Bytes :=
  k.key.publicKey.toBytes ++ Bytes.be32 i

/-- The derivation of a normal child meets no number outside the group: the shift is a secret key,
and so is its sum with the parent's key. -/
structure Derivable (k : ExtendedSecretKey) (i : UInt32) : Prop where
  shift_pos : 0 < shiftNumber k.chainCode (k.normalData i)
  shift_lt : shiftNumber k.chainCode (k.normalData i) < groupOrder
  sum_ne_zero : (k.key.val + shiftNumber k.chainCode (k.normalData i)) % groupOrder ≠ 0

/-- A normal child can be derived exactly if the derivation stays in the group. -/
theorem exists_child_iff {k : ExtendedSecretKey} {i : UInt32} (hi : i < firstHardened) :
    (∃ c, k.child i = .ok c) ↔ k.Derivable i := by
  have hdata : k.childData i = k.normalData i := by rw [childData, if_pos hi, normalData]
  simp only [child, hdata, bind_eq_ok]
  constructor
  · rintro ⟨c, ⟨shift, code⟩, hshift, hsum⟩
    obtain ⟨hnumber, -⟩ := childShift_eq_ok_iff.1 hshift
    split at hsum
    · rename_i key hkey
      have hval := SecretKey.ofNat?_eq_some_iff.1 hkey
      refine ⟨hnumber ▸ shift.pos, hnumber ▸ shift.lt_order, ?_⟩
      rw [hnumber, hval]
      exact key.pos.ne'
    · cases hsum
  · rintro ⟨hpos, hlt, hne⟩
    let shift : SecretKey := ⟨_, hpos, hlt⟩
    let key : SecretKey := ⟨_, Nat.pos_of_ne_zero hne, Nat.mod_lt _ (by decide)⟩
    have hkey : k.key.add? shift.val = some key := SecretKey.ofNat?_eq_some_iff.2 rfl
    exact ⟨_, (shift, _), childShift_eq_ok_iff.2 ⟨rfl, rfl⟩, by simp only [hkey]; rfl⟩

end ExtendedSecretKey

/-! ## Keys of a state -/

/-- Keys are published for exactly the states whose derivation stays in the group. -/
theorem ChannelKeys.exists_publish_iff {keys : ChannelKeys} {i : UInt32} (hi : i < firstHardened) :
    (∃ w, keys.publish i = .ok w) ↔ keys.settleParent.Derivable i := by
  have hnormal : normalChild i = .ok i := if_pos hi
  rw [← ExtendedSecretKey.exists_child_iff hi]
  simp only [publish, settleKey, hnormal, ok_bind, bind_eq_ok, pure_eq_ok]
  constructor
  · rintro ⟨w, s, ⟨child, hchild, -⟩, -⟩
    exact ⟨child, hchild⟩
  · rintro ⟨child, hchild⟩
    exact ⟨_, _, ⟨child, hchild, rfl⟩, rfl⟩

/-- The snapshots that either side derives for a channel, where the owner of some keys has a side:
state 0 of keys that the owner has published for any state, and the next states. -/
inductive Snapshot.Derived (keys : ChannelKeys) (role : Role) : Snapshot → Prop
  | opening {i : UInt32} (parties : Role → PartyKeys) {capacity : Amount} {c : Snapshot}
      (hown : keys.publish i = .ok (parties role))
      (h : opening (parties .funder) (parties .counterparty) capacity = .ok c) :
      Derived keys role c
  | offer {c d : Snapshot} {invoice : Invoice} (hc : Derived keys role c)
      (h : c.offer invoice = .ok d) : Derived keys role d
  | resolve {c d : Snapshot} {secrets : Secrets} {blockTime : UInt32} (hc : Derived keys role c)
      (h : c.resolve secrets blockTime = .ok d) : Derived keys role d

variable [LawfulKeyScheme]

/-- A derived snapshot holds the keys that the owner publishes for its state. -/
theorem Snapshot.Derived.publish_eq {keys : ChannelKeys} {role : Role} {c : Snapshot}
    (h : Derived keys role c) : keys.publish c.state = .ok (c.party role) := by
  induction h with
  | opening parties hown h =>
    obtain ⟨hfunder, hcounterparty, hc⟩ := opening_eq_ok h
    rw [← PartyKeys.atState_of_publish hown, hc]
    cases role with
    | funder => exact hfunder
    | counterparty => exact hcounterparty
  | offer hc h ih => exact Node.publish_of_follows (offers_of_offer h).toFollows ih
  | resolve hc h ih => exact Node.publish_of_follows (resolves_of_resolve h).toFollows ih

namespace ChannelKeys

/-- **Settle keys match on both sides.** Let the derivations of two states below `2 ^ 31` stay in
the group. Then the keys published for the first, taken to the second, are those published for the
second, and their settle key is the public half of the one that the owner derives. From `2 ^ 31` on
neither side derives a key. In every snapshot that either side derives from published keys, the
owner signs the settlement with a valid signature, so that no mismatch of keys is ever reported. -/
theorem settle_keys_match (keys : ChannelKeys) :
    (∀ i j : UInt32, i.toNat < 2 ^ 31 → j.toNat < 2 ^ 31 → keys.settleParent.Derivable i →
      keys.settleParent.Derivable j →
      ∃ w w' s, keys.publish i = .ok w ∧ w.atState j = .ok w' ∧ keys.publish j = .ok w' ∧
        keys.settleKey j = .ok s ∧ s.publicKey = w'.settleKey ∧ w'.settleKeyMatches j = true) ∧
    (∀ i : UInt32, 2 ^ 31 ≤ i.toNat → ∃ text,
      keys.settleKey i = .error (.signing (.keyDerivation text)) ∧
      keys.publish i = .error (.signing (.keyDerivation text)) ∧
      ∀ w : PartyKeys, w.atState i = .error (.signing (.keyDerivation text))) ∧
    ∀ (role : Role) (c : Snapshot) (p : Params) (s : SettleTx), c.Derived keys role →
      Settlement.build c p = .ok s.document →
      ∃ sig, s.sign keys role = .ok (s.withSignature role sig) ∧
        (Signable.subject s.document).check role (some sig) = .ok () := by
  refine ⟨?_, ?_, ?_⟩
  · intro i j hi hj hderivable hderivable'
    obtain ⟨w, hw⟩ := (exists_publish_iff (UInt32.lt_iff_toNat_lt.2 hi)).2 hderivable
    obtain ⟨w', hw'⟩ := (exists_publish_iff (UInt32.lt_iff_toNat_lt.2 hj)).2 hderivable'
    obtain ⟨-, s, hs, hkey⟩ := publish_eq_ok hw'
    exact ⟨w, w', s, hw, (PartyKeys.atState_of_publish hw j).trans hw', hw', hs, hkey.symm,
      PartyKeys.settleKeyMatches_of_publish hw'⟩
  · intro i hi
    have hhardened : ¬ i < firstHardened := UInt32.not_lt.2 (UInt32.le_iff_toNat_le.2 hi)
    obtain ⟨text, hnone⟩ : ∃ text, normalChild i = .error (.signing (.keyDerivation text)) :=
      ⟨_, if_neg hhardened⟩
    refine ⟨text, ?_, ?_, fun w => ?_⟩
    · rw [settleKey, hnone]
      rfl
    · rw [publish, settleKey, hnone]
      rfl
    · rw [PartyKeys.atState, hnone]
      rfl
  · intro role c p s hc hbuild
    exact SettleTx.exists_sign s role hbuild hc.publish_eq

omit [KeyScheme] [LawfulKeyScheme] in
/-- Keys drawn from zeros: those of state 1, taken back to state 0, are those of state 0. They have
no settle key for state `2 ^ 31`, and they sign the settlement of state 0 for the funder. -/
theorem settle_keys_match_zeros :
    letI : KeyScheme := .secp256k1
    ∃ (keys : ChannelKeys) (w w' : PartyKeys) (c : Snapshot) (s signed : SettleTx),
      ofSeed .regtest Entropy.zeros.next.1.toBytes = .ok keys ∧
      keys.publish 1 = .ok w ∧ w.atState 0 = .ok w' ∧ keys.publish 0 = .ok w' ∧
      (∃ text, keys.settleKey 0x80000000 = .error (.signing (.keyDerivation text))) ∧
      c.Derived keys .funder ∧ Settlement.build c {} = .ok s.document ∧
      s.sign keys .funder = .ok signed := by
  let _ : KeyScheme := .secp256k1
  have _ : LawfulKeyScheme := lawful_secp256k1
  obtain ⟨keys, k, k', hkeys, hk, hk'⟩ := exists_keys_zeros
  obtain ⟨hmatch, hhardened, hsign⟩ := settle_keys_match keys
  obtain ⟨w, w', -, hw, htaken, hw', -⟩ := hmatch 1 0 (by decide) (by decide)
    ((exists_publish_iff (by decide)).1 ⟨k', hk'⟩) ((exists_publish_iff (by decide)).1 ⟨k, hk⟩)
  obtain ⟨text, hnone, -⟩ := hhardened 0x80000000 (by decide)
  let c : Snapshot := .first 1000000 k k
  have hderived : c.Derived keys .funder :=
    .opening (fun _ => k) hk (Snapshot.opening_of_publish hk hk 1000000)
  obtain ⟨s, hbuild, -⟩ := SettleTx.exists_settlement_first hk
    (Snapshot.conserved_first 1000000 k k) rfl (fun role => by cases role <;> rfl) 20
  obtain ⟨sig, hsig, -⟩ := hsign .funder c {} s hderived hbuild
  exact ⟨keys, w, w', c, s, _, hkeys, hw, htaken, hw', ⟨text, hnone⟩, hderived, hbuild, hsig⟩

end ChannelKeys

end Supersede
