import Supersede.Proofs.Ledger

/-!
# Keys derived on both sides

The settle key of a state is derived twice: its owner derives the secret from an extended secret
key, the partner derives the public half from the extended public key. For a lawful scheme both
reach the same key.

* `ExtendedSecretKey.child_toPublic`: a normal child of the public key is the public key of the
  child.
* `PartyKeys.atState_of_publish`: published keys taken to another state are the keys that the owner
  publishes for it.
-/

namespace Supersede

open Result

variable [KeyScheme] [LawfulKeyScheme]

theorem ExtendedSecretKey.child_toPublic (k : ExtendedSecretKey) {i : UInt32}
    (hi : i < firstHardened) : k.toPublic.child i = (k.child i).map toPublic := by
  simp only [ExtendedPublicKey.child, ExtendedSecretKey.child, childData, if_pos hi, toPublic]
  cases childShift k.chainCode (k.key.publicKey.toBytes ++ Bytes.be32 i) with
  | error e => rfl
  | ok derived =>
    obtain ⟨shift, chainCode⟩ := derived
    simp only [ok_bind, LawfulKeyScheme.shift?_publicKey k.key shift.val shift.lt_order]
    cases k.key.add? shift.val <;> rfl

namespace PartyKeys

/-- Keys that a party publishes in one state give the partner those of every other state. -/
theorem atState_of_publish {keys : ChannelKeys} {i : UInt32} {k : PartyKeys}
    (h : keys.publish i = .ok k) (j : UInt32) : k.atState j = keys.publish j := by
  simp only [ChannelKeys.publish, bind_eq_ok, pure_eq_ok] at h
  obtain ⟨settle, -, rfl⟩ := h
  simp only [atState, ChannelKeys.publish, ChannelKeys.settleKey]
  unfold normalChild
  split
  · rename_i hj
    simp only [ok_bind, ExtendedSecretKey.child_toPublic _ hj]
    cases keys.settleParent.child j <;> rfl
  · rfl

theorem settleKeyMatches_of_publish {keys : ChannelKeys} {i : UInt32} {k : PartyKeys}
    (h : keys.publish i = .ok k) : k.settleKeyMatches i = true :=
  settleKeyMatches_of_atState ((atState_of_publish h i).trans h)

end PartyKeys

end Supersede
