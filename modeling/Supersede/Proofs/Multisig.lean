import Supersede.Proofs.Unlocking

/-!
# Many signatures for many keys

The check of several signatures goes once through the keys and gives each key to the next signature
that is waiting. It never comes back to a key that it has passed, and it stops as soon as fewer keys
than signatures are left.

**Theorem (`SpendContext.multisig_matches`).** The check succeeds exactly if the signatures can be
assigned to keys in increasing order so that each is valid for its key. It takes its arguments off
the stack and nothing else, and counting what is left never gives a negative number.

The matching is `List.SublistForall₂`: the signatures stand in the relation `SpendContext.ValidFor`
to a sublist of the keys. That the first key that fits can always be taken is the exchange
`sublistForall₂_cons_of_fits`: a matching that gives this key to no one, or passes it over, contains
one of the other signatures with the later keys. The loop over positions is
`SpendContext.scan`, where a negative difference or a position outside its list would show as
`none`.
-/

namespace Supersede

open Result List

/-! ## Order-preserving matchings -/

section Matchings

variable {α β : Type} {R : α → β → Prop} {a : α} {b : β} {as : List α} {bs : List β}

/-- A matching needs as many places as there are things to be matched. -/
theorem length_le_of_sublistForall₂ (h : SublistForall₂ R as bs) : as.length ≤ bs.length := by
  obtain ⟨chosen, hfits, hsublist⟩ := sublistForall₂_iff.1 h
  exact hfits.length_eq.trans_le hsublist.length_le

/-- What is left of a matching without its first element. -/
theorem sublistForall₂_of_cons (h : SublistForall₂ R (a :: as) bs) : SublistForall₂ R as bs := by
  induction bs with
  | nil => cases h
  | cons b bs ih =>
    cases h with
    | cons _ hrest => exact .cons_right hrest
    | cons_right hrest => exact .cons_right (ih hrest)

/-- **The exchange.** The first place that fits can be taken: any matching can be changed into one
that takes it. -/
theorem sublistForall₂_cons_of_fits (hfits : R a b) :
    SublistForall₂ R (a :: as) (b :: bs) ↔ SublistForall₂ R as bs := by
  refine ⟨fun h => ?_, .cons hfits⟩
  cases h with
  | cons _ hrest => exact hrest
  | cons_right hrest => exact sublistForall₂_of_cons hrest

/-- A place that does not fit is passed over. -/
theorem sublistForall₂_cons_of_not_fits (hfits : ¬ R a b) :
    SublistForall₂ R (a :: as) (b :: bs) ↔ SublistForall₂ R (a :: as) bs := by
  refine ⟨fun h => ?_, .cons_right⟩
  cases h with
  | cons hfits' _ => exact absurd hfits' hfits
  | cons_right hrest => exact hrest

/-- A matching is a strictly increasing assignment of positions. -/
theorem sublistForall₂_iff_strictMono : SublistForall₂ R as bs ↔
    ∃ place : Fin as.length → Fin bs.length, StrictMono place ∧
      ∀ i, R (as.get i) (bs.get (place i)) := by
  rw [sublistForall₂_iff]
  constructor
  · rintro ⟨chosen, hfits, hsublist⟩
    obtain ⟨hlength, hfits⟩ := forall₂_iff_get.1 hfits
    obtain ⟨place, hplace⟩ := sublist_iff_exists_fin_orderEmbedding_get_eq.1 hsublist
    refine ⟨fun i => place (i.cast hlength), fun i j hij => place.strictMono hij, fun i => ?_⟩
    rw [← hplace]
    exact hfits i.1 i.2 (hlength ▸ i.2)
  · rintro ⟨place, hmono, hfits⟩
    have hlength : (ofFn fun i => bs.get (place i)).length = as.length := length_ofFn
    refine ⟨ofFn fun i => bs.get (place i), forall₂_iff_get.2 ⟨hlength.symm, fun i hi _ => ?_⟩, ?_⟩
    · simpa using hfits ⟨i, hi⟩
    · rw [sublist_iff_exists_fin_orderEmbedding_get_eq]
      exact ⟨OrderEmbedding.ofStrictMono (fun i => place (i.cast hlength)) fun i j hij => hmono hij,
        fun i => get_ofFn ..⟩

end Matchings

/-! ## The check -/

namespace SpendContext

variable [KeyScheme] {ctx : SpendContext} {script : Bytes}

/-- The first bytes are a signature of the input that is valid for the key that the other bytes
stand for. -/
def ValidFor (ctx : SpendContext) (sig key : Bytes) : Prop :=
  ∃ s k, ChannelSignature.ofBytes sig = .ok s ∧ PublicKey.ofBytes? key = some k ∧
    ctx.tx.verifyInput ctx.index ctx.scriptCode ctx.spent.value s k = .ok true

/-- With a key that can be read, the check of one signature tells whether it is valid. -/
theorem ForScript.checkSig_decides (h : ctx.ForScript script) (sig : Bytes) {key : Bytes}
    (hkey : (PublicKey.ofBytes? key).isSome) :
    ∃ valid, ctx.checkSig sig key = .ok valid ∧ (valid = true ↔ ctx.ValidFor sig key) := by
  obtain ⟨k, hk⟩ := Option.isSome_iff_exists.1 hkey
  simp only [checkSig, h.internalKey, checkChannelSig, ValidFor, hk]
  cases ChannelSignature.ofBytes sig with
  | error e => exact ⟨false, rfl, by simp⟩
  | ok s =>
    obtain ⟨valid, hvalid⟩ : ∃ valid,
        ctx.tx.verifyInput ctx.index ctx.scriptCode ctx.spent.value s k = .ok valid := by
      simp only [Transaction.verifyInput, Transaction.signatureHash, h.input]
      exact ⟨_, rfl⟩
    exact ⟨valid, by simp only [hvalid, liftResult], by simp [hvalid]⟩

theorem matchSignatures_of_few {sigs keys : List Bytes} (h : keys.length < sigs.length) :
    ctx.matchSignatures sigs keys = .ok false := by
  cases sigs with
  | nil => cases h
  | cons sig sigs =>
    cases keys with
    | nil => rfl
    | cons key keys => exact if_pos (Nat.lt_of_succ_lt_succ h)

/-- The pass through the keys finds a matching if there is one. -/
theorem ForScript.matchSignatures_decides (h : ctx.ForScript script) (sigs : List Bytes)
    {keys : List Bytes} (hkeys : ∀ key ∈ keys, (PublicKey.ofBytes? key).isSome) :
    ∃ valid, ctx.matchSignatures sigs keys = .ok valid ∧
      (valid = true ↔ SublistForall₂ ctx.ValidFor sigs keys) := by
  induction keys generalizing sigs with
  | nil =>
    cases sigs with
    | nil => exact ⟨true, rfl, by simp [SublistForall₂.nil]⟩
    | cons sig sigs => exact ⟨false, rfl, ⟨nofun, nofun⟩⟩
  | cons key keys ih =>
    cases sigs with
    | nil => exact ⟨true, rfl, by simp [SublistForall₂.nil]⟩
    | cons sig sigs =>
      have hrest (key) (hkey : key ∈ keys) := hkeys key (mem_cons_of_mem _ hkey)
      by_cases hfew : (key :: keys).length < (sig :: sigs).length
      · refine ⟨false, matchSignatures_of_few hfew, nofun, fun hmatching => ?_⟩
        exact absurd (length_le_of_sublistForall₂ hmatching) (Nat.not_le.2 hfew)
      · obtain ⟨valid, hcheck, hvalid⟩ := h.checkSig_decides sig (hkeys key mem_cons_self)
        rw [matchSignatures, if_neg fun hlt => hfew (Nat.succ_lt_succ hlt), hcheck, ok_bind]
        cases valid with
        | true =>
          rw [sublistForall₂_cons_of_fits (hvalid.1 rfl)]
          exact ih sigs hrest
        | false =>
          rw [sublistForall₂_cons_of_not_fits fun hfits => nomatch hvalid.2 hfits]
          exact ih (sig :: sigs) hrest

omit [KeyScheme] in
theorem take_reverse_append (items rest : List Bytes) :
    take items.length (items.reverse ++ rest) = .ok (items, rest) := by
  have hlength : items.reverse.length = items.length := length_reverse
  rw [take, if_pos (by simp), take_left' hlength, drop_left' hlength, reverse_reverse]

omit [KeyScheme] in
theorem readCount_of_readNumber {item : Bytes} {n : Nat} (h : readNumber item = .ok (n : Int)) :
    readCount item = .ok n := by
  have hnonneg : ¬ (n : Int) < 0 := by omega
  rw [readCount, h, ok_bind, if_neg hnonneg, Int.toNat_natCast]
  rfl

/-- The check takes its arguments off the stack and passes through the keys. -/
theorem checkMultisig_arguments {m n : Bytes} {sigs keys : List Bytes}
    (hm : readNumber m = .ok (sigs.length : Int)) (hn : readNumber n = .ok (keys.length : Int))
    (hle : sigs.length ≤ keys.length) (rest : List Bytes) :
    ctx.checkMultisig (n :: (keys.reverse ++ m :: (sigs.reverse ++ [] :: rest))) =
      ctx.matchSignatures sigs keys >>= fun valid => .ok (valid, rest) := by
  simp only [checkMultisig, pop, ok_bind, readCount_of_readNumber hm, readCount_of_readNumber hn,
    take_reverse_append, if_neg (Nat.not_lt.2 hle), ne_eq, not_true_eq_false, if_false]
  rfl

/-! ## The loop over positions -/

/-- The difference, if it is not negative. -/
def difference? (a b : Nat) : Option Nat := if b ≤ a then some (a - b) else none

/-- The pass through the keys as a loop over two positions, that of the next signature and that of
the next key. What is left of both is counted by a difference. There is no outcome if a difference
is negative or there is no key at its position. -/
def scan (ctx : SpendContext) (sigs keys : List Bytes) (i j : Nat) :
    Option (Except Fault Bool) :=
  if hi : i < sigs.length then do
    let sigsLeft ← difference? sigs.length i
    let keysLeft ← difference? keys.length j
    if keysLeft < sigsLeft then return .ok false
    if hj : j < keys.length then
      match ctx.checkSig sigs[i] keys[j] with
      | .error fault => return .error fault
      | .ok valid => ctx.scan sigs keys (if valid then i + 1 else i) (j + 1)
    else none
  else some (.ok true)
termination_by keys.length - j

/-- From positions in the lists, or at their ends, the loop never leaves the lists: it has the
outcome of the pass through what follows the positions. -/
theorem scan_eq_matchSignatures {sigs keys : List Bytes} {i j : Nat} (hi : i ≤ sigs.length)
    (hj : j ≤ keys.length) :
    ctx.scan sigs keys i j = some (ctx.matchSignatures (sigs.drop i) (keys.drop j)) := by
  induction hleft : keys.length - j using Nat.strong_induction_on generalizing i j with
  | _ left ih =>
    have hsigs : difference? sigs.length i = some (sigs.length - i) := if_pos hi
    have hkeys : difference? keys.length j = some (keys.length - j) := if_pos hj
    rw [scan]
    by_cases hmore : i < sigs.length
    · simp only [dif_pos hmore, hsigs, hkeys, Option.bind_eq_bind, Option.bind_some]
      by_cases hfew : keys.length - j < sigs.length - i
      · rw [if_pos hfew, matchSignatures_of_few (by simpa using hfew)]
        rfl
      · -- The test of what is left is what keeps the position of the key in its list.
        have hkey : j < keys.length := by omega
        have henough : ¬ (keys.drop (j + 1)).length < (sigs.drop (i + 1)).length := by
          rw [length_drop, length_drop]
          omega
        rw [if_neg hfew, dif_pos hkey, drop_eq_getElem_cons hmore, drop_eq_getElem_cons hkey,
          matchSignatures, if_neg henough]
        cases ctx.checkSig sigs[i] keys[j] with
        | error fault => rfl
        | ok valid =>
          cases valid with
          | true => exact ih _ (by omega) hmore hkey rfl
          | false =>
            rw [ok_bind, if_neg Bool.false_ne_true, ← drop_eq_getElem_cons hmore]
            exact ih _ (by omega) hi hkey rfl
    · rw [dif_neg hmore, drop_eq_nil_of_le (Nat.le_of_not_lt hmore), matchSignatures]

/-- **Signatures are matched to keys in order.** -/
theorem multisig_matches (h : ctx.ForScript script) {m n : Bytes} (sigs keys rest : List Bytes)
    (hm : readNumber m = .ok (sigs.length : Int)) (hn : readNumber n = .ok (keys.length : Int))
    (hle : sigs.length ≤ keys.length) (hkeys : ∀ key ∈ keys, (PublicKey.ofBytes? key).isSome) :
    ∃ valid,
      ctx.checkMultisig (n :: (keys.reverse ++ m :: (sigs.reverse ++ [] :: rest))) =
        .ok (valid, rest) ∧
      (valid = true ↔ ∃ place : Fin sigs.length → Fin keys.length, StrictMono place ∧
        ∀ i, ctx.ValidFor (sigs.get i) (keys.get (place i))) ∧
      ctx.scan sigs keys 0 0 = some (.ok valid) := by
  obtain ⟨valid, hmatch, hvalid⟩ := h.matchSignatures_decides sigs hkeys
  refine ⟨valid, ?_, hvalid.trans sublistForall₂_iff_strictMono, ?_⟩
  · rw [checkMultisig_arguments hm hn hle, hmatch, ok_bind]
  · rw [scan_eq_matchSignatures (Nat.zero_le _) (Nat.zero_le _), drop_zero, drop_zero, hmatch]

theorem ForScript.validFor_of_accepts (h : ctx.ForScript script) {sig : Bytes} {key : PublicKey}
    (haccepts : ctx.Accepts sig key) : ctx.ValidFor sig key.toBytes := by
  have hkey : (PublicKey.ofBytes? key.toBytes).isSome := by
    rw [key.ofBytes?_toBytes]
    rfl
  obtain ⟨valid, hcheck, hvalid⟩ := h.checkSig_decides sig hkey
  exact hvalid.1 (Except.ok.inj (hcheck.symm.trans haccepts))

/-- The smallest secret keys. -/
def sampleKeys : List SecretKey :=
  [sampleKey, ⟨2, Nat.succ_pos 1, by decide⟩, ⟨3, Nat.succ_pos 2, by decide⟩]

omit [KeyScheme] in
/-- Of three keys the first and the last have signed. -/
theorem multisig_matches_two_of_three :
    letI : KeyScheme := .secp256k1
    letI keys := sampleKeys.map (·.publicKey.toBytes)
    (sample []).ForScript [] ∧ readNumber [2] = .ok 2 ∧ readNumber [3] = .ok 3 ∧
      (∀ key ∈ keys, (PublicKey.ofBytes? key).isSome) ∧
      ∃ a b, (sample []).checkMultisig ([3] :: (keys.reverse ++ [2] :: [b, a, [], [7]])) =
        .ok (true, [[7]]) := by
  let _ : KeyScheme := .secp256k1
  have _ : LawfulKeyScheme := lawful_secp256k1
  let keys := sampleKeys.map (·.publicKey.toBytes)
  have h : (sample []).ForScript [] := ⟨rfl, rfl, rfl, rfl⟩
  have hkeys : ∀ key ∈ keys, (PublicKey.ofBytes? key).isSome := by
    simp [keys, PublicKey.ofBytes?_toBytes]
  have hsigned (key : SecretKey) : ∃ sig, (sample []).ValidFor sig key.publicKey.toBytes := by
    obtain ⟨sig, haccepts⟩ := exists_accepts h.input 1000000 key
    exact ⟨sig, h.validFor_of_accepts (haccepts h ⟨rfl, rfl, rfl, rfl, rfl⟩)⟩
  obtain ⟨a, ha⟩ := hsigned sampleKeys[0]
  obtain ⟨b, hb⟩ := hsigned sampleKeys[2]
  have hplace : StrictMono (![0, 2] : Fin 2 → Fin 3) := by decide
  have hfits : ∀ i : Fin 2, (sample []).ValidFor ([a, b].get i)
      (keys.get ((![0, 2] : Fin 2 → Fin 3) i)) := Fin.forall_fin_two.2 ⟨ha, hb⟩
  obtain ⟨valid, hcheck, hvalid, -⟩ :=
    multisig_matches h [a, b] keys [[7]] (m := [2]) (n := [3]) rfl rfl (Nat.le_succ 2) hkeys
  obtain rfl : valid = true := hvalid.2 ⟨(![0, 2] : Fin 2 → Fin 3), hplace, hfits⟩
  exact ⟨h, rfl, rfl, hkeys, a, b, hcheck⟩

end SpendContext

end Supersede
