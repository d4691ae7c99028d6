import Supersede.Proofs.CooperativeClose
import Supersede.Proofs.Secrets

/-!
# Resolving payments

A resolution sorts the payments on offer: each has one *fate* (`Snapshot.fate`), which depends on
its expiry, on the time and on the secret that is given for it.

**Theorem (`Snapshot.resolve_partitions`).** From a state with conserved balances, whose next state
has keys, payments can always be resolved. The funder gets exactly the payments that have expired,
the counterparty exactly those that have not and whose secret is given, and the others stay on
offer. Secrets of no use change nothing.

Sums are checked on the way, so the order of the additions could show in a failure. It does not
(`Snapshot.resolve_eq_foldlM`): the payments can be gone through one after the other, each credited
to a balance as its fate comes up, and a balance overflows on the way exactly if it does in the end.

The two sides of a channel resolve the same payments with the same secrets, but each by its own
clock. What is compared in the end is balances and the payments left, not the fates.

**Theorem (`Node.accepts_update_iff`).** Between nodes in the same complete state, the funder
accepts a resolution of the counterparty exactly if no payment on offer expires between their two
times.

The reason is that more payments expire as time goes on and none is empty: if one expires between
the two times, the funder's balance is larger at the later one (`Snapshot.resolve_eq_iff`).
-/

namespace Supersede

open Result

/-! ## Fates -/

/-- What becomes of a payment on offer when payments are resolved. -/
inductive Fate where
  | expired
  | redeemed
  | kept
deriving DecidableEq

namespace Snapshot

variable {c d : Snapshot} {secrets secrets' : Secrets} {t t' : UInt32} {hash : PaymentHash}
  {invoice : Invoice}

/-- The fate of a payment. Once it has expired, a secret does not help. -/
def fate (secrets : Secrets) (blockTime : UInt32) (hash : PaymentHash) (invoice : Invoice) : Fate :=
  if invoice.isExpired blockTime then .expired
  else if (secrets.get? hash).any (·.unlocks hash) then .redeemed
  else .kept

/-- The payments on offer that have a fate. -/
def withFate (c : Snapshot) (secrets : Secrets) (blockTime : UInt32) (f : Fate) :
    SortedMap PaymentHash Invoice :=
  c.offered.filter fun hash invoice => fate secrets blockTime hash invoice = f

theorem isExpired_eq_fate (secrets : Secrets) (t : UInt32) (hash : PaymentHash)
    (invoice : Invoice) :
    invoice.isExpired t = decide (fate secrets t hash invoice = .expired) := by
  unfold fate
  by_cases hexpired : invoice.isExpired t
  · simp [hexpired]
  · by_cases hunlocks : (secrets.get? hash).any (·.unlocks hash) <;> simp [hexpired, hunlocks]

theorem isRedeemed_eq_fate (secrets : Secrets) (t : UInt32) (hash : PaymentHash)
    (invoice : Invoice) :
    isRedeemed secrets t hash invoice = decide (fate secrets t hash invoice = .redeemed) := by
  unfold fate isRedeemed
  by_cases hexpired : invoice.isExpired t
  · simp [hexpired]
  · cases secrets.get? hash with
    | none => simp [hexpired]
    | some secret => by_cases hunlocks : secret.unlocks hash <;> simp [hexpired, hunlocks]

theorem kept_eq_fate (secrets : Secrets) (t : UInt32) (hash : PaymentHash) (invoice : Invoice) :
    (!invoice.isExpired t && !isRedeemed secrets t hash invoice) =
      decide (fate secrets t hash invoice = .kept) := by
  rw [isExpired_eq_fate secrets t hash, isRedeemed_eq_fate]
  cases fate secrets t hash invoice <;> rfl

theorem filter_isExpired (c : Snapshot) (secrets : Secrets) (t : UInt32) :
    (c.offered.filter fun _ invoice => invoice.isExpired t) = c.withFate secrets t .expired :=
  SortedMap.filter_congr fun hash invoice _ => isExpired_eq_fate secrets t hash invoice

theorem filter_isRedeemed (c : Snapshot) (secrets : Secrets) (t : UInt32) :
    c.offered.filter (isRedeemed secrets t) = c.withFate secrets t .redeemed :=
  SortedMap.filter_congr fun hash invoice _ => isRedeemed_eq_fate secrets t hash invoice

theorem filter_kept (c : Snapshot) (secrets : Secrets) (t : UInt32) :
    (c.offered.filter fun hash invoice =>
      !invoice.isExpired t && !isRedeemed secrets t hash invoice) = c.withFate secrets t .kept :=
  SortedMap.filter_congr fun hash invoice _ => kept_eq_fate secrets t hash invoice

/-- The time counts only for whether a payment has expired. -/
theorem fate_congr (h : invoice.isExpired t = invoice.isExpired t') :
    fate secrets t hash invoice = fate secrets t' hash invoice := by
  rw [fate, fate, h]

/-- The secrets that are left out are of no use. -/
theorem fate_redeemableSecrets (hget : c.offered.get? hash = some invoice) :
    fate (c.redeemableSecrets secrets t) t hash invoice = fate secrets t hash invoice := by
  unfold fate
  by_cases hexpired : invoice.isExpired t
  · simp [hexpired]
  · rw [redeemableSecrets, SortedMap.get?_filterMap, hget]
    simp [hexpired]

/-! ## One payment after the other -/

/-- The balances and the payments kept so far, while the payments on offer are gone through. -/
structure Tally where
  refund : Amount
  payment : Amount
  kept : SortedMap PaymentHash Invoice

/-- Goes on to the next payment. -/
def Tally.settle (secrets : Secrets) (blockTime : UInt32) (tally : Tally)
    (e : PaymentHash × Invoice) : Result Tally :=
  match fate secrets blockTime e.1 e.2 with
  | .expired => do
    let refund ← addBalance tally.refund e.2.amount
    return { tally with refund }
  | .redeemed => do
    let payment ← addBalance tally.payment e.2.amount
    return { tally with payment }
  | .kept => return { tally with kept := tally.kept.insert e.1 e.2 }

/-- A balance with a sum credited to it, if that fits. -/
def credit (balance : Amount) (sum : Nat) : Result Amount :=
  if balance.toNat + sum < UInt64.size then .ok (balance + UInt64.ofNat sum)
  else .error (.ledger .balanceOverflow)

theorem credit_zero (balance : Amount) : credit balance 0 = .ok balance := by
  have hlt : balance.toNat + 0 < UInt64.size := balance.toNat_lt
  rw [credit, if_pos hlt]
  exact congrArg _ (UInt64.add_zero _)

/-- A sum can be credited part by part. If a part does not fit, the whole does not. -/
theorem credit_add (balance : Amount) (m n : Nat) :
    credit balance (m + n) = credit balance m >>= (credit · n) := by
  unfold credit
  by_cases hm : balance.toNat + m < UInt64.size
  · have hsum : (balance + UInt64.ofNat m).toNat = balance.toNat + m := by
      rw [UInt64.toNat_add, UInt64.toNat_ofNat', Nat.add_mod_mod, Nat.mod_eq_of_lt hm]
    rw [if_pos hm, ok_bind, hsum, Nat.add_assoc, UInt64.ofNat_add, UInt64.add_assoc]
  · rw [if_neg hm, if_neg (by omega), error_bind]

/-- It does not show which of two balances has overflown. -/
theorem credit_comm {α : Type} (a b : Amount) (m n : Nat) (f : Amount → Amount → Result α) :
    (do let x ← credit a m; let y ← credit b n; f x y) =
      (do let y ← credit b n; let x ← credit a m; f x y) := by
  unfold credit
  split <;> split <;> rfl

theorem addBalance_eq_credit (a b : Amount) : addBalance a b = credit a b.toNat := by
  rw [addBalance, credit, Amount.add?, UInt64.ofNat_toNat]
  by_cases hsum : a.toNat + b.toNat < UInt64.size
  · rw [if_pos hsum, if_pos hsum]
  · rw [if_neg hsum, if_neg hsum]

theorem addBalance_invoiceTotal (balance : Amount) (invoices : List Invoice) :
    invoiceTotal invoices >>= addBalance balance = credit balance (Invoice.sum invoices) := by
  by_cases hsum : Invoice.sum invoices < UInt64.size
  · obtain ⟨total, htotal⟩ := exists_invoiceTotal hsum
    rw [htotal, ok_bind, addBalance_eq_credit, toNat_invoiceTotal htotal]
  · have hnone : Amount.sum? (invoices.map (·.amount)) = none := by
      refine Option.eq_none_iff_forall_ne_some.2 fun total htotal => hsum ?_
      rw [Invoice.sum_eq, ← Amount.toNat_sum? htotal]
      exact total.toNat_lt
    rw [invoiceTotal, hnone, credit, if_neg (by omega)]
    rfl

/-- The payments of a list that have a fate. -/
def pick (secrets : Secrets) (blockTime : UInt32) (f : Fate) (l : List (PaymentHash × Invoice)) :
    List (PaymentHash × Invoice) :=
  l.filter fun e => fate secrets blockTime e.1 e.2 = f

theorem pick_cons (secrets : Secrets) (t : UInt32) (f : Fate) (e : PaymentHash × Invoice)
    (l : List (PaymentHash × Invoice)) :
    pick secrets t f (e :: l) =
      if fate secrets t e.1 e.2 = f then e :: pick secrets t f l else pick secrets t f l := by
  simp only [pick, List.filter_cons, decide_eq_true_eq]

/-- Where the payments of a list lead, one after the other. -/
theorem foldlM_settle (secrets : Secrets) (t : UInt32) (l : List (PaymentHash × Invoice))
    (tally : Tally) :
    l.foldlM (Tally.settle secrets t) tally = do
      let refund ← credit tally.refund (Invoice.sum ((pick secrets t .expired l).map (·.2)))
      let payment ← credit tally.payment (Invoice.sum ((pick secrets t .redeemed l).map (·.2)))
      return ⟨refund, payment,
        (pick secrets t .kept l).foldl (fun m e => m.insert e.1 e.2) tally.kept⟩ := by
  induction l generalizing tally with
  | nil =>
    simp only [pick, List.filter_nil, List.map_nil, Invoice.sum, credit_zero, ok_bind]
    rfl
  | cons e l ih =>
    simp only [List.foldlM_cons, Tally.settle, pick_cons]
    cases fate secrets t e.1 e.2 with
    | expired =>
      simp only [if_true, reduceCtorEq, if_false, List.map_cons, Invoice.sum, credit_add,
        addBalance_eq_credit, ih, bind_assoc, pure_bind]
    | redeemed =>
      simp only [if_true, reduceCtorEq, if_false, List.map_cons, Invoice.sum, credit_add,
        addBalance_eq_credit, ih, bind_assoc, pure_bind]
      -- This payment is added before the expired ones that come later.
      exact credit_comm ..
    | kept => simp only [if_true, reduceCtorEq, if_false, List.foldl_cons, ih, pure_bind]

variable [KeyScheme]

/-- Payments are resolved as if they were gone through one after the other, in the order of their
hashes, with the same failures. -/
theorem resolve_eq_foldlM (c : Snapshot) (secrets : Secrets) (blockTime : UInt32) :
    c.resolve secrets blockTime = do
      let next ← c.nextState
      let tally ← c.offered.entries.foldlM (Tally.settle secrets blockTime)
        ⟨c.refund, c.payment, ∅⟩
      let next : Snapshot := { next with
        refund := tally.refund, payment := tally.payment, offered := tally.kept }
      next.checkConservation
      return next := by
  have hkept : (pick secrets blockTime .kept c.offered.entries).foldl
      (fun m e => m.insert e.1 e.2) ∅ = c.withFate secrets blockTime .kept := by
    apply SortedMap.ext_get?
    intro hash
    have hsorted := (c.withFate secrets blockTime .kept).sorted
    exact (SortedMap.get?_foldl_insert hsorted ∅ hash).trans (Option.or_none ..)
  rw [resolve, filter_isExpired c secrets, filter_isRedeemed, filter_kept]
  simp only [foldlM_settle, hkept, ← addBalance_invoiceTotal, bind_assoc, pure_bind]
  rfl

/-! ## Partition -/

/-- `d` has the balances of `c` after its payments went where their fates send them. -/
structure Partitions (c : Snapshot) (secrets : Secrets) (blockTime : UInt32) (d : Snapshot) :
    Prop where
  capacity : d.capacity = c.capacity
  refund : d.refund.toNat =
    c.refund.toNat + Invoice.sum (c.withFate secrets blockTime .expired).values
  payment : d.payment.toNat =
    c.payment.toNat + Invoice.sum (c.withFate secrets blockTime .redeemed).values
  offered : ∀ hash invoice, d.offered.get? hash = some invoice ↔
    c.offered.get? hash = some invoice ∧ fate secrets blockTime hash invoice = .kept
  conserved : d.Conserved

theorem Resolves.partitions (h : c.Resolves secrets t d) : c.Partitions secrets t d where
  capacity := h.capacity
  refund := by rw [h.refund, filter_isExpired c secrets]
  payment := by rw [h.payment, filter_isRedeemed]
  offered hash invoice := by
    rw [h.offered, SortedMap.get?_filter_eq_some_iff, kept_eq_fate, decide_eq_true_iff]
  conserved := h.conserved

/-- What comes out depends on the fates only. -/
theorem resolve_congr
    (h : ∀ hash invoice, c.offered.get? hash = some invoice →
      fate secrets t hash invoice = fate secrets' t' hash invoice) :
    c.resolve secrets t = c.resolve secrets' t' := by
  have hfate (f : Fate) : c.withFate secrets t f = c.withFate secrets' t' f := by
    refine SortedMap.filter_congr fun hash invoice hget => ?_
    rw [h hash invoice hget]
  rw [resolve, resolve, filter_isExpired c secrets t, filter_isExpired c secrets' t',
    filter_isRedeemed c secrets t, filter_isRedeemed c secrets' t', filter_kept c secrets t,
    filter_kept c secrets' t', hfate, hfate, hfate]

theorem resolve_redeemableSecrets (c : Snapshot) (secrets : Secrets) (t : UInt32) :
    c.resolve (c.redeemableSecrets secrets t) t = c.resolve secrets t :=
  resolve_congr fun _ _ hget => fate_redeemableSecrets hget

/-- **Resolution is an exact partition.** -/
theorem resolve_partitions (c : Snapshot) (hc : c.Conserved) (state : UInt32)
    (hstate : state.toNat = c.state.toNat + 1) (funder counterparty : PartyKeys)
    (hfunder : c.funder.atState state = .ok funder)
    (hcounterparty : c.counterparty.atState state = .ok counterparty) (secrets : Secrets)
    (blockTime : UInt32) :
    ∃ d, c.resolve secrets blockTime = .ok d ∧ d.state = state ∧ d.funder = funder ∧
      d.counterparty = counterparty ∧ c.Partitions secrets blockTime d ∧
      c.resolve (c.redeemableSecrets secrets blockTime) blockTime = .ok d := by
  have hadd : addState c.state 1 = .ok state := addState_of_toNat hstate
  have hnext : c.nextState = .ok { c with state, funder, counterparty } := by
    simp only [nextState, hadd, hfunder, hcounterparty, ok_bind]
    rfl
  obtain ⟨d, hd, hstate'⟩ := exists_resolve secrets blockTime hc hnext
  have hresolves := resolves_of_resolve hd
  have hstate' : d.state = state := hstate'
  refine ⟨d, hd, hstate', ?_, ?_, hresolves.partitions, ?_⟩
  · have hkeys := hresolves.funder
    rw [hstate', hfunder] at hkeys
    exact (Except.ok.inj hkeys).symm
  · have hkeys := hresolves.counterparty
    rw [hstate', hcounterparty] at hkeys
    exact (Except.ok.inj hkeys).symm
  · rw [resolve_redeemableSecrets]
    exact hd

/-- Three payments on offer. One expires at time 100, the others at time 200. -/
def threeOffers : SortedMap PaymentHash Invoice :=
  let secret : Preimage := FixedBytes.zero 32
  let offered := SortedMap.insert ∅ (FixedBytes.zero 20) ⟨0, FixedBytes.zero 20, 1000, 100⟩
  let offered := offered.insert secret.paymentHash ⟨1, secret.paymentHash, 2000, 200⟩
  offered.insert (hash160 []) ⟨2, hash160 [], 3000, 200⟩

/-- The secret of the second of `threeOffers`, given for all of them. -/
def oneSecret : Secrets := threeOffers.filterMap fun _ _ => some (FixedBytes.zero 32)

omit [KeyScheme] in
/-- At time 150 the first of three payments has expired, the second is redeemed and the third, for
which a wrong secret is given, is kept. -/
theorem resolve_partitions_zeros :
    letI : KeyScheme := .secp256k1
    ∃ (c d : Snapshot), c.offered = threeOffers ∧ c.refund = 994000 ∧ c.payment = 0 ∧
      c.Conserved ∧ c.resolve oneSecret 150 = .ok d ∧ c.Partitions oneSecret 150 d ∧
      d.refund.toNat = 995000 ∧ d.payment.toNat = 2000 ∧
      d.offered.get? (hash160 []) = some ⟨2, hash160 [], 3000, 200⟩ ∧
      c.resolve (c.redeemableSecrets oneSecret 150) 150 = .ok d := by
  let _ : KeyScheme := .secp256k1
  have _ : LawfulKeyScheme := lawful_secp256k1
  obtain ⟨keys, k, k', -, hk, hk'⟩ := exists_keys_zeros
  let c : Snapshot := { first 1000000 k k with refund := 994000, offered := threeOffers }
  have hkeys : k.atState 1 = .ok k' := (PartyKeys.atState_of_publish hk 1).trans hk'
  have hsums : Invoice.sum threeOffers.values = 6000 ∧
      Invoice.sum (threeOffers.filter fun hash invoice =>
        fate oneSecret 150 hash invoice = .expired).values = 1000 ∧
      Invoice.sum (threeOffers.filter fun hash invoice =>
        fate oneSecret 150 hash invoice = .redeemed).values = 2000 ∧
      threeOffers.get? (hash160 []) = some ⟨2, hash160 [], 3000, 200⟩ ∧
      fate oneSecret 150 (hash160 []) ⟨2, hash160 [], 3000, 200⟩ = .kept := by
    decide +kernel
  obtain ⟨hsum, hexpired, hredeemed, hkept⟩ := hsums
  have hc : c.Conserved := by
    show 994000 + 0 + Invoice.sum threeOffers.values = 1000000
    rw [hsum]
  obtain ⟨d, hd, -, -, -, hpart, hsame⟩ :=
    resolve_partitions c hc 1 rfl k' k' hkeys hkeys oneSecret 150
  refine ⟨c, d, rfl, rfl, rfl, hc, hd, hpart, ?_, ?_, (hpart.offered _ _).2 hkept, hsame⟩
  · rw [hpart.refund, show Invoice.sum (c.withFate oneSecret 150 .expired).values = 1000 from
      hexpired]
    rfl
  · rw [hpart.payment, show Invoice.sum (c.withFate oneSecret 150 .redeemed).values = 2000 from
      hredeemed]
    rfl

/-! ## Two times -/

/-- A payment on offer has expired at one of two times exactly if it has at the other. -/
def SameExpiry (c : Snapshot) (t t' : UInt32) : Prop :=
  ∀ hash invoice, c.offered.get? hash = some invoice → invoice.isExpired t = invoice.isExpired t'

omit [KeyScheme] in
theorem SameExpiry.symm (h : c.SameExpiry t t') : c.SameExpiry t' t :=
  fun hash invoice hget => (h hash invoice hget).symm

omit [KeyScheme] in
/-- Payments that are not empty have a larger sum than any part of them. -/
theorem filter_agree_of_sum {m : SortedMap PaymentHash Invoice}
    {p q : PaymentHash → Invoice → Bool}
    (hamount : ∀ hash invoice, m.get? hash = some invoice → invoice.amount ≠ 0)
    (hpq : ∀ hash invoice, p hash invoice = true → q hash invoice = true)
    (hsum : Invoice.sum (m.filter p).values = Invoice.sum (m.filter q).values)
    (hget : m.get? hash = some invoice) : p hash invoice = q hash invoice := by
  have hpart : (m.filter q).filter p = m.filter p := by
    rw [SortedMap.filter_filter]
    refine SortedMap.filter_congr fun hash invoice _ => ?_
    by_cases hp : p hash invoice
    · simp [hp, hpq hash invoice hp]
    · simp [hp]
  have hrest := sum_filter_add (m.filter q) p
  rw [hpart] at hrest
  by_contra hne
  have hp : p hash invoice = false := by
    by_contra hp
    have hp : p hash invoice = true := by simpa using hp
    exact hne (hp.trans (hpq hash invoice hp).symm)
  have hq : q hash invoice = true := by simpa [hp] using hne
  have hleft : ((m.filter q).filter fun hash i => !p hash i).get? hash = some invoice := by
    rw [SortedMap.get?_filter_eq_some_iff, SortedMap.get?_filter_eq_some_iff]
    exact ⟨⟨hget, hq⟩, by simp [hp]⟩
  have hpos : 0 < invoice.amount.toNat :=
    Nat.pos_of_ne_zero fun h0 => hamount hash invoice hget (UInt64.toNat_inj.1 h0)
  have hone := sum_erase hleft
  omega

/-- If nothing is empty, a resolution tells from the funder's balance which payments had expired. -/
theorem sameExpiry_of_refund {d d' : Snapshot}
    (hamount : ∀ hash invoice, c.offered.get? hash = some invoice → invoice.amount ≠ 0)
    (h : c.Resolves secrets t d) (h' : c.Resolves secrets' t' d') (hrefund : d.refund = d'.refund)
    (hle : t ≤ t') : c.SameExpiry t t' := by
  intro hash invoice hget
  have hsum : Invoice.sum (c.offered.filter fun _ i => i.isExpired t).values =
      Invoice.sum (c.offered.filter fun _ i => i.isExpired t').values := by
    have hd := h.refund
    have hd' := h'.refund
    rw [hrefund] at hd
    omega
  refine filter_agree_of_sum hamount (fun hash i hexpired => ?_) hsum hget
  -- What has expired stays expired.
  simp only [Invoice.isExpired, LockTime.isExpired, decide_eq_true_eq] at hexpired ⊢
  exact UInt32.le_trans hexpired hle

/-- Resolved with the same secrets at two times, payments that are not empty give the same state
exactly if none expires in between. -/
theorem resolve_eq_iff {d d' : Snapshot}
    (hamount : ∀ hash invoice, c.offered.get? hash = some invoice → invoice.amount ≠ 0)
    (h : c.resolve secrets t = .ok d) (h' : c.resolve secrets t' = .ok d') :
    d = d' ↔ c.SameExpiry t t' := by
  constructor
  · rintro rfl
    have hd := resolves_of_resolve h
    have hd' := resolves_of_resolve h'
    rcases UInt32.le_total t t' with hle | hle
    · exact sameExpiry_of_refund hamount hd hd' rfl hle
    · exact (sameExpiry_of_refund hamount hd' hd rfl hle).symm
  · intro hsame
    have heq : c.resolve secrets t = c.resolve secrets t' :=
      resolve_congr fun hash invoice hget => fate_congr (hsame hash invoice hget)
    exact Except.ok.inj (h.symm.trans (heq.trans h'))

theorem exists_nextState_of_resolve (h : c.resolve secrets t = .ok d) :
    ∃ next, c.nextState = .ok next := by
  simp only [resolve, bind_eq_ok] at h
  obtain ⟨next, hnext, -⟩ := h
  exact ⟨next, hnext⟩

end Snapshot

/-! ## Two clocks -/

variable [KeyScheme]

/-- A side refuses to sign a state that it has not come to itself. -/
theorem StateTxs.exists_mismatch {expected : Snapshot} {message : StateTxs}
    (h : message.snapshot ≠ expected) (keys : ChannelKeys) (role : Role) (p : Params) :
    ∃ detail, countersign expected message keys role p =
      .error (.protocol (.proposalMismatch detail)) := by
  have hcommit : message.commitTo expected = false := by
    rw [Bool.eq_false_iff]
    intro hcommit
    exact h (commitTo_iff.1 hcommit).1
  rw [countersign, hcommit]
  exact ⟨_, rfl⟩

namespace Node

variable [LawfulKeyScheme]

/-- Between nodes in the same complete state, the time decides whether a resolution is accepted. -/
theorem acceptUpdate_of_grounded {n n' proposer : Node} {p : Params} {partner partner' : PeerId}
    {c c' : Channel} {t : UInt32} (t' : UInt32) {proposal : UpdateProposal}
    (hparams : n.params = p) (hparams' : n'.params = p) (hc : n.channels.get? partner = some c)
    (hc' : n'.channels.get? partner' = some c') (h : c.Grounded p) (h' : c'.Grounded p)
    (hinv' : n'.Inv) (hrole : c.role = .funder) (hopen : c.status = .active)
    (hsnapshot : c'.snapshot = c.snapshot)
    (hpropose : n'.proposeUpdate partner' t = (.ok proposal, proposer)) :
    (c.snapshot.SameExpiry t t' →
      ∃ answer accepted, n.acceptUpdate partner proposal t' = (.ok answer, accepted)) ∧
    (¬ c.snapshot.SameExpiry t t' → ∃ detail, n.acceptUpdate partner proposal t' =
      (.error (.protocol (.proposalMismatch detail)), n)) := by
  obtain ⟨c₁, next, ⟨hc₁, hrole', hopen'⟩, hshown, hresolve, hsign, -⟩ :=
    proposeUpdate_eq_ok hpropose
  obtain ⟨txs, secrets⟩ := proposal
  obtain rfl : secrets = _ := hshown
  obtain rfl := Option.some.inj (hc'.symm.trans hc₁)
  have hready := h.ready hopen
  have hready' := h'.ready hopen'
  rw [hrole] at hready
  rw [hrole'] at hready'
  rw [hsnapshot] at hresolve hready'
  have hsound := h.owned.inv.sound
  obtain ⟨following, hfollowing⟩ := Snapshot.exists_nextState_of_resolve hresolve
  obtain ⟨expected, hexpected, -⟩ := Snapshot.exists_resolve
    (c.snapshot.redeemableSecrets n'.secrets t) t' hsound.conserved hfollowing
  have hamount (hash : PaymentHash) (invoice : Invoice)
      (hget : c.snapshot.offered.get? hash = some invoice) : invoice.amount ≠ 0 :=
    (hsound.offered hash invoice hget).2
  have hsame := Snapshot.resolve_eq_iff hamount hresolve hexpected
  have hfollows := (Snapshot.resolves_of_resolve hresolve).toFollows
  have hsecrets := checkSecrets_redeemable hinv'.secrets c.snapshot t
  have hsigned := StateTxs.signedBy_of_propose hsign (publish_of_follows hfollows hready'.keys)
  obtain ⟨rfl, hbuilt⟩ := StateTxs.built_of_propose hsign
  rw [hparams', ← hparams] at hbuilt
  constructor
  · intro hexpiry
    rw [← hsame.2 hexpiry] at hexpected
    obtain ⟨answer, haccept, -⟩ := acceptUpdate_of_ready hc hready hsecrets hexpected hbuilt hsigned
    rw [hsnapshot]
    exact ⟨answer, _, haccept⟩
  · intro hexpiry
    have hidle := idleChannel_eq_ok.2 ⟨hc, hrole, hopen⟩
    have hlater : checkLater c.snapshot txs.snapshot = .ok () := by
      refine if_neg ?_
      rw [UInt32.le_iff_toNat_le, hfollows.state]
      omega
    obtain ⟨detail, hmismatch⟩ := StateTxs.exists_mismatch (hsame.not.2 hexpiry) c.keys .funder
      n.params
    refine ⟨detail, ?_⟩
    simp only [acceptUpdate, Acting.get_bind, Acting.lift_ok_bind, hidle, hsnapshot, hsecrets,
      hlater, hexpected, hmismatch]
    rfl

/-- **Clocks that disagree.** After any operations of two nodes with the same parameters, let the
first be the funder of an open channel, and let the second hold the same complete state. Then a
resolution that the second proposes at one time is accepted by the first at another exactly if no
payment on offer expires in between. Else it is refused as a mismatch, and the first node stays as
it was. -/
theorem accepts_update_iff (id id' : PeerId) (params : Params) (ops ops' : List Operation)
    (partner partner' : PeerId) (c c' : Channel) (t t' : UInt32) (proposal : UpdateProposal)
    (proposer : Node) (hc : ((create id params).run ops).channels.get? partner = some c)
    (hc' : ((create id' params).run ops').channels.get? partner' = some c')
    (hrole : c.role = .funder) (hopen : c.status = .active) (hsnapshot : c'.snapshot = c.snapshot)
    (hpropose : ((create id' params).run ops').proposeUpdate partner' t =
      (.ok proposal, proposer)) :
    ((∃ answer accepted, ((create id params).run ops).acceptUpdate partner proposal t' =
      (.ok answer, accepted)) ↔ c.snapshot.SameExpiry t t') ∧
    (¬ c.snapshot.SameExpiry t t' →
      ∃ detail, ((create id params).run ops).perform (.acceptUpdate partner proposal t') =
        (.error (.protocol (.proposalMismatch detail)), (create id params).run ops)) := by
  obtain ⟨haccepts, hrefuses⟩ := acceptUpdate_of_grounded (p := params) t' (params_run _ ops)
    (params_run _ ops') hc hc' (grounded_run hc) (grounded_run hc')
    ((inv_create id' params).run ops') hrole hopen hsnapshot hpropose
  refine ⟨⟨?_, haccepts⟩, ?_⟩
  · rintro ⟨answer, accepted, haccept⟩
    by_contra hexpiry
    obtain ⟨detail, hrefuse⟩ := hrefuses hexpiry
    rw [haccept] at hrefuse
    cases hrefuse
  · intro hexpiry
    obtain ⟨detail, hrefuse⟩ := hrefuses hexpiry
    refine ⟨detail, ?_⟩
    rw [perform, hrefuse]
    rfl

omit [KeyScheme] [LawfulKeyScheme] in
/-- Two nodes with the default parameters hold a state in which one payment is on offer. -/
theorem exists_offered_zeros {invoice : Invoice} (hne : invoice.amount ≠ 0)
    (hle : invoice.amount ≤ 1000000) :
    letI : KeyScheme := .secp256k1
    ∃ (ops ops' : List Operation) (s : Snapshot),
      ((create ⟨0⟩ {}).run ops).Holds {} ⟨1⟩ .funder s ∧
      ((create ⟨1⟩ {}).run ops').Holds {} ⟨0⟩ .counterparty s ∧
      s.offered = SortedMap.insert ∅ invoice.hash invoice ∧
      ∀ secrets t, ∃ s', s.resolve secrets t = .ok s' ∧ s'.state = 2 := by
  let _ : KeyScheme := .secp256k1
  have _ : LawfulKeyScheme := lawful_secp256k1
  obtain ⟨keys, k, hkeys, hk, hnext⟩ := Snapshot.exists_next_zeros
  obtain ⟨s, hoffer, hstate, hresolve⟩ := hnext invoice hne hle
  have hnew (id partner : PeerId) : (create id {}).channels.get? partner = none := rfl
  obtain ⟨party, _, reply, _, _, _, hpropose, hjoin, hcreate, hf, hg⟩ :=
    exists_opening_default rfl rfl (hnew ⟨0⟩ ⟨1⟩) (hnew ⟨1⟩ ⟨0⟩) hkeys hk
  obtain ⟨proposal, paying, receipt, _, _, hpay, hreceive, hconfirm, hf', hg'⟩ :=
    exists_payment hf hg (Snapshot.conserved_first 1000000 k k) hoffer (by rw [hstate]; decide)
  have hconfirmed := congrArg Prod.snd hconfirm
  refine ⟨[.proposeChannel .zeros ⟨1⟩, .createChannel ⟨1⟩ reply, .proposePayment ⟨1⟩ invoice,
    .confirmPayment ⟨1⟩ receipt], [.joinChannel .zeros ⟨0⟩ party, .receivePayment ⟨0⟩ proposal], s,
    ?_, ?_, (Snapshot.offers_of_offer hoffer).offered, hresolve⟩
  · rw [run_cons (perform_of_ok (.proposeChannel .zeros ⟨1⟩) rfl hpropose),
      run_cons (perform_of_ok (.createChannel ⟨1⟩ reply) rfl hcreate),
      run_cons (perform_of_ok (.proposePayment ⟨1⟩ invoice) rfl hpay),
      run_cons (show (paying.perform (.confirmPayment ⟨1⟩ receipt)).2 = _ from hconfirmed)]
    exact hf'
  · rw [run_cons (perform_of_ok (.joinChannel .zeros ⟨0⟩ party) rfl hjoin),
      run_cons (perform_of_ok (.receivePayment ⟨0⟩ proposal) rfl hreceive)]
    exact hg'

omit [KeyScheme] [LawfulKeyScheme] in
/-- With a payment on offer that expires at height 100, what is proposed at height 0 is accepted at
height 50 and refused at height 100. -/
theorem accepts_update_zeros :
    letI : KeyScheme := .secp256k1
    ∃ ops ops' c c' proposal proposer,
      ((create ⟨0⟩ {}).run ops).channels.get? ⟨1⟩ = some c ∧
      ((create ⟨1⟩ {}).run ops').channels.get? ⟨0⟩ = some c' ∧
      c.role = .funder ∧ c.status = .active ∧ c'.snapshot = c.snapshot ∧
      ((create ⟨1⟩ {}).run ops').proposeUpdate ⟨0⟩ 0 = (.ok proposal, proposer) ∧
      (∃ answer accepted, ((create ⟨0⟩ {}).run ops).acceptUpdate ⟨1⟩ proposal 50 =
        (.ok answer, accepted)) ∧
      ∃ detail, ((create ⟨0⟩ {}).run ops).perform (.acceptUpdate ⟨1⟩ proposal 100) =
        (.error (.protocol (.proposalMismatch detail)), (create ⟨0⟩ {}).run ops) := by
  let _ : KeyScheme := .secp256k1
  have _ : LawfulKeyScheme := lawful_secp256k1
  let invoice : Invoice := ⟨0, FixedBytes.zero 20, 1000, 100⟩
  obtain ⟨ops, ops', s, ⟨-, c, hc, hready⟩, ⟨hparams', c', hc', hready'⟩, hoffered, hresolve⟩ :=
    exists_offered_zeros (show invoice.amount ≠ 0 by decide) (by decide)
  obtain ⟨s', hs', hstate'⟩ :=
    hresolve (s.redeemableSecrets ((create ⟨1⟩ {}).run ops').secrets 0) 0
  obtain ⟨txs, hpropose, -⟩ := proposeUpdate_of_ready hc' hready' hs'
    (by rw [hparams', hstate']; decide)
  have hsnapshot : c'.snapshot = c.snapshot := hready'.snapshot_eq.trans hready.snapshot_eq.symm
  have hdecides (t' : UInt32) := accepts_update_iff ⟨0⟩ ⟨1⟩ {} ops ops' ⟨1⟩ ⟨0⟩ c c' 0 t' _ _ hc hc'
    hready.role_eq hready.active hsnapshot hpropose
  have hget : c.snapshot.offered.get? invoice.hash = some invoice := by
    rw [hready.snapshot_eq, hoffered]
    exact SortedMap.get?_insert_self ..
  have hsame : c.snapshot.SameExpiry 0 50 := by
    intro hash i hi
    rw [hready.snapshot_eq, hoffered] at hi
    by_cases hhash : hash = invoice.hash
    · subst hhash
      rw [SortedMap.get?_insert_self] at hi
      obtain rfl := Option.some.inj hi
      decide
    · rw [SortedMap.get?_insert_of_ne _ hhash, SortedMap.get?_empty] at hi
      cases hi
  have hdiffer : ¬ c.snapshot.SameExpiry 0 100 := by
    intro h
    exact absurd (h invoice.hash invoice hget) (by decide)
  exact ⟨ops, ops', c, c', _, _, hc, hc', hready.role_eq, hready.active, hsnapshot, hpropose,
    (hdecides 50).1.2 hsame, (hdecides 100).2 hdiffer⟩

end Node

end Supersede
