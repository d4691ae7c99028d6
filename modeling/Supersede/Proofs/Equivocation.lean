import Supersede.Proofs.Fairness
import Supersede.Proofs.Finality

/-!
# Each state is signed once

A signature that was handed out cannot be taken back: an update that a node has signed stays good
for the partner, whatever becomes of the proposal that it was part of. So a node should not sign two
different states with the same number.

**Theorem (`Node.signed_once`).** After any run, two updates of one channel that the node has signed
and that have the same number commit to the same state, unless the earlier of them was a proposal of
the node's own that was rolled back before the later one was signed.

A proposal is rolled back when the partner's answer to it does not fit. The complete state is then
the one before the proposal, and the next state that is signed has the number of the proposal that
was dropped (`Node.equivocation_zeros`).

For the proof, signed transactions are followed through the run (`Channel.Committed`): they are
pending, or their number has been reached by the complete state, or the channel has come to its end.
Each move of the channel keeps one of these, except for a rollback. Only an idle channel signs, and
what it signs comes after its complete state, so the numbers of signed states ascend.
-/

namespace Supersede

variable [KeyScheme]

/-! ## What a node signs -/

namespace Channel

/-- By an operation, a side signs transactions for a channel, which leaves the record `c'`: it
proposes them, or answers a message with them. -/
inductive Signs (p : Params) (known : Secrets) (partner : PeerId) (c : Channel) (op : Operation)
    (txs : StateTxs) : (c' : Channel) → Prop
  | propose (h : c.Proposes p known partner op txs) :
      Signs p known partner c op txs { c with pending := some txs, status := .updating }
  | answer {message : StateTxs} (h : c.Answers p partner op message txs) :
      Signs p known partner c op txs { c with complete := txs }

variable {p : Params} {known : Secrets} {partner : PeerId} {c c' : Channel} {op : Operation}
  {txs : StateTxs}

theorem Signs.idle (h : c.Signs p known partner op txs c') : c.status = .active := by
  cases h with
  | propose h => exact h.idle
  | answer h => exact h.idle

/-- What is signed is the next state. -/
theorem Signs.state (h : c.Signs p known partner op txs c') :
    txs.snapshot.state.toNat = c.snapshot.state.toNat + 1 := by
  cases h with
  | propose h => exact h.next.1.follows.state
  | answer h => exact h.next.1.follows.state

end Channel

namespace Node

/-- The transactions that an operation signs and hands out. -/
def signed? (n : Node) : Operation → Option StateTxs
  | .proposePayment partner invoice => (n.proposePayment partner invoice).1.toOption.map (·.txs)
  | .receivePayment partner proposal => (n.receivePayment partner proposal).1.toOption.map (·.txs)
  | .proposeUpdate partner blockTime => (n.proposeUpdate partner blockTime).1.toOption.map (·.txs)
  | .acceptUpdate partner proposal blockTime =>
    (n.acceptUpdate partner proposal blockTime).1.toOption
  | _ => none

omit [KeyScheme] in
theorem exists_of_toOption {α : Type} {r : Result α × Node} {a : α}
    (h : r.1.toOption = some a) : ∃ n', r = (.ok a, n') := by
  match r with
  | (.error e, n') => cases h
  | (.ok a', n') =>
    cases h
    exact ⟨n', rfl⟩

/-- What a node hands out it signs for the channel with the partner that the operation names. -/
theorem exists_signs {n : Node} {op : Operation} {partner : PeerId} {txs : StateTxs}
    (hp : op.partner? = some partner) (h : n.signed? op = some txs) :
    ∃ c c', n.channels.get? partner = some c ∧
      (n.perform op).2.channels.get? partner = some c' ∧
      c.Signs n.params n.secrets partner op txs c' := by
  cases op with
  | proposePayment partner invoice =>
    cases hp
    obtain ⟨proposal, hproposal, rfl⟩ := Option.map_eq_some_iff.1 h
    obtain ⟨n', hr⟩ := exists_of_toOption hproposal
    obtain ⟨c, hc, hproposes, rfl⟩ := proposes_of_proposePayment hr
    refine ⟨c, _, hc, ?_, .propose hproposes⟩
    rw [perform_of_ok (.proposePayment partner invoice) rfl hr]
    exact get?_setChannel_self ..
  | receivePayment partner proposal =>
    cases hp
    obtain ⟨receipt, hreceipt, rfl⟩ := Option.map_eq_some_iff.1 h
    obtain ⟨n', hr⟩ := exists_of_toOption hreceipt
    obtain ⟨c, hc, hanswers, rfl⟩ := answers_of_receivePayment hr
    refine ⟨c, _, hc, ?_, .answer hanswers⟩
    rw [perform_of_ok (.receivePayment partner proposal) rfl hr]
    exact get?_setChannel_self ..
  | proposeUpdate partner blockTime =>
    cases hp
    obtain ⟨proposal, hproposal, rfl⟩ := Option.map_eq_some_iff.1 h
    obtain ⟨n', hr⟩ := exists_of_toOption hproposal
    obtain ⟨c, hc, hproposes, rfl⟩ := proposes_of_proposeUpdate hr
    refine ⟨c, _, hc, ?_, .propose hproposes⟩
    rw [perform_of_ok (.proposeUpdate partner blockTime) rfl hr]
    exact get?_setChannel_self ..
  | acceptUpdate partner proposal blockTime =>
    cases hp
    obtain ⟨n', hr⟩ := exists_of_toOption h
    obtain ⟨c, hc, hanswers, rfl⟩ := answers_of_acceptUpdate hr
    refine ⟨c, _, hc, ?_, .answer hanswers⟩
    rw [perform_of_ok (.acceptUpdate partner proposal blockTime) rfl hr]
    exact get?_setChannel_self ..
  | _ => cases h

end Node

/-! ## What becomes of signed transactions -/

namespace Channel

variable {p : Params} {known : Secrets} {partner : PeerId} {c c' : Channel} {op : Operation}
  {txs : StateTxs}

/-- Where a channel stands with transactions that were signed for it: they await an answer, their
number has been reached, or the channel signs nothing any more. -/
inductive Committed (txs : StateTxs) (c : Channel) : Prop
  | pending (h : c.pending = some txs) (busy : c.status ≠ .active)
  | reached (h : txs.snapshot.state.toNat ≤ c.snapshot.state.toNat)
  | final {s : Snapshot} (h : c.Final s)

theorem Signs.committed (h : c.Signs p known partner op txs c') : c'.Committed txs := by
  cases h with
  | propose h => exact .pending rfl nofun
  | answer h => exact .reached (Nat.le_refl _)

/-- The complete state never goes back. -/
theorem Moves.state_le (h : c.Moves p known partner op c') (hinv : c.Inv p) :
    c.snapshot.state.toNat ≤ c'.snapshot.state.toNat := by
  rcases hinv.snapshot_moves h with heq | hnext
  · rw [heq]
  · rw [hnext.follows.state]
    exact Nat.le_succ _

/-- Every move keeps the channel committed to what was signed for it, unless it ends the proposal
of it with an answer that does not fit. -/
theorem Committed.moves (h : c.Committed txs) (hm : c.Moves p known partner op c')
    (hinv : c.Inv p) :
    c'.Committed txs ∨ c.pending = some txs ∧
      ∃ answer e, c.Confirms partner op answer ∧ txs.complete answer c.role = .error e := by
  cases h with
  | reached h => exact .inl (.reached (h.trans (hm.state_le hinv)))
  | final h => exact .inl (.final (h.moves hm))
  | pending h busy =>
    cases hm with
    | propose hp => exact absurd hp.idle busy
    | answer ha => exact absurd ha.idle busy
    | proposeClose idle | acceptClose idle => exact absurd idle busy
    | confirm _ hp fits =>
      -- What was pending is now complete.
      obtain rfl := Option.some.inj (hp.symm.trans h)
      refine .inl (.reached (Nat.le_of_eq ?_))
      exact congrArg (·.state.toNat) (StateTxs.snapshot_of_complete fits).symm
    | drop hconfirms hp misfit =>
      obtain rfl := Option.some.inj (hp.symm.trans h)
      exact .inr ⟨h, _, _, hconfirms, misfit⟩
    | closeAlone => exact .inl (.final ⟨.inl rfl, rfl, rfl⟩)
    | confirmClose => exact .inl (.pending h nofun)

/-- A channel that signs again has got past what it was committed to. -/
theorem Committed.state_lt {txs' : StateTxs} (h : c.Committed txs)
    (hs : c.Signs p known partner op txs' c') :
    txs.snapshot.state.toNat < txs'.snapshot.state.toNat := by
  cases h with
  | pending _ busy => exact absurd hs.idle busy
  | reached h =>
    rw [hs.state]
    exact Nat.lt_succ_of_le h
  | final h => exact absurd hs.idle h.not_active

end Channel

/-! ## Openings and rollbacks -/

namespace Node

/-- In a run, an operation is performed of which the predicate holds. -/
def During (P : Node → Operation → Prop) : (n : Node) → List Operation → Prop
  | _, [] => False
  | n, op :: ops => P n op ∨ During P (n.perform op).2 ops

/-- By an operation, a node opens a channel with a partner. -/
def Opens (partner : PeerId) (n : Node) (op : Operation) : Prop :=
  op.phase = .opening ∧ op.partner? = some partner ∧ (n.perform op).1 = .ok ()

/-- By an operation, a node refuses the answer to its pending proposal and drops the proposal. -/
inductive RollsBack (partner : PeerId) (txs : StateTxs) (n : Node) : Operation → Prop
  | payment {receipt : PaymentReceipt} {e : Error} {n' : Node}
      (pending : n.pendingWith partner = some txs)
      (refused : n.confirmPayment partner receipt = (.error e, n'))
      (dropped : n'.pendingWith partner = none) :
      RollsBack partner txs n (.confirmPayment partner receipt)
  | update {answer : StateTxs} {e : Error} {n' : Node}
      (pending : n.pendingWith partner = some txs)
      (refused : n.confirmUpdate partner answer = (.error e, n'))
      (dropped : n'.pendingWith partner = none) :
      RollsBack partner txs n (.confirmUpdate partner answer)

theorem finishProposal_of_misfit {n : Node} {partner : PeerId} {c : Channel}
    {pending answer : StateTxs} {e : Error} (hc : n.channels.get? partner = some c)
    (hp : c.pending = some pending) (misfit : pending.complete answer c.role = .error e) :
    n.finishProposal partner c.role answer =
      (.error e, n.setChannel partner c.idle) := by
  rw [finishProposal_of_pending hc hp, misfit]

theorem confirmPayment_of_misfit {n : Node} {partner : PeerId} {c : Channel}
    {pending : StateTxs} {receipt : PaymentReceipt} {e : Error}
    (hc : n.channels.get? partner = some c) (hrole : c.role = .funder)
    (hp : c.pending = some pending) (misfit : pending.complete receipt.txs c.role = .error e) :
    n.confirmPayment partner receipt = (.error e, n.setChannel partner c.idle) := by
  have hfinish := finishProposal_of_misfit hc hp misfit
  rw [hrole] at hfinish
  exact confirmPayment_of_error hfinish

theorem rollsBack_of_misfit {n : Node} {partner : PeerId} {c : Channel} {op : Operation}
    {txs answer : StateTxs} {e : Error} (hc : n.channels.get? partner = some c)
    (hp : c.pending = some txs) (h : c.Confirms partner op answer)
    (misfit : txs.complete answer c.role = .error e) : n.RollsBack partner txs op := by
  have hpending : n.pendingWith partner = some txs := by
    rw [pendingWith, hc]
    exact hp
  have hdropped : (n.setChannel partner c.idle).pendingWith partner = none := by
    rw [pendingWith, get?_setChannel_self]
    rfl
  cases h with
  | payment role => exact .payment hpending (confirmPayment_of_misfit hc role hp misfit) hdropped
  | update role =>
    refine .update hpending (e := e) ?_ hdropped
    rw [confirmUpdate, ← role]
    exact finishProposal_of_misfit hc hp misfit

/-- An operation that should open a channel and fails leaves the node as it was. -/
theorem perform_opening (n : Node) {op : Operation} (h : op.phase = .opening) :
    (n.perform op).1 = .ok () ∨ (n.perform op).2 = n := by
  cases hr : (n.perform op).1 with
  | ok => exact .inl rfl
  | error e =>
    refine .inr ?_
    cases op with
    | proposeChannel en partner => exact (n.atomic_proposeChannel en partner).conclude hr
    | joinChannel en partner funder => exact (n.atomic_joinChannel en partner funder).conclude hr
    | createChannel partner other => exact (n.atomic_createChannel partner other).conclude hr
    | _ => cases h

/-- A record stays, or changes by a move, or the channel is opened anew. -/
theorem perform_record {n : Node} {partner : PeerId} {c : Channel} (op : Operation)
    (hc : n.channels.get? partner = some c) :
    n.Opens partner op ∨ ∃ c', (n.perform op).2.channels.get? partner = some c' ∧
      (c' = c ∨ c.Moves n.params n.secrets partner op c') := by
  by_cases hopen : n.Opens partner op
  · exact .inl hopen
  refine .inr ?_
  rcases (n.perform_step op).channels with heq | ⟨partner', c', hpartner, heq, hchange⟩
  · exact ⟨c, by rw [heq, hc], .inl rfl⟩
  by_cases hp : partner = partner'
  · subst hp
    rw [hc] at hchange
    cases hchange with
    | moved hm => exact ⟨c', by rw [heq, SortedMap.get?_insert_self], .inr hm⟩
    | opened _ hphase =>
      rcases n.perform_opening hphase with hok | hsame
      · exact absurd ⟨hphase, hpartner, hok⟩ hopen
      · exact ⟨c, by rw [hsame, hc], .inl rfl⟩
  · exact ⟨c, by rw [heq, SortedMap.get?_insert_of_ne _ hp, hc], .inl rfl⟩

/-! ## Runs -/

/-- Through a run that does not open the channel anew, a channel stays committed to what was signed
for it, unless that is rolled back. -/
theorem committed_run {n : Node} (hinv : n.Inv) {partner : PeerId} {c : Channel} {txs : StateTxs}
    (hc : n.channels.get? partner = some c) (h : c.Committed txs) {ops : List Operation}
    (hkeep : ¬ During (Opens partner) n ops) :
    (∃ c', (n.run ops).channels.get? partner = some c' ∧ c'.Committed txs) ∨
      During (RollsBack partner txs) n ops := by
  induction ops generalizing n c with
  | nil => exact .inl ⟨c, hc, h⟩
  | cons op ops ih =>
    obtain ⟨hstays, hkeep⟩ := not_or.1 hkeep
    obtain ⟨c', hc', hchange⟩ := (perform_record op hc).resolve_left hstays
    have hcommitted : c'.Committed txs ∨ n.RollsBack partner txs op := by
      rcases hchange with rfl | hm
      · exact .inl h
      · rcases h.moves hm (hinv.channels partner c hc) with h' | ⟨hp, _, _, hconfirms, misfit⟩
        · exact .inl h'
        · exact .inr (rollsBack_of_misfit hc hp hconfirms misfit)
    rcases hcommitted with h' | hback
    · exact (ih (hinv.perform op) hc' h' hkeep).imp_right .inr
    · exact .inr (.inl hback)

/-- Of two states that a node signs for one channel, the later has the greater number, unless the
earlier one was rolled back. -/
theorem state_lt_or_rollsBack {n : Node} (hinv : n.Inv) {op op' : Operation}
    {mid : List Operation} {partner : PeerId} {txs txs' : StateTxs}
    (hop : op.partner? = some partner) (hop' : op'.partner? = some partner)
    (h : n.signed? op = some txs) (hkeep : ¬ During (Opens partner) (n.perform op).2 mid)
    (h' : ((n.perform op).2.run mid).signed? op' = some txs') :
    txs.snapshot.state.toNat < txs'.snapshot.state.toNat ∨
      During (RollsBack partner txs) (n.perform op).2 mid := by
  obtain ⟨c, c₁, -, hc₁, hsigns⟩ := exists_signs hop h
  obtain ⟨c₂, c₃, hc₂, -, hsigns'⟩ := exists_signs hop' h'
  refine (committed_run (hinv.perform op) hc₁ hsigns.committed hkeep).imp_left ?_
  intro ⟨d, hd, hcommitted⟩
  obtain rfl : d = c₂ := Option.some.inj (hd.symm.trans hc₂)
  exact hcommitted.state_lt hsigns'

/-- **Each state is signed once.** Let a node, after any run, sign an update for its channel with a
partner, and after more operations, none of which opens that channel anew, another one with the same
number. Then both commit to the same snapshot, or the first was a proposal that has been rolled back
in the meantime. -/
theorem signed_once (id : PeerId) (params : Params) (before mid : List Operation)
    (op op' : Operation) (partner : PeerId) (txs txs' : StateTxs)
    (hop : op.partner? = some partner) (hop' : op'.partner? = some partner)
    (h : ((create id params).run before).signed? op = some txs)
    (hkeep : ¬ During (Opens partner) ((create id params).run (before ++ [op])) mid)
    (h' : ((create id params).run (before ++ [op] ++ mid)).signed? op' = some txs')
    (hstate : txs'.update.document.state = txs.update.document.state) :
    txs'.update.document.snapshot = txs.update.document.snapshot ∨
      During (RollsBack partner txs) ((create id params).run (before ++ [op])) mid := by
  rw [run_append _ (before ++ [op]), run_concat] at h'
  rw [run_concat] at hkeep ⊢
  have hinv := (inv_create id params).run before
  rcases state_lt_or_rollsBack hinv hop hop' h hkeep h' with hlt | hback
  · exact absurd (congrArg UInt32.toNat hstate).symm (Nat.ne_of_lt hlt)
  · exact .inr hback

/-! ## Two proposals with one number -/

section Lawful

variable [LawfulKeyScheme]

/-- A funder whose proposal is answered with the state before it signs the next payment under the
same number. -/
theorem exists_rollback {n : Node} {partner : PeerId} {c : Channel} {s next next' : Snapshot}
    {invoice invoice' : Invoice} (hc : n.channels.get? partner = some c) (h : c.Ready .funder s)
    (hoffer : s.offer invoice = .ok next) (hoffer' : s.offer invoice' = .ok next')
    (hlock : n.params.lockTimeBase.toNat + next.state.toNat + 1 < UInt32.size) :
    ∃ txs txs', n.signed? (.proposePayment partner invoice) = some txs ∧
      ((n.perform (.proposePayment partner invoice)).2.run
        [.confirmPayment partner ⟨c.complete, none⟩]).signed? (.proposePayment partner invoice') =
        some txs' ∧
      txs.snapshot = next ∧ txs'.snapshot = next' := by
  have hstate := (Snapshot.offers_of_offer hoffer).state
  have hstate' := (Snapshot.offers_of_offer hoffer').state
  obtain ⟨txs, hpropose, hnext, -⟩ := proposePayment_of_ready hc h hoffer hlock
  let c₁ : Channel := { c with pending := some txs, status := .updating }
  let n₁ : Node := n.setChannel partner c₁
  -- The answer is for an earlier state than the proposal.
  have hstale : c.complete.commitTo txs.snapshot = false := by
    rw [Bool.eq_false_iff, ne_eq, StateTxs.commitTo_iff, hnext]
    intro hcommit
    have hs : next = s := hcommit.1.symm.trans h.snapshot_eq
    rw [hs] at hstate
    omega
  obtain ⟨e, hmisfit⟩ : ∃ e, txs.complete c.complete c₁.role = .error e := by
    rw [StateTxs.complete, hstale]
    exact ⟨_, rfl⟩
  -- The proposal is dropped, and the record is what it was before.
  let c₂ : Channel := { c₁ with pending := none, status := .active }
  have hrefused : n₁.confirmPayment partner ⟨c.complete, none⟩ =
      (.error e, n₁.setChannel partner c₂) :=
    confirmPayment_of_misfit (get?_setChannel_self n partner c₁) h.role_eq rfl hmisfit
  have hready₂ : c₂.Ready .funder s := ⟨h.role_eq, rfl, h.snapshot_eq, h.keys⟩
  have hlock' : n.params.lockTimeBase.toNat + next'.state.toNat + 1 < UInt32.size := by omega
  obtain ⟨txs', hpropose', hnext', -⟩ :=
    proposePayment_of_ready (get?_setChannel_self n₁ partner c₂) hready₂ hoffer' hlock'
  refine ⟨txs, txs', ?_, ?_, hnext, hnext'⟩
  · rw [signed?, hpropose]
    rfl
  · rw [perform_of_ok (.proposePayment partner invoice) rfl hpropose]
    have hback : (n₁.perform (.confirmPayment partner ⟨c.complete, none⟩)).2 =
        n₁.setChannel partner c₂ := congrArg Prod.snd hrefused
    show (n₁.run [.confirmPayment partner ⟨c.complete, none⟩]).signed? _ = _
    rw [run_cons hback, run, List.foldl_nil, signed?, hpropose']
    rfl

end Lawful

/-- An invoice over twice as much as `sampleInvoice`. -/
def largerInvoice : Invoice := { sampleInvoice with amount := 2000 }

omit [KeyScheme] in
/-- A funder with the default parameters signs two payments as state 1. -/
theorem exists_rollback_zeros :
    letI : KeyScheme := .secp256k1
    ∃ before txs txs' receipt,
      ((create ⟨0⟩ {}).run before).signed? (.proposePayment ⟨1⟩ sampleInvoice) = some txs ∧
      ((create ⟨0⟩ {}).run (before ++ [.proposePayment ⟨1⟩ sampleInvoice] ++
        [.confirmPayment ⟨1⟩ receipt])).signed? (.proposePayment ⟨1⟩ largerInvoice) = some txs' ∧
      txs'.update.document.state = txs.update.document.state ∧
      txs'.update.document.snapshot ≠ txs.update.document.snapshot := by
  let _ : KeyScheme := .secp256k1
  have _ : LawfulKeyScheme := lawful_secp256k1
  obtain ⟨party, funder, reply, counterparty, opening, funder', k, next, hpropose, -, hcreate,
    ⟨hparams, c, hc, hready⟩, -, hoffer, hone⟩ := exists_opening_zeros
  obtain ⟨s, hs⟩ := Snapshot.exists_nextState_of_offer hoffer
  obtain ⟨next', hoffer', -⟩ := Snapshot.exists_offer largerInvoice
    (Snapshot.conserved_first 1000000 k k) hs (by decide) rfl
    (show (2000 : Amount) ≤ 1000000 by decide)
  obtain ⟨txs, txs', htxs, htxs', rfl, rfl⟩ :=
    exists_rollback hc hready hoffer hoffer' (by rw [hparams, hone]; decide)
  have hoffers := Snapshot.offers_of_offer hoffer
  have hoffers' := Snapshot.offers_of_offer hoffer'
  have hrun : (create ⟨0⟩ {}).run [.proposeChannel .zeros ⟨1⟩, .createChannel ⟨1⟩ reply] =
      funder' := by
    rw [run_cons (perform_of_ok (.proposeChannel .zeros ⟨1⟩) rfl hpropose),
      run_cons (perform_of_ok (.createChannel ⟨1⟩ reply) rfl hcreate)]
    rfl
  refine ⟨[.proposeChannel .zeros ⟨1⟩, .createChannel ⟨1⟩ reply], txs, txs', ⟨c.complete, none⟩,
    ?_, ?_, ?_, ?_⟩
  · rw [hrun]
    exact htxs
  · rw [run_append, run_concat, hrun]
    exact htxs'
  · exact UInt32.toNat_inj.1 (hoffers'.state.trans hoffers.state.symm)
  · -- The payments differ, so what is left to the funder differs.
    intro hsame
    have hsame' : txs'.snapshot = txs.snapshot := hsame
    have hrefund' := hoffers'.refund
    rw [hsame', ← hoffers.refund] at hrefund'
    exact absurd (Nat.add_left_cancel hrefund') (by decide)

theorem not_opens_confirmPayment (n : Node) (partner : PeerId) (receipt : PaymentReceipt) :
    ¬ During (Opens partner) n [.confirmPayment partner receipt] := by
  rintro (⟨hphase, -⟩ | hnil)
  · cases hphase
  · exact hnil

omit [KeyScheme] in
/-- A funder with the default parameters signs two payments as state 1, and the first of them has
been rolled back when it signs the second. -/
theorem signed_once_zeros :
    letI : KeyScheme := .secp256k1
    ∃ before txs txs' receipt,
      ((create ⟨0⟩ {}).run before).signed? (.proposePayment ⟨1⟩ sampleInvoice) = some txs ∧
      ((create ⟨0⟩ {}).run (before ++ [.proposePayment ⟨1⟩ sampleInvoice] ++
        [.confirmPayment ⟨1⟩ receipt])).signed? (.proposePayment ⟨1⟩ largerInvoice) = some txs' ∧
      txs'.update.document.state = txs.update.document.state ∧
      (txs'.update.document.snapshot = txs.update.document.snapshot ∨
        During (RollsBack ⟨1⟩ txs)
          ((create ⟨0⟩ {}).run (before ++ [.proposePayment ⟨1⟩ sampleInvoice]))
          [.confirmPayment ⟨1⟩ receipt]) := by
  let _ : KeyScheme := .secp256k1
  obtain ⟨before, txs, txs', receipt, htxs, htxs', hstate, -⟩ := exists_rollback_zeros
  exact ⟨before, txs, txs', receipt, htxs, htxs', hstate,
    signed_once ⟨0⟩ {} before [.confirmPayment ⟨1⟩ receipt] _ _ ⟨1⟩ txs txs' rfl rfl htxs
      (not_opens_confirmPayment _ _ _) htxs' hstate⟩

omit [KeyScheme] in
/-- **A node can equivocate.** Without the exception for proposals that were rolled back, two signed
updates with one number may commit to different snapshots. -/
theorem equivocation_zeros :
    letI : KeyScheme := .secp256k1
    ¬ ∀ (id : PeerId) (params : Params) (before mid : List Operation) (op op' : Operation)
      (partner : PeerId) (txs txs' : StateTxs),
      op.partner? = some partner → op'.partner? = some partner →
      ((create id params).run before).signed? op = some txs →
      ¬ During (Opens partner) ((create id params).run (before ++ [op])) mid →
      ((create id params).run (before ++ [op] ++ mid)).signed? op' = some txs' →
      txs'.update.document.state = txs.update.document.state →
      txs'.update.document.snapshot = txs.update.document.snapshot := by
  let _ : KeyScheme := .secp256k1
  intro honce
  obtain ⟨before, txs, txs', receipt, htxs, htxs', hstate, hne⟩ := exists_rollback_zeros
  exact hne (honce ⟨0⟩ {} before [.confirmPayment ⟨1⟩ receipt] _ _ ⟨1⟩ txs txs' rfl rfl htxs
    (not_opens_confirmPayment _ _ _) htxs' hstate)

end Node

end Supersede
