import Supersede.Proofs.Operations

/-!
# Failures leave no trace

An operation reads and writes its node as it goes, and a failure does not take back what was
written. Still twelve of the operations are atomic: if they fail, the node is as it was. They make
all their checks on the node as they find it, and of the writes that follow none can fail. Two of
these writes look something up again and could fail on another node: a record is written only if
there is one (`Node.modifyChannel`), and proposed keys are taken only if there are some
(`Node.takeProposed`). The checks have found both, and no write in between removes them.

The two operations that end a proposal of our own are not atomic: `Node.finishProposal` drops the
proposal before it looks at the answer. If they fail at all, it is there
(`Node.confirmPayment_cases`).
-/

namespace Supersede

open Result

namespace Acting

variable {α β : Type} {n n' : Node}

/-- If the computation fails on the node, the node is afterwards as it was. -/
def Atomic (x : Acting α) (n : Node) : Prop := ∀ e, (x n).1 = .error e → (x n).2 = n

/-- What succeeds has no failure to undo, whatever it writes. -/
theorem Atomic.of_ok {x : Acting α} {a : α} (h : x n = (.ok a, n')) : x.Atomic n := by
  intro e he
  rw [h] at he
  cases he

theorem Atomic.get_bind {f : Node → Acting β} (h : (f n).Atomic n) : (get >>= f).Atomic n := h

/-- A check before the first write. -/
theorem Atomic.lift_bind {r : Result α} {f : α → Acting β} (h : ∀ a, r = .ok a → (f a).Atomic n) :
    (liftM r >>= f : Acting β).Atomic n := by
  cases r with
  | error e => exact fun _ _ => rfl
  | ok a => exact h a rfl

theorem Atomic.cases {x : Acting α} (h : x.Atomic n) :
    (x n).2 = n ∨ ∃ a, x n = (.ok a, (x n).2) := by
  cases hx : x n with
  | mk r m =>
    cases r with
    | error e =>
      have hm := h e
      rw [hx] at hm
      exact .inl (hm rfl)
    | ok a => exact .inr ⟨a, rfl⟩

theorem Atomic.conclude {x : Acting α} (hx : x.Atomic n) {e : Error}
    (h : (Node.conclude (x n)).1 = .error e) : (Node.conclude (x n)).2 = n := by
  rcases hx.cases with heq | ⟨a, heq⟩
  · exact heq
  · rw [heq] at h
    cases h

end Acting

namespace Node

variable {n : Node} {partner : PeerId} {c : Channel}

theorem atomic_createInvoice (n : Node) (e : Entropy) (id : UInt64) (amount : Amount)
    (expiry : UInt32) : ((createInvoice id amount expiry).outcome e).Atomic n := by
  rw [createInvoice, Drawing.outcome_draw_bind, Drawing.outcome_ofActing]
  exact .lift_bind fun invoice _ => .of_ok rfl

variable [KeyScheme]

/-! ## Opening -/

theorem atomic_proposeChannel (n : Node) (e : Entropy) (partner : PeerId) :
    ((proposeChannel partner).outcome e).Atomic n := by
  rw [proposeChannel, Drawing.outcome_ofActing_bind, bind_assoc]
  refine .get_bind (.lift_bind fun _ _ => ?_)
  rw [Drawing.outcome_draw_bind, Drawing.outcome_ofActing]
  exact .get_bind (.lift_bind fun keys _ => .lift_bind fun own _ => .of_ok rfl)

theorem atomic_joinChannel (n : Node) (e : Entropy) (partner : PeerId) (funder : Party) :
    ((joinChannel partner funder).outcome e).Atomic n := by
  rw [joinChannel, Drawing.outcome_ofActing_bind, bind_assoc]
  refine .get_bind (.lift_bind fun _ _ => ?_)
  rw [Drawing.outcome_ofActing_bind]
  refine .lift_bind fun _ _ => ?_
  rw [Drawing.outcome_draw_bind, Drawing.outcome_ofActing]
  refine .get_bind (.lift_bind fun keys _ => .lift_bind fun own _ => ?_)
  refine .lift_bind fun snapshot _ => .lift_bind fun setup _ => .lift_bind fun settle _ => ?_
  exact .lift_bind fun signed _ => .of_ok rfl

omit [KeyScheme] in
/-- Proposed keys that are there can be taken. -/
theorem takeProposed_of_ok {keys : ChannelKeys} (h : n.proposedKeys partner = .ok keys) :
    n.takeProposed partner = (.ok keys, { n with proposed := n.proposed.erase partner }) := by
  rw [takeProposed, Acting.get_bind, h]
  rfl

theorem atomic_createChannel (n : Node) (partner : PeerId) (other : Party) :
    (createChannel partner other).Atomic n := by
  refine .get_bind (.lift_bind fun keys hkeys => .lift_bind fun _ _ => .lift_bind fun sig _ => ?_)
  refine .lift_bind fun own _ => .lift_bind fun snapshot _ => .lift_bind fun setup _ => ?_
  refine .lift_bind fun settle _ => .lift_bind fun _ _ => .lift_bind fun signed _ => ?_
  -- The keys that are taken are those that were read first.
  exact .lift_bind fun _ _ => .of_ok (Acting.bind_of_ok (takeProposed_of_ok hkeys) _)

/-! ## Proposals and answers -/

theorem atomic_proposePayment (n : Node) (partner : PeerId) (invoice : Invoice) :
    (proposePayment partner invoice).Atomic n := by
  refine .get_bind (.lift_bind fun c hc => .lift_bind fun next _ => .lift_bind fun txs _ => ?_)
  exact .of_ok (modifyChannel_bind_pure (idleChannel_eq_ok.1 hc).1 _ _)

theorem atomic_receivePayment (n : Node) (partner : PeerId) (proposal : PaymentProposal) :
    (receivePayment partner proposal).Atomic n := by
  refine .get_bind (.lift_bind fun c hc => .lift_bind fun invoice _ => ?_)
  refine .lift_bind fun expected _ => .lift_bind fun txs _ => ?_
  exact .of_ok (modifyChannel_bind_pure (idleChannel_eq_ok.1 hc).1 _ _)

theorem atomic_proposeUpdate (n : Node) (partner : PeerId) (blockTime : UInt32) :
    (proposeUpdate partner blockTime).Atomic n := by
  refine .get_bind (.lift_bind fun c hc => .lift_bind fun next _ => .lift_bind fun txs _ => ?_)
  exact .of_ok (modifyChannel_bind_pure (idleChannel_eq_ok.1 hc).1 _ _)

theorem atomic_acceptUpdate (n : Node) (partner : PeerId) (proposal : UpdateProposal)
    (blockTime : UInt32) : (acceptUpdate partner proposal blockTime).Atomic n := by
  refine .get_bind (.lift_bind fun c hc => .lift_bind fun _ _ => .lift_bind fun _ _ => ?_)
  refine .lift_bind fun expected _ => .lift_bind fun txs _ => ?_
  -- The secrets are written before the record; they do not touch it.
  have hc' : (n.learnSecrets proposal.secrets).channels.get? partner = some c :=
    (idleChannel_eq_ok.1 hc).1
  exact .of_ok ((Acting.modify_bind ..).trans (modifyChannel_bind_pure hc' _ _))

/-! ## Closes -/

theorem atomic_closeAlone (n : Node) (partner : PeerId) (settle : Settlement) (txid : Txid)
    (options : SweepOptions) : (closeAlone partner settle txid options).Atomic n := by
  refine .get_bind (.lift_bind fun c hc => .lift_bind fun _ _ => .lift_bind fun sweep _ => ?_)
  exact .lift_bind fun signed _ => .of_ok (modifyChannel_bind_pure (channel_eq_ok.1 hc) _ _)

theorem atomic_proposeClose (n : Node) (partner : PeerId) (funding : OutPoint) :
    (proposeClose partner funding).Atomic n := by
  refine .get_bind (.lift_bind fun c hc => .lift_bind fun close _ => .lift_bind fun signed _ => ?_)
  exact .of_ok (modifyChannel_bind_pure (closableChannel_eq_ok.1 hc).1 _ _)

theorem atomic_acceptClose (n : Node) (partner : PeerId) (close : CloseTx) :
    (acceptClose partner close).Atomic n := by
  refine .get_bind (.lift_bind fun c hc => .lift_bind fun expected _ => .lift_bind fun _ _ => ?_)
  refine .lift_bind fun sig _ => .lift_bind fun _ _ => .lift_bind fun signed _ => ?_
  exact .lift_bind fun tx _ => .of_ok (modifyChannel_bind_pure (closableChannel_eq_ok.1 hc).1 _ _)

theorem atomic_confirmClose (n : Node) (partner : PeerId) (tx : Transaction) :
    (confirmClose partner tx).Atomic n := by
  refine .get_bind (.lift_bind fun c hc => .lift_bind fun proposed _ => .lift_bind fun _ _ => ?_)
  exact .of_ok (modifyChannel_of_get? (channel_eq_ok.1 hc) _)

/-! ## Answers to our own proposal -/

/-- Without a pending proposal of the node's side, nothing is written. -/
theorem finishProposal_cases (n : Node) (partner : PeerId) (role : Role) (answer : StateTxs) :
    (∃ e, n.finishProposal partner role answer = (.error e, n)) ∨
    ∃ c pending, n.channels.get? partner = some c ∧ c.role = role ∧ c.pending = some pending := by
  cases hc : n.channelAs partner role with
  | error e =>
    refine .inl ⟨e, ?_⟩
    rw [finishProposal, Acting.get_bind, hc]
    rfl
  | ok c =>
    obtain ⟨hget, hrole⟩ := channelAs_eq_ok.1 hc
    cases hpending : c.pending with
    | none =>
      refine .inl ⟨.protocol (.noPendingProposal partner), ?_⟩
      rw [finishProposal, Acting.get_bind, hc, Acting.lift_ok_bind, hpending]
      rfl
    | some pending => exact .inr ⟨c, pending, hget, hrole, hpending⟩

/-- The end of a pending proposal: it is completed or dropped, and the channel is active. -/
theorem finishProposal_of_pending {pending : StateTxs} (hc : n.channels.get? partner = some c)
    (hp : c.pending = some pending) (answer : StateTxs) :
    n.finishProposal partner c.role answer =
      match pending.complete answer c.role with
      | .error e => (.error e, n.setChannel partner c.idle)
      | .ok txs => (.ok (), n.setChannel partner (c.idle.withComplete txs)) := by
  have hfound : expectProposal partner c.pending = .ok pending := expectProposal_eq_ok.2 hp
  rw [finishProposal, Acting.get_bind, channelAs_eq_ok.2 ⟨hc, rfl⟩, Acting.lift_ok_bind,
    hfound, Acting.lift_ok_bind, Acting.modify_bind]
  cases pending.complete answer c.role with
  | error e => rfl
  | ok txs => exact congrArg (Prod.mk _) (setChannel_setChannel ..)

theorem get?_of_finishProposal {role : Role} {answer : StateTxs} {n' : Node}
    (h : n.finishProposal partner role answer = (.ok (), n')) :
    ∃ c, n'.channels.get? partner = some c := by
  rcases n.finishProposal_cases partner role answer with ⟨e, he⟩ | ⟨c, pending, hc, rfl, hp⟩
  · rw [he] at h
    cases h
  · rw [finishProposal_of_pending hc hp] at h
    cases hcomplete : pending.complete answer c.role with
    | error e =>
      rw [hcomplete] at h
      cases h
    | ok txs =>
      rw [hcomplete] at h
      cases h
      exact ⟨_, get?_setChannel_self ..⟩

theorem confirmPayment_of_error {receipt : PaymentReceipt} {e : Error} {n' : Node}
    (h : n.finishProposal partner .funder receipt.txs = (.error e, n')) :
    n.confirmPayment partner receipt = (.error e, n') :=
  Acting.bind_of_error h _

/-- The secret of a receipt counts only once the payment is complete, and it is never a reason to
fail: at most, it is learned. -/
theorem confirmPayment_cases (n : Node) (partner : PeerId) (receipt : PaymentReceipt) :
    n.confirmPayment partner receipt = n.finishProposal partner .funder receipt.txs ∨
    ∃ secret n', n.finishProposal partner .funder receipt.txs = (.ok (), n') ∧
      n.confirmPayment partner receipt = (.ok (), n'.learnSecret secret) := by
  cases hfinish : n.finishProposal partner .funder receipt.txs with
  | mk r n' =>
    cases r with
    | error e => exact .inl (confirmPayment_of_error hfinish)
    | ok =>
      -- The record that the secret is compared with is the one just written.
      obtain ⟨c, hc⟩ := get?_of_finishProposal hfinish
      rw [confirmPayment, Acting.bind_of_ok hfinish]
      cases receipt.secret with
      | none => exact .inl rfl
      | some secret =>
        simp only [learnOffered]
        rw [Acting.get_bind, channel_eq_ok.2 hc, Acting.lift_ok_bind]
        by_cases hoffered : c.snapshot.offered.contains secret.paymentHash = true
        · rw [if_pos hoffered]
          exact .inr ⟨secret, n', rfl, rfl⟩
        · rw [if_neg hoffered]
          exact .inl rfl

end Node

end Supersede
