import Supersede.Node.Closure
import Supersede.Node.Exchange
import Supersede.Node.Opening
import Supersede.Proofs.Signing

/-!
# Operations and runs of a node

Everything a node can be asked is an `Operation`, with all that its caller or a partner supplies as
arguments. A node performs operations one after the other (`Node.run`), from a node without
channels and with any arguments. After one that fails it goes on with what the failure has left.

The lemmas on computations say how a sequence of reads, checks and writes runs; those on lookup say
when an operation finds the channel it is about.
-/

namespace Supersede

open Result

/-- A request to a node with its arguments. Where an operation draws, the source of the draws is an
argument too. -/
inductive Operation where
  | createInvoice (entropy : Entropy) (id : UInt64) (amount : Amount) (expiry : UInt32)
  | learnSecret (secret : Preimage)
  | proposeChannel (entropy : Entropy) (partner : PeerId)
  | joinChannel (entropy : Entropy) (partner : PeerId) (funder : Party)
  | createChannel (partner : PeerId) (other : Party)
  | proposePayment (partner : PeerId) (invoice : Invoice)
  | receivePayment (partner : PeerId) (proposal : PaymentProposal)
  | confirmPayment (partner : PeerId) (receipt : PaymentReceipt)
  | proposeUpdate (partner : PeerId) (blockTime : UInt32)
  | acceptUpdate (partner : PeerId) (proposal : UpdateProposal) (blockTime : UInt32)
  | confirmUpdate (partner : PeerId) (answer : StateTxs)
  | closeAlone (partner : PeerId) (settle : Settlement) (settleTxid : Txid)
      (options : SweepOptions)
  | proposeClose (partner : PeerId) (funding : OutPoint)
  | acceptClose (partner : PeerId) (close : CloseTx)
  | confirmClose (partner : PeerId) (tx : Transaction)

/-- What an operation is for. -/
inductive Phase where
  | wallet
  | opening
  | payment
  | update
  | closing
deriving DecidableEq

namespace Operation

/-- What the operation is for. -/
def phase : Operation → Phase
  | createInvoice .. | learnSecret .. => .wallet
  | proposeChannel .. | joinChannel .. | createChannel .. => .opening
  | proposePayment .. | receivePayment .. | confirmPayment .. => .payment
  | proposeUpdate .. | acceptUpdate .. | confirmUpdate .. => .update
  | closeAlone .. | proposeClose .. | acceptClose .. | confirmClose .. => .closing

/-- The partner that the operation is about. -/
def partner? : Operation → Option PeerId
  | createInvoice .. | learnSecret .. => none
  | proposeChannel _ p | joinChannel _ p _ | createChannel p _ | proposePayment p _
  | receivePayment p _ | confirmPayment p _ | proposeUpdate p _ | acceptUpdate p _ _
  | confirmUpdate p _ | closeAlone p .. | proposeClose p _ | acceptClose p _
  | confirmClose p _ => some p

end Operation

/-! ## Computations on a node -/

namespace Acting

variable {α β : Type} {n n' : Node}

/-- What follows a success goes on from the node that it leaves. -/
theorem bind_of_ok {x : Acting α} {a : α} (h : x n = (.ok a, n')) (f : α → Acting β) :
    (x >>= f) n = f a n' := by
  show ExceptT.bindCont f (x n).1 (x n).2 = _
  rw [h]
  rfl

/-- Nothing follows a failure, and its writes stay. -/
theorem bind_of_error {x : Acting α} {e : Error} (h : x n = (.error e, n')) (f : α → Acting β) :
    (x >>= f) n = (.error e, n') := by
  show ExceptT.bindCont f (x n).1 (x n).2 = _
  rw [h]
  rfl

theorem get_bind (f : Node → Acting β) : (get >>= f) n = f n n := bind_of_ok rfl f

theorem modify_bind (g : Node → Node) (f : Unit → Acting β) :
    (modify g >>= f : Acting β) n = f () (g n) := bind_of_ok rfl f

theorem pure_ok_iff {a b : α} : (pure a : Acting α) n = (.ok b, n') ↔ a = b ∧ n = n' := by
  rw [Prod.ext_iff]
  exact and_congr_left' Result.pure_eq_ok

theorem lift_ok_bind (a : α) (f : α → Acting β) :
    (liftM (.ok a : Result α) >>= f : Acting β) n = f a n := bind_of_ok rfl f

theorem lift_bind_ok_iff {r : Result α} {f : α → Acting β} {b : β} :
    (liftM r >>= f : Acting β) n = (.ok b, n') ↔ ∃ a, r = .ok a ∧ f a n = (.ok b, n') := by
  cases r with
  | error e => exact ⟨nofun, fun ⟨_, h, _⟩ => nomatch h⟩
  | ok a => exact ⟨fun h => ⟨a, rfl, h⟩, fun ⟨_, h, hf⟩ => Except.ok.inj h ▸ hf⟩

/-- What a computation yields and the node afterwards, if it succeeds. -/
def yield (x : Acting α) (n : Node) : Result (α × Node) := (x n).1.map fun a => (a, (x n).2)

theorem yield_eq_ok {x : Acting α} {a : α} : x.yield n = .ok (a, n') ↔ x n = (.ok a, n') := by
  rw [yield, Result.map_eq_ok]
  constructor
  · rintro ⟨a, ha, heq⟩
    cases heq
    exact Prod.ext ha rfl
  · intro h
    rw [h]
    exact ⟨a, rfl, rfl⟩

end Acting

/-- The computation with the source of its draws given. -/
def Drawing.outcome {α : Type} (d : Drawing α) (e : Entropy) : Acting α := fun n => (d n e).1

namespace Drawing

variable {α β : Type}

theorem outcome_ofActing (x : Acting α) (e : Entropy) : (ofActing x).outcome e = x :=
  funext fun _ => rfl

theorem outcome_ofActing_bind (x : Acting α) (f : α → Drawing β) (e : Entropy) :
    (ofActing x >>= f).outcome e = x >>= fun a => (f a).outcome e := by
  funext n
  show (ExceptT.bindCont f (x n).1 (x n).2 e).1 =
    ExceptT.bindCont (fun a => (f a).outcome e) (x n).1 (x n).2
  cases (x n).1 <;> rfl

theorem outcome_draw_bind (f : Hash256 → Drawing β) (e : Entropy) :
    (draw >>= f).outcome e = (f e.next.1).outcome e.next.2 :=
  funext fun _ => rfl

end Drawing

namespace Node

/-! ## Lookup of channels -/

theorem get?_setChannel_self (n : Node) (p : PeerId) (c : Channel) :
    (n.setChannel p c).channels.get? p = some c :=
  SortedMap.get?_insert_self n.channels p c

theorem setChannel_setChannel (n : Node) (p : PeerId) (c c' : Channel) :
    (n.setChannel p c).setChannel p c' = n.setChannel p c' := by
  rw [setChannel, setChannel, setChannel, SortedMap.insert_insert]

theorem channel_eq_ok {n : Node} {p : PeerId} {c : Channel} :
    n.channel p = .ok c ↔ n.channels.get? p = some c := by
  unfold channel
  split <;> simp_all

theorem checkNew_eq_ok {n : Node} {p : PeerId} :
    n.checkNew p = .ok () ↔ n.channels.get? p = none := by
  rw [checkNew, SortedMap.contains]
  cases n.channels.get? p <;> simp

theorem channelAs_eq_ok {n : Node} {p : PeerId} {role : Role} {c : Channel} :
    n.channelAs p role = .ok c ↔ n.channels.get? p = some c ∧ c.role = role := by
  simp only [channelAs, bind_eq_ok, channel_eq_ok]
  constructor
  · rintro ⟨c', hc', h⟩
    split at h
    · cases h
      exact ⟨hc', ‹_›⟩
    · cases h
  · rintro ⟨hc, hr⟩
    exact ⟨c, hc, if_pos hr⟩

theorem checkIdle_eq_ok {p : PeerId} {c : Channel} :
    checkIdle p c = .ok () ↔ c.status = .active := by
  unfold checkIdle
  split <;> simp_all

theorem idleChannel_eq_ok {n : Node} {p : PeerId} {role : Role} {c : Channel} :
    n.idleChannel p role = .ok c ↔
      n.channels.get? p = some c ∧ c.role = role ∧ c.status = .active := by
  simp only [idleChannel, bind_eq_ok, pure_eq_ok, channelAs_eq_ok]
  constructor
  · rintro ⟨c', ⟨hc, hr⟩, ⟨⟩, hs, rfl⟩
    exact ⟨hc, hr, checkIdle_eq_ok.1 hs⟩
  · rintro ⟨hc, hr, hs⟩
    exact ⟨c, ⟨hc, hr⟩, (), checkIdle_eq_ok.2 hs, rfl⟩

theorem closableChannel_eq_ok {n : Node} {p : PeerId} {c : Channel} :
    n.closableChannel p = .ok c ↔ n.channels.get? p = some c ∧ c.status = .active := by
  simp only [closableChannel, bind_eq_ok, channel_eq_ok, idleChannel_eq_ok]
  constructor
  · rintro ⟨-, -, hc, -, hs⟩
    exact ⟨hc, hs⟩
  · rintro ⟨hc, hs⟩
    exact ⟨c, hc, hc, rfl, hs⟩

theorem expectProposal_eq_ok {α : Type} {p : PeerId} {proposal? : Option α} {proposal : α} :
    expectProposal p proposal? = .ok proposal ↔ proposal? = some proposal := by
  cases proposal? <;> simp [expectProposal]

/-! ## Writes to a record -/

/-- A record that is there can be written. -/
theorem modifyChannel_of_get? {n : Node} {p : PeerId} {c : Channel}
    (hc : n.channels.get? p = some c) (f : Channel → Channel) :
    n.modifyChannel p f = (.ok (), n.setChannel p (f c)) := by
  rw [modifyChannel, Acting.get_bind, channel_eq_ok.2 hc]
  rfl

theorem modifyChannel_bind_pure {β : Type} {n : Node} {p : PeerId} {c : Channel}
    (hc : n.channels.get? p = some c) (f : Channel → Channel) (b : β) :
    (modifyChannel p f >>= fun _ => pure b : Acting β) n = (.ok b, n.setChannel p (f c)) :=
  Acting.bind_of_ok (modifyChannel_of_get? hc f) _

/-! ## Runs -/

/-- The outcome for the caller, without what it yields, and the node afterwards. -/
def conclude {α : Type} (r : Result α × Node) : Result Unit × Node := (r.1.map fun _ => (), r.2)

variable [KeyScheme]

/-- Performs an operation. -/
def perform (n : Node) : Operation → Result Unit × Node
  | .createInvoice e id amount expiry => conclude ((createInvoice id amount expiry).outcome e n)
  | .learnSecret secret => (.ok (), n.learnSecret secret)
  | .proposeChannel e p => conclude ((proposeChannel p).outcome e n)
  | .joinChannel e p funder => conclude ((joinChannel p funder).outcome e n)
  | .createChannel p other => conclude (n.createChannel p other)
  | .proposePayment p invoice => conclude (n.proposePayment p invoice)
  | .receivePayment p proposal => conclude (n.receivePayment p proposal)
  | .confirmPayment p receipt => n.confirmPayment p receipt
  | .proposeUpdate p blockTime => conclude (n.proposeUpdate p blockTime)
  | .acceptUpdate p proposal blockTime => conclude (n.acceptUpdate p proposal blockTime)
  | .confirmUpdate p answer => n.confirmUpdate p answer
  | .closeAlone p settle txid options => conclude (n.closeAlone p settle txid options)
  | .proposeClose p funding => conclude (n.proposeClose p funding)
  | .acceptClose p close => conclude (n.acceptClose p close)
  | .confirmClose p tx => conclude (n.confirmClose p tx)

/-- The node after some operations. -/
def run (n : Node) (ops : List Operation) : Node := ops.foldl (fun n op => (n.perform op).2) n

theorem run_append (n : Node) (ops ops' : List Operation) :
    n.run (ops ++ ops') = (n.run ops).run ops' :=
  List.foldl_append

theorem run_concat (n : Node) (ops : List Operation) (op : Operation) :
    n.run (ops ++ [op]) = ((n.run ops).perform op).2 :=
  run_append n ops [op]

/-- An operation that succeeds leaves the node that it yields. -/
theorem perform_of_ok {α : Type} {n n' : Node} (op : Operation) {r : Result α × Node} {a : α}
    (hop : n.perform op = conclude r) (h : r = (.ok a, n')) : (n.perform op).2 = n' := by
  rw [hop, h]
  rfl

theorem run_cons {n n' : Node} {op : Operation} (h : (n.perform op).2 = n')
    (ops : List Operation) : n.run (op :: ops) = n'.run ops := by
  rw [← h]
  rfl

end Node

end Supersede
