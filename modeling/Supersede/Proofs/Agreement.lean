import Supersede.Proofs.Handshake

/-!
# The two sides of a channel agree

Two nodes open a channel and exchange payments and resolutions over a network that may delay,
reorder and lose messages, but neither forges nor repeats one. Both may propose at the same time,
and an answer may be overtaken by the next proposal.

**Theorem (`Session.agreement`).** At every point the complete states of the two sides are at most
one apart, and two complete states with the same number are equal, whichever side held them and
whenever it did.

**The invariant** (`Session.Sides`). Each side is idle or awaits the answer to its one proposal, and
of each handshake at most one message is on its way. Either both sides are level, or one of them is
a state behind and the answer that lets it catch up is on its way. A side that is behind awaits that
answer, so it refuses every proposal; hence a proposal is only ever accepted between sides that are
level, and what is accepted is a new state.

The states adopted so far are kept in a log (`Session.Inv`). A step adds to it at most the one state
after the last, which is why numbers in the log are never used twice.
-/

namespace Supersede

/-! ## Two nodes and the messages between them -/

/-- A message of a handshake. -/
inductive Message where
  | payment (proposal : PaymentProposal)
  | receipt (receipt : PaymentReceipt)
  | resolution (proposal : UpdateProposal)
  | answer (txs : StateTxs)

namespace Message

/-- The side that began the handshake. -/
def proposer : Message → Role
  | payment _ | receipt _ => .funder
  | resolution _ | answer _ => .counterparty

/-- Whether the message answers a proposal. -/
def isAnswer : Message → Bool
  | payment _ | resolution _ => false
  | receipt _ | answer _ => true

/-- The transactions that the message carries. -/
def txs : Message → StateTxs
  | payment m => m.txs
  | receipt m => m.txs
  | resolution m => m.txs
  | answer txs => txs

end Message

/-- Something that happens to two nodes with a channel. -/
inductive Event where
  | proposePayment (invoice : Invoice)
  | proposeUpdate (blockTime : UInt32)
  /-- One of the messages on their way arrives. A side that accepts a resolution does so at the
  block time. -/
  | deliver (place : Nat) (blockTime : UInt32)
  /-- A side does something that is not about this channel. -/
  | elsewhere (role : Role) (op : Operation)

/-- Two nodes with a channel, and the messages on their way between them. -/
structure Session where
  node : Role → Node
  /-- The name under which each side knows the other. -/
  peer : Role → PeerId
  inFlight : List Message

namespace Session

/-- A side's record of the channel. -/
def channel (s : Session) (role : Role) : Option Channel :=
  (s.node role).channels.get? (s.peer role)

/-- The state that a side holds as complete. -/
def snapshot (s : Session) (role : Role) : Option Snapshot := (s.channel role).map (·.snapshot)

/-- The messages on their way in the handshakes that a side began. -/
def flight (s : Session) (role : Role) : List Message :=
  s.inFlight.filter fun m => m.proposer = role

def setNode (s : Session) (role : Role) (n : Node) : Session :=
  { s with node := Function.update s.node role n }

/-- Sends a message onto its way. -/
def post (s : Session) (m : Message) : Session := { s with inFlight := m :: s.inFlight }

/-- Takes the message at a place out of the network. -/
def take (s : Session) (place : Nat) : Session :=
  { s with inFlight := s.inFlight.eraseIdx place }

/-- A side performs an operation. What it yields is sent to the other side; if it fails, nothing is
sent, and the node stays as the failure has left it. -/
def send {α : Type} (s : Session) (role : Role) (message : α → Message) (x : Acting α) : Session :=
  match x (s.node role) with
  | (.ok a, n) => (s.setNode role n).post (message a)
  | (.error _, n) => s.setNode role n

variable [KeyScheme]

/-- Two nodes open a channel with nothing on its way. -/
def establish (funder counterparty : Node) (peer : Role → PeerId) (e e' : Entropy) :
    Result Session := do
  let (party, funder) ← ((Node.proposeChannel (peer .funder)).outcome e).yield funder
  let (reply, counterparty) ←
    ((Node.joinChannel (peer .counterparty) party).outcome e').yield counterparty
  let (_, funder) ← (Node.createChannel (peer .funder) reply).yield funder
  return ⟨fun | .funder => funder | .counterparty => counterparty, peer, []⟩

/-- A message reaches the side that it is meant for. -/
def receive (s : Session) (blockTime : UInt32) : Message → Session
  | .payment m => s.send .counterparty .receipt (Node.receivePayment (s.peer .counterparty) m)
  | .resolution m => s.send .funder .answer (Node.acceptUpdate (s.peer .funder) m blockTime)
  | .receipt m => s.setNode .funder ((s.node .funder).confirmPayment (s.peer .funder) m).2
  | .answer m => s.setNode .counterparty
      ((s.node .counterparty).confirmUpdate (s.peer .counterparty) m).2

/-- What an event does. A message that is delivered is gone, whether or not it is accepted. -/
def step (s : Session) : Event → Session
  | .proposePayment invoice =>
    s.send .funder .payment (Node.proposePayment (s.peer .funder) invoice)
  | .proposeUpdate blockTime =>
    s.send .counterparty .resolution (Node.proposeUpdate (s.peer .counterparty) blockTime)
  | .deliver place blockTime =>
    match s.inFlight[place]? with
    | some m => (s.take place).receive blockTime m
    | none => s
  | .elsewhere role op =>
    if op.partner? = some (s.peer role) then s
    else s.setNode role ((s.node role).perform op).2

/-- The session after some events. -/
def run (s : Session) (events : List Event) : Session := events.foldl step s

theorem run_append (s : Session) (events events' : List Event) :
    s.run (events ++ events') = (s.run events).run events' :=
  List.foldl_append

/-! ## Looking at a session -/

section

omit [KeyScheme]

theorem channel_setNode (s : Session) (role : Role) (n : Node) :
    (s.setNode role n).channel =
      Function.update s.channel role (n.channels.get? (s.peer role)) := by
  funext r
  by_cases hr : r = role
  · subst hr
    simp [channel, setNode]
  · simp [channel, setNode, hr]

theorem flight_post (s : Session) (m : Message) :
    (s.post m).flight = Function.update s.flight m.proposer (m :: s.flight m.proposer) := by
  funext r
  by_cases hr : r = m.proposer
  · subst hr
    simp [flight, post]
  · simp [flight, post, hr, Ne.symm hr]

/-- A message is sent in a handshake that had none on its way. -/
theorem flight_post_of_nil {s : Session} {m : Message} {r : Role} (hm : m.proposer = r)
    (hnil : s.flight r = []) (role : Role) (n : Node) :
    ((s.setNode role n).post m).flight = Function.update s.flight r [m] := by
  rw [flight_post, hm]
  change Function.update s.flight r (m :: s.flight r) = _
  rw [hnil]

/-- An operation that fails without a trace leaves the session as it was. -/
theorem send_cases {s : Session} {α : Type} {role : Role} {x : Acting α}
    (hx : x.Atomic (s.node role)) (message : α → Message) :
    s.send role message x = s ∨ ∃ a n, x (s.node role) = (.ok a, n) ∧
      s.send role message x = (s.setNode role n).post (message a) := by
  rw [send]
  cases hrun : x (s.node role) with
  | mk r n =>
    cases r with
    | error e =>
      have hsame := hx e
      rw [hrun] at hsame
      obtain rfl := hsame rfl
      left
      show s.setNode role (s.node role) = s
      rw [setNode, Function.update_eq_self]
    | ok a => exact .inr ⟨a, n, rfl, rfl⟩

theorem exists_take {s : Session} {place : Nat} {m : Message}
    (hm : s.inFlight[place]? = some m) :
    ∃ before after, s.inFlight = before ++ m :: after ∧
      (s.take place).inFlight = before ++ after := by
  obtain ⟨hlt, rfl⟩ := List.getElem?_eq_some_iff.1 hm
  refine ⟨s.inFlight.take place, s.inFlight.drop (place + 1), ?_,
    List.eraseIdx_eq_take_drop_succ ..⟩
  rw [← List.drop_eq_getElem_cons hlt, List.take_append_drop]

/-- Taking the one message of a side's handshakes out of the network leaves none of them. -/
theorem flight_take {s : Session} {place : Nat} {m : Message}
    (hm : s.inFlight[place]? = some m) (hone : s.flight m.proposer = [m]) :
    (s.take place).flight = Function.update s.flight m.proposer [] := by
  obtain ⟨before, after, hall, hrest⟩ := exists_take hm
  funext r
  by_cases hr : r = m.proposer
  · subst hr
    have hlength := congrArg List.length hone
    rw [flight, hall, List.filter_append, List.filter_cons, if_pos (decide_eq_true rfl),
      List.length_append, List.length_cons, List.length_singleton] at hlength
    rw [flight, hrest, List.filter_append, Function.update_self, ← List.length_eq_zero_iff,
      List.length_append]
    omega
  · rw [flight, hrest, Function.update_of_ne hr, flight, hall]
    simp [Ne.symm hr]

end

end Session

/-! ## Where the sides stand -/

theorem Role.ne_other (role : Role) : role ≠ role.other := role.other_ne.symm

namespace Channel

/-- The messages on their way in the handshakes of a side that nobody has answered: none, or the
proposal that it has pending. -/
inductive Awaits (p : Params) (c : Channel) : List Message → Prop
  | nothing : Awaits p c []
  | answer {m : Message} (status : c.status = .updating) (pending : c.pending = some m.txs)
      (built : m.txs.Built p) (proposal : m.isAnswer = false) : Awaits p c [m]

theorem Awaits.eq_nil {p : Params} {c : Channel} {flight : List Message} (h : c.Awaits p flight)
    (hs : c.status = .active) : flight = [] := by
  cases h with
  | nothing => rfl
  | answer status => rw [hs] at status; cases status

theorem Awaits.eq_singleton {p : Params} {c : Channel} {flight : List Message} {m : Message}
    (h : c.Awaits p flight) (hm : m ∈ flight) : flight = [m] := by
  cases h with
  | nothing => cases hm
  | answer => rw [List.mem_singleton.1 hm]

variable [KeyScheme]

/-- A side's pending proposal has been accepted, the other side is at that state, and the answer is
on its way. -/
inductive Answered (c : Channel) (other : Snapshot) : List Message → Prop
  | mk {pending : StateTxs} {m : Message} (status : c.status = .updating)
      (hpending : c.pending = some pending) (isAnswer : m.isAnswer = true)
      (fits : pending.complete m.txs c.role = .ok m.txs) (agreed : m.txs.snapshot = other)
      (next : other.state.toNat = c.snapshot.state.toNat + 1) : Answered c other [m]

theorem Answered.not_active {c : Channel} {other : Snapshot} {flight : List Message}
    (h : c.Answered other flight) : c.status ≠ .active := by
  cases h with
  | mk status => rw [status]; nofun

theorem Answered.state {c : Channel} {other : Snapshot} {flight : List Message}
    (h : c.Answered other flight) : other.state.toNat = c.snapshot.state.toNat + 1 := by
  cases h with
  | mk _ _ _ _ _ next => exact next

theorem Answered.eq_singleton {c : Channel} {other : Snapshot} {flight : List Message}
    {m : Message} (h : c.Answered other flight) (hm : m ∈ flight) :
    flight = [m] ∧ m.isAnswer = true := by
  cases h with
  | mk _ _ isAnswer => rw [List.mem_singleton.1 hm]; exact ⟨rfl, isAnswer⟩

end Channel

namespace Session

variable [KeyScheme] {p : Params} {c : Role → Channel} {flight : Role → List Message}

/-- Where the two sides stand: at the same state, or one of them a state behind with the answer that
it awaits on its way. -/
inductive Sides (p : Params) (c : Role → Channel) (flight : Role → List Message) : Prop
  | level (awaits : ∀ r, (c r).Awaits p (flight r))
      (same : ∀ r, (c r.other).snapshot = (c r).snapshot)
  | behind (r : Role) (answered : (c r).Answered (c r.other).snapshot (flight r))
      (awaits : (c r.other).Awaits p (flight r.other))

/-- A side has at most one message on its way in the handshakes that it began. -/
theorem Sides.flight_eq (h : Sides p c flight) {r : Role} {m : Message} (hm : m ∈ flight r) :
    flight r = [m] := by
  cases h with
  | level awaits => exact (awaits r).eq_singleton hm
  | behind r₀ answered awaits =>
    by_cases hr : r = r₀
    · subst hr
      exact (answered.eq_singleton hm).1
    · rw [Role.eq_other_of_ne hr] at hm ⊢
      exact awaits.eq_singleton hm

/-- A side that is idle has no message on its way in the handshakes that it began. -/
theorem Sides.flight_eq_nil (h : Sides p c flight) {r : Role} (hidle : (c r).status = .active) :
    flight r = [] := by
  cases h with
  | level awaits => exact (awaits r).eq_nil hidle
  | behind r₀ answered awaits =>
    have hr : r ≠ r₀ := by
      rintro rfl
      exact answered.not_active hidle
    obtain rfl := Role.eq_other_of_ne hr
    exact awaits.eq_nil hidle

/-- A side whose proposal is on its way is level with the other, or ahead of it. -/
theorem Sides.of_proposal (h : Sides p c flight) {r : Role} {m : Message} (hm : flight r = [m])
    (hp : m.isAnswer = false) : (c r).Awaits p [m] ∧
      ((c r.other).Awaits p (flight r.other) ∧ (c r.other).snapshot = (c r).snapshot ∨
        (c r.other).Answered (c r).snapshot (flight r.other)) := by
  cases h with
  | level awaits same => exact ⟨hm ▸ awaits r, .inl ⟨awaits r.other, same r⟩⟩
  | behind r₀ answered awaits =>
    have hr : r ≠ r₀ := by
      rintro rfl
      have := (answered.eq_singleton (hm ▸ List.mem_singleton_self m)).2
      rw [hp] at this
      cases this
    obtain rfl := Role.eq_other_of_ne hr
    rw [Role.other_other]
    exact ⟨hm ▸ awaits, .inr answered⟩

/-- A side to which an answer is on its way is behind. -/
theorem Sides.of_answer (h : Sides p c flight) {r : Role} {m : Message} (hm : flight r = [m])
    (ha : m.isAnswer = true) :
    (c r).Answered (c r.other).snapshot [m] ∧ (c r.other).Awaits p (flight r.other) := by
  have hawaits : ¬ (c r).Awaits p [m] := by
    rintro (_ | ⟨-, -, -, hp⟩)
    rw [ha] at hp
    cases hp
  cases h with
  | level awaits => exact absurd (hm ▸ awaits r) hawaits
  | behind r₀ answered awaits =>
    by_cases hr : r = r₀
    · subst hr
      exact ⟨hm ▸ answered, awaits⟩
    · obtain rfl := Role.eq_other_of_ne hr
      exact absurd (hm ▸ awaits) hawaits

theorem Sides.level_of {r : Role} (hr : (c r).Awaits p (flight r))
    (hother : (c r.other).Awaits p (flight r.other))
    (same : (c r.other).snapshot = (c r).snapshot) : Sides p c flight := by
  refine .level (fun r' => ?_) (fun r' => ?_) <;> by_cases h : r' = r
  · exact h ▸ hr
  · exact Role.eq_other_of_ne h ▸ hother
  · exact h ▸ same
  · rw [Role.eq_other_of_ne h, Role.other_other, same]

theorem Sides.near (h : Sides p c flight) (r : Role) :
    (c r).snapshot.state.toNat ≤ (c r.other).snapshot.state.toNat + 1 := by
  cases h with
  | level _ same =>
    rw [same]
    exact Nat.le_succ _
  | behind r₀ answered =>
    have hnext := answered.state
    by_cases hr : r = r₀
    · subst hr
      omega
    · obtain rfl := Role.eq_other_of_ne hr
      rw [Role.other_other]
      omega

/-! ## What each event does to where the sides stand -/

/-- A proposal is made by a side that is idle. -/
theorem Sides.propose (h : Sides p c flight) {r : Role} {d : Channel} {m : Message}
    (hidle : (c r).status = .active) (hd : d.Awaits p [m]) (hs : d.snapshot = (c r).snapshot) :
    Sides p (Function.update c r d) (Function.update flight r [m]) := by
  cases h with
  | level awaits same =>
    refine .level_of (r := r) ?_ ?_ ?_
    · simpa using hd
    · simpa [r.other_ne] using awaits r.other
    · simpa [r.other_ne, hs] using same r
  | behind r₀ answered awaits =>
    have hr : r ≠ r₀ := by
      rintro rfl
      exact answered.not_active hidle
    obtain rfl := Role.eq_other_of_ne hr
    refine .behind r₀ ?_ ?_
    · simpa [r₀.ne_other, hs] using answered
    · simpa using hd

/-- A proposal that is not accepted is as good as lost. -/
theorem Sides.lose (h : Sides p c flight) {r : Role} {m : Message} (hm : flight r = [m])
    (hp : m.isAnswer = false) : Sides p c (Function.update flight r []) := by
  obtain ⟨-, ⟨awaits, same⟩ | answered⟩ := h.of_proposal hm hp
  · refine .level_of (r := r) ?_ ?_ same
    · simpa using .nothing
    · simpa [r.other_ne] using awaits
  · refine .behind r.other ?_ ?_
    · simpa [r.other_ne] using answered
    · simpa using .nothing

/-- A proposal is accepted only between sides that are level, and leaves the proposer behind. -/
theorem Sides.accept (h : Sides p c flight) (hrole : ∀ r, (c r).role = r) {r : Role}
    {m a : Message} (hm : flight r = [m]) (hp : m.isAnswer = false) {partner : PeerId}
    {op : Operation} (hanswers : (c r.other).Answers p partner op m.txs a.txs)
    (ha : a.isAnswer = true) {d : Channel} (hs : d.snapshot = a.txs.snapshot) :
    (c r.other).snapshot = (c r).snapshot ∧
      Sides p (Function.update c r.other d) (Function.update flight r [a]) := by
  obtain ⟨hawaits, ⟨hother, same⟩ | answered⟩ := h.of_proposal hm hp
  · refine ⟨same, .behind r ?_ ?_⟩
    · obtain ⟨hnext, hsigned⟩ := hanswers.next
      rw [hrole] at hsigned
      cases hawaits with
      | answer status pending built =>
        have hfits := StateTxs.complete_of_countersign built hsigned
        have hstate := hnext.follows.state
        rw [same] at hstate
        simpa [r.ne_other, hs] using
          Channel.Answered.mk status pending ha ((hrole r).symm ▸ hfits) rfl hstate
    · rw [Function.update_of_ne r.other_ne, hother.eq_nil hanswers.idle]
      exact .nothing
  · exact absurd hanswers.idle answered.not_active

/-- An answer brings the side that was behind level. -/
theorem Sides.catchUp (h : Sides p c flight) {r : Role} {m : Message} (hm : flight r = [m])
    (ha : m.isAnswer = true) {d : Channel} (hs : d.snapshot = m.txs.snapshot) :
    Sides p (Function.update c r d) (Function.update flight r []) := by
  obtain ⟨⟨-, -, -, -, agreed, -⟩, awaits⟩ := h.of_answer hm ha
  refine .level_of (r := r) ?_ ?_ ?_
  · simpa using .nothing
  · simpa [r.other_ne] using awaits
  · simp [r.other_ne, hs, agreed]

/-! ## The log of adopted states -/

omit [KeyScheme]

/-- A log of the states that the two sides have adopted: it has those that they hold, none is later
than both of these, and its numbers are used once. -/
structure Log (c : Role → Channel) (log : List Snapshot) : Prop where
  held : ∀ r, (c r).snapshot ∈ log
  last : ∀ a ∈ log, ∃ r, a.state.toNat ≤ (c r).snapshot.state.toNat
  unique : ∀ a ∈ log, ∀ b ∈ log, a.state = b.state → a = b

section

variable {c : Role → Channel} {log : List Snapshot}

/-- A side that takes over a state of the log, and no earlier one than its own, keeps the log. -/
theorem Log.update (h : Log c log) {r : Role} {d : Channel} (hd : d.snapshot ∈ log)
    (hle : (c r).snapshot.state.toNat ≤ d.snapshot.state.toNat) :
    Log (Function.update c r d) log where
  held := (Function.forall_update_iff c fun _ d => d.snapshot ∈ log).2 ⟨hd, fun r' _ => h.held r'⟩
  last a ha := by
    obtain ⟨r', hr'⟩ := h.last a ha
    by_cases hr : r' = r
    · refine ⟨r, ?_⟩
      rw [Function.update_self]
      exact Nat.le_trans (hr ▸ hr') hle
    · exact ⟨r', by rwa [Function.update_of_ne hr]⟩
  unique := h.unique

/-- When both sides are level, the state after theirs is a new one. -/
theorem Log.cons (h : Log c log) {r : Role} (same : (c r.other).snapshot = (c r).snapshot)
    {d : Channel} (hnext : d.snapshot.state.toNat = (c r).snapshot.state.toNat + 1) :
    Log (Function.update c r d) (d.snapshot :: log) := by
  have hlt : ∀ a ∈ log, a.state.toNat < d.snapshot.state.toNat := by
    intro a ha
    obtain ⟨r', hr'⟩ := h.last a ha
    by_cases hr : r' = r
    · rw [hr] at hr'
      omega
    · rw [Role.eq_other_of_ne hr, same] at hr'
      omega
  refine ⟨?_, fun a ha => ⟨r, ?_⟩, fun a ha b hb hab => ?_⟩
  · exact (Function.forall_update_iff c fun _ d' => d'.snapshot ∈ d.snapshot :: log).2
      ⟨List.mem_cons_self, fun r' _ => List.mem_cons_of_mem _ (h.held r')⟩
  · rw [Function.update_self]
    rcases List.mem_cons.1 ha with rfl | ha
    · exact Nat.le_refl _
    · exact Nat.le_of_lt (hlt a ha)
  · rcases List.mem_cons.1 ha with rfl | ha <;> rcases List.mem_cons.1 hb with rfl | hb
    · rfl
    · exact absurd (congrArg UInt32.toNat hab) (Nat.ne_of_gt (hlt b hb))
    · exact absurd (congrArg UInt32.toNat hab) (Nat.ne_of_lt (hlt a ha))
    · exact h.unique a ha b hb hab

end

/-! ## Runs -/

variable [KeyScheme]

/-- What holds along every run of a session with these parameters, with the two records of the
channel and a log of the states adopted. -/
structure Inv (p : Params) (s : Session) (c : Role → Channel) (log : List Snapshot) : Prop where
  params : ∀ r, (s.node r).params = p
  channel : s.channel = some ∘ c
  role : ∀ r, (c r).role = r
  sides : Sides p c s.flight
  log : Log c log

section

variable {p : Params} {s s' : Session} {c : Role → Channel} {log : List Snapshot} {r : Role}

theorem Inv.get?_channel (h : Inv p s c log) (r : Role) :
    (s.node r).channels.get? (s.peer r) = some (c r) :=
  congrFun h.channel r

theorem Inv.snapshot (h : Inv p s c log) (r : Role) : s.snapshot r = some (c r).snapshot := by
  rw [Session.snapshot, h.channel]
  rfl

/-- The invariant after one side has changed its record of the channel. -/
theorem Inv.update (h : Inv p s c log) {n : Node} {d : Channel} {log' : List Snapshot}
    (hnode : s'.node = Function.update s.node r n) (hpeer : s'.peer = s.peer)
    (hparams : n.params = (s.node r).params) (hn : n.channels.get? (s.peer r) = some d)
    (hrole : d.role = (c r).role) (hsides : Sides p (Function.update c r d) s'.flight)
    (hlog : Log (Function.update c r d) log') : Inv p s' (Function.update c r d) log' where
  params := by
    rw [hnode]
    exact (Function.forall_update_iff s.node fun _ n => n.params = p).2
      ⟨hparams.trans (h.params r), fun r' _ => h.params r'⟩
  channel := by
    have heq : s'.channel = (s.setNode r n).channel := by
      unfold Session.channel
      rw [hnode, hpeer]
      rfl
    rw [heq, channel_setNode, hn, h.channel, Function.comp_update]
  role := (Function.forall_update_iff c fun r d => d.role = r).2
    ⟨hrole.trans (h.role r), fun r' _ => h.role r'⟩
  sides := hsides
  log := hlog

/-- A side makes a proposal, or fails to. -/
theorem Inv.propose (h : Inv p s c log) {α : Type} {message : α → Message} {x : Acting α}
    {op : Operation} (hm : ∀ a, (message a).proposer = r ∧ (message a).isAnswer = false)
    (hatomic : x.Atomic (s.node r))
    (hx : ∀ a n, x (s.node r) = (.ok a, n) → ∃ d, (s.node r).channels.get? (s.peer r) = some d ∧
      d.Proposes (s.node r).params (s.node r).secrets (s.peer r) op (message a).txs ∧
      n = (s.node r).setChannel (s.peer r) (d.awaiting (message a).txs)) :
    ∃ c', Inv p (s.send r message x) c' log := by
  rcases send_cases hatomic message with heq | ⟨a, n, hrun, heq⟩
  · rw [heq]
    exact ⟨c, h⟩
  · obtain ⟨d, hd, hproposes, rfl⟩ := hx a n hrun
    obtain ⟨hproposer, hproposal⟩ := hm a
    obtain rfl : c r = d := Option.some.inj ((h.get?_channel r).symm.trans hd)
    rw [h.params] at hproposes
    rw [heq]
    refine ⟨_, h.update rfl rfl rfl (Node.get?_setChannel_self ..) rfl ?_ ?_⟩
    · have hnil := h.sides.flight_eq_nil hproposes.idle
      rw [flight_post_of_nil hproposer hnil]
      exact h.sides.propose hproposes.idle (.answer rfl rfl hproposes.next.2 hproposal) rfl
    · exact h.log.update (h.log.held r) (Nat.le_refl _)

/-- A proposal arrives and is accepted or refused. -/
theorem Inv.receive_proposal (h : Inv p s c log) {α : Type} {message : α → Message} {x : Acting α}
    {m : Message} {place : Nat} (hm : s.inFlight[place]? = some m) (hr : m.proposer = r)
    (hproposal : m.isAnswer = false)
    (ha : ∀ a, (message a).proposer = r ∧ (message a).isAnswer = true)
    (hatomic : x.Atomic (s.node r.other))
    (hx : ∀ a n, x (s.node r.other) = (.ok a, n) →
      n.params = (s.node r.other).params ∧
      ∃ d op, (s.node r.other).channels.get? (s.peer r.other) = some d ∧
        d.Answers (s.node r.other).params (s.peer r.other) op m.txs (message a).txs ∧
        n.channels.get? (s.peer r.other) = some (d.withComplete (message a).txs)) :
    ∃ c' log', log ⊆ log' ∧ Inv p ((s.take place).send r.other message x) c' log' := by
  subst hr
  have hone : s.flight m.proposer = [m] := by
    refine h.sides.flight_eq (List.mem_filter.2 ⟨List.mem_of_getElem? hm, decide_eq_true rfl⟩)
  have htake := flight_take hm hone
  rcases send_cases (s := s.take place) hatomic message with heq | ⟨a, n, hrun, heq⟩
  · refine ⟨c, log, List.Subset.refl _, ?_⟩
    rw [heq]
    refine ⟨h.params, h.channel, h.role, ?_, h.log⟩
    rw [htake]
    exact h.sides.lose hone hproposal
  · obtain ⟨hparams, d, op, hd, hanswers, hn⟩ := hx a n hrun
    obtain ⟨hproposer, hanswer⟩ := ha a
    obtain rfl : c m.proposer.other = d := Option.some.inj ((h.get?_channel _).symm.trans hd)
    rw [h.params] at hanswers
    obtain ⟨hsame, hsides⟩ := h.sides.accept h.role hone hproposal hanswers hanswer
      (d := (c m.proposer.other).withComplete (message a).txs) rfl
    rw [heq]
    refine ⟨_, _, List.subset_cons_self _ _, h.update rfl rfl hparams hn rfl ?_
      (h.log.cons ?_ hanswers.next.1.follows.state)⟩
    · have hnil : (s.take place).flight m.proposer = [] := by
        rw [htake, Function.update_self]
      rw [flight_post_of_nil hproposer hnil, htake, Function.update_idem]
      exact hsides
    · rw [Role.other_other, hsame]

/-- An answer arrives, and completes the proposal that it answers. -/
theorem Inv.receive_answer (h : Inv p s c log) {n : Node} {m : Message} {place : Nat}
    (hm : s.inFlight[place]? = some m) (hr : m.proposer = r) (hanswer : m.isAnswer = true)
    (hparams : n.params = (s.node r).params)
    (hn : n.channels = ((s.node r).finishProposal (s.peer r) (c r).role m.txs).2.channels) :
    ∃ c', Inv p ((s.take place).setNode r n) c' log := by
  subst hr
  have hone : s.flight m.proposer = [m] :=
    h.sides.flight_eq (List.mem_filter.2 ⟨List.mem_of_getElem? hm, decide_eq_true rfl⟩)
  obtain ⟨⟨-, hpending, -, hfits, hagreed, hnext⟩, -⟩ := h.sides.of_answer hone hanswer
  rw [Node.finishProposal_of_pending (h.get?_channel m.proposer) hpending, hfits] at hn
  refine ⟨_, h.update rfl rfl hparams ?_ (d := { c m.proposer with
    pending := none, status := .active, complete := m.txs }) rfl ?_ ?_⟩
  · rw [hn]
    exact Node.get?_setChannel_self ..
  · change Sides p _ (s.take place).flight
    rw [flight_take hm hone]
    exact h.sides.catchUp hone hanswer rfl
  · refine h.log.update ?_ ?_
    · change m.txs.snapshot ∈ log
      rw [hagreed]
      exact h.log.held _
    · change _ ≤ m.txs.snapshot.state.toNat
      rw [hagreed, hnext]
      exact Nat.le_succ _

/-- What a side does elsewhere leaves its record of the channel alone. -/
theorem Inv.elsewhere (h : Inv p s c log) {op : Operation} (hop : op.partner? ≠ some (s.peer r)) :
    Inv p (s.setNode r ((s.node r).perform op).2) c log := by
  have hstep := (s.node r).perform_step op
  have hsame : ((s.node r).perform op).2.channels.get? (s.peer r) = some (c r) := by
    rw [← h.get?_channel r]
    rcases hstep.channels with heq | ⟨partner, d, hpartner, heq, -⟩
    · rw [heq]
    · have hne : s.peer r ≠ partner := by
        rintro rfl
        exact hop hpartner
      rw [heq, SortedMap.get?_insert_of_ne _ hne]
  rw [← Function.update_eq_self r c]
  refine h.update rfl rfl hstep.params hsame rfl ?_ ?_ <;> rw [Function.update_eq_self]
  · exact h.sides
  · exact h.log

/-- **An event keeps the invariant.** The log only grows. -/
theorem Inv.step (h : Inv p s c log) (e : Event) :
    ∃ c' log', log ⊆ log' ∧ Inv p (s.step e) c' log' := by
  have hrefl : ∀ {s'}, (∃ c', Inv p s' c' log) → ∃ c' log', log ⊆ log' ∧ Inv p s' c' log' :=
    fun ⟨c', h'⟩ => ⟨c', log, List.Subset.refl _, h'⟩
  cases e with
  | proposePayment invoice =>
    exact hrefl <| h.propose (fun _ => ⟨rfl, rfl⟩) (Node.atomic_proposePayment _ _ _)
      fun _ _ => Node.proposes_of_proposePayment
  | proposeUpdate blockTime =>
    exact hrefl <| h.propose (fun _ => ⟨rfl, rfl⟩) (Node.atomic_proposeUpdate _ _ _)
      fun _ _ => Node.proposes_of_proposeUpdate
  | elsewhere role op =>
    rw [Session.step]
    split
    · exact hrefl ⟨c, h⟩
    · rename_i hop
      exact hrefl ⟨c, h.elsewhere hop⟩
  | deliver place blockTime =>
    rw [Session.step]
    split
    · rename_i m hm
      cases m with
      | payment proposal =>
        refine h.receive_proposal (r := .funder) hm rfl rfl (fun _ => ⟨rfl, rfl⟩)
          (Node.atomic_receivePayment _ _ _) fun a n hok => ?_
        obtain ⟨d, hd, hanswers, rfl⟩ := Node.answers_of_receivePayment hok
        exact ⟨rfl, d, _, hd, hanswers, Node.get?_setChannel_self ..⟩
      | resolution proposal =>
        refine h.receive_proposal (r := .counterparty) hm rfl rfl (fun _ => ⟨rfl, rfl⟩)
          (Node.atomic_acceptUpdate _ _ _ _) fun a n hok => ?_
        obtain ⟨d, hd, hanswers, rfl⟩ := Node.answers_of_acceptUpdate hok
        exact ⟨rfl, d, _, hd, hanswers, Node.get?_setChannel_self ..⟩
      | receipt receipt =>
        refine hrefl <| h.receive_answer (r := .funder) hm rfl rfl
          (Node.perform_step _ (.confirmPayment _ receipt)).params ?_
        rw [h.role]
        exact Node.channels_confirmPayment ..
      | answer txs =>
        refine hrefl <| h.receive_answer (r := .counterparty) hm rfl rfl
          (Node.perform_step _ (.confirmUpdate _ txs)).params ?_
        rw [h.role]
        rfl
    · exact hrefl ⟨c, h⟩

theorem Inv.run (h : Inv p s c log) (events : List Event) :
    ∃ c' log', log ⊆ log' ∧ Inv p (s.run events) c' log' := by
  induction events generalizing s c log with
  | nil => exact ⟨c, log, List.Subset.refl _, h⟩
  | cons e events ih =>
    obtain ⟨c₁, log₁, hlog₁, h₁⟩ := h.step e
    obtain ⟨c₂, log₂, hlog₂, h₂⟩ := ih h₁
    exact ⟨c₂, log₂, List.Subset.trans hlog₁ hlog₂, h₂⟩

end

/-! ## Opening a channel -/

theorem inv_establish {funder counterparty : Node} {peer : Role → PeerId} {e e' : Entropy}
    {s : Session} (hparams : funder.params = counterparty.params)
    (h : establish funder counterparty peer e e' = .ok s) :
    ∃ c a, Inv funder.params s c [a] := by
  simp only [establish, Result.bind_eq_ok, Result.pure_eq_ok] at h
  obtain ⟨⟨party, funder'⟩, hpropose, ⟨reply, counterparty'⟩, hjoin, ⟨_, funder''⟩, hcreate, rfl⟩ :=
    h
  obtain ⟨keys, -, hpublish, rfl⟩ := Node.keys_of_proposeChannel (Acting.yield_eq_ok.1 hpropose)
  obtain ⟨b, -, -, hbrole, hbsnap, rfl⟩ := Node.opened_of_joinChannel (Acting.yield_eq_ok.1 hjoin)
  obtain ⟨a, keys', own, -, harole, hkeys, hown, hasnap, rfl⟩ :=
    Node.opened_of_createChannel (Acting.yield_eq_ok.1 hcreate)
  -- Both sides open the channel with the keys that the funder has shown.
  rw [SortedMap.get?_insert_self] at hkeys
  obtain rfl := Option.some.inj hkeys
  obtain rfl := Except.ok.inj (hown.symm.trans hpublish)
  have hsame : a.snapshot = b.snapshot := by
    rw [← hparams] at hbsnap
    exact Except.ok.inj (hasnap.symm.trans hbsnap)
  refine ⟨fun | .funder => a | .counterparty => b, a.snapshot, ?_, ?_, ?_, ?_, ?_, ?_, ?_⟩
  · rintro (_ | _)
    · rfl
    · exact hparams.symm
  · funext r
    cases r <;> exact Node.get?_setChannel_self ..
  · rintro (_ | _)
    · exact harole
    · exact hbrole
  · refine .level_of (r := .funder) .nothing .nothing hsame.symm
  · rintro (_ | _)
    · exact List.mem_singleton_self _
    · exact hsame ▸ List.mem_singleton_self _
  · rintro d hd
    rw [List.mem_singleton.1 hd]
    exact ⟨.funder, Nat.le_refl _⟩
  · intro d hd d' hd' _
    rw [List.mem_singleton.1 hd, List.mem_singleton.1 hd']

/-- **Agreement.** Two nodes with the same parameters open a channel and exchange messages. After
any events their complete states are at most one apart, and a state that either side holds then
equals every state of the same number that either side holds later. -/
theorem agreement (funder counterparty : Node) (peer : Role → PeerId) (e e' : Entropy)
    (s : Session) (hparams : funder.params = counterparty.params)
    (h : establish funder counterparty peer e e' = .ok s) (earlier later : List Event) :
    (∃ a b, (s.run earlier).snapshot .funder = some a ∧
      (s.run earlier).snapshot .counterparty = some b ∧
      a.state.toNat ≤ b.state.toNat + 1 ∧ b.state.toNat ≤ a.state.toNat + 1) ∧
    ∀ r r' a b, (s.run earlier).snapshot r = some a →
      (s.run (earlier ++ later)).snapshot r' = some b → a.state = b.state → a = b := by
  obtain ⟨c₀, a₀, h₀⟩ := inv_establish hparams h
  obtain ⟨c₁, log₁, -, h₁⟩ := h₀.run earlier
  obtain ⟨c₂, log₂, hlog, h₂⟩ := h₁.run later
  refine ⟨⟨_, _, h₁.snapshot .funder, h₁.snapshot .counterparty, h₁.sides.near .funder,
    h₁.sides.near .counterparty⟩, fun r r' a b ha hb hstate => ?_⟩
  rw [h₁.snapshot] at ha
  rw [run_append, h₂.snapshot] at hb
  cases ha
  cases hb
  exact h₂.log.unique _ (hlog (h₁.log.held r)) _ (h₂.log.held r') hstate

end Session

/-- Two nodes with the default parameters agree over the channel that they open. -/
theorem agreement_zeros :
    letI : KeyScheme := .secp256k1
    ∃ s, Session.establish (.create ⟨0⟩ {}) (.create ⟨1⟩ {})
        (fun | .funder => ⟨1⟩ | .counterparty => ⟨0⟩) .zeros .zeros = .ok s ∧
      ∀ earlier later,
        (∃ a b, (s.run earlier).snapshot .funder = some a ∧
          (s.run earlier).snapshot .counterparty = some b ∧
          a.state.toNat ≤ b.state.toNat + 1 ∧ b.state.toNat ≤ a.state.toNat + 1) ∧
        ∀ r r' a b, (s.run earlier).snapshot r = some a →
          (s.run (earlier ++ later)).snapshot r' = some b → a.state = b.state → a = b := by
  let _ : KeyScheme := .secp256k1
  obtain ⟨party, funder, reply, counterparty, txs, funder', _, _, hpropose, hjoin, hcreate, -⟩ :=
    exists_opening_zeros
  have hestablish : ∃ s, Session.establish (.create ⟨0⟩ {}) (.create ⟨1⟩ {})
      (fun | .funder => ⟨1⟩ | .counterparty => ⟨0⟩) .zeros .zeros = .ok s := by
    simp only [Session.establish, Acting.yield_eq_ok.2 hpropose, Acting.yield_eq_ok.2 hjoin,
      Acting.yield_eq_ok.2 hcreate, Result.ok_bind]
    exact ⟨_, rfl⟩
  obtain ⟨s, hs⟩ := hestablish
  have hparams : (Node.create ⟨0⟩ {}).params = (Node.create ⟨1⟩ {}).params := rfl
  exact ⟨s, hs, Session.agreement _ _ _ _ _ s hparams hs⟩

end Supersede
