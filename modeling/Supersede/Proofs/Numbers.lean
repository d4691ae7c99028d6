import Supersede.Proofs.ScriptForms

/-!
# Numbers on their way through a script

A lock time, a dispute window or an expiry is written into a script as an instruction, read back
from its bytes, pushed by the machine and read again by the operation that checks it. The forms
differ on the way: zero is an empty push, the numbers up to 16 are operations, others are pushes
of one to five bytes, the last of which is zero if the sign bit would be set without it.

* `ScriptNumber.Represents`: what makes an item stand for a number wherever an item is looked at.
* `Machine.run_append_number`: a number at the end of a script leaves its item on the stack.
* `Script.CheckSees`: whenever a run comes to a check, the item on top stands for a given number.

**Theorem (`Script.numbers_survive`).** Every number of 32 bits that is appended to a script is
pushed as one item that stands for it. Time locks and the final test treat such an item as the
number, so in the scripts of a channel they see the numbers that the scripts were made with.
-/

namespace Supersede

open Result Script

/-! ## Items that stand for a number -/

/-- The item stands for the number: it is short enough to be read, it is read as the number, and it
is true unless the number is zero. -/
structure ScriptNumber.Represents (item : Bytes) (n : UInt32) : Prop where
  length : item.length ≤ 5
  number : SpendContext.readNumber item = .ok (n.toNat : Int)
  truth : isTrue item = true ↔ n ≠ 0

theorem ScriptNumber.represents_encode (n : UInt32) : Represents (encode n.toNat) n where
  length := by
    have hlt : n.toNat < 256 ^ 4 := n.toNat_lt
    exact (length_encode_le_digits n.toNat).trans (Nat.succ_le_succ (length_digits_le hlt))
  number := SpendContext.readNumber_encode n
  truth := isTrue_encode_toNat n

theorem ScriptNumber.represents_encode_blocks (n : UInt16) :
    Represents (encode n.toNat) n.toUInt32 := by
  rw [← UInt16.toNat_toUInt32]
  exact represents_encode n.toUInt32

namespace SpendContext

/-- What the check of a lock time asks for, by the number alone. -/
def requireLockTime (ctx : SpendContext) (required : UInt32) : Except Fault Unit :=
  if decide (required < LockTime.threshold) ≠ decide (ctx.tx.lockTime < LockTime.threshold) then
    .error .lockTimeKind
  else if ctx.tx.lockTime < required then .error (.lockTimeBelow ctx.tx.lockTime required.toNat)
  else if ctx.input.sequence = LockTime.finalSequence then .error .finalSequence
  else .ok ()

/-- What the check of a relative lock asks for, by the number alone. -/
def requireSequence (ctx : SpendContext) (required : UInt32) : Except Fault Unit :=
  let sequence := ctx.input.sequence
  if required &&& LockTime.disableFlag ≠ 0 then .ok ()
  else if ctx.tx.version < 2 then .error .relativeLockVersion
  else if sequence &&& LockTime.disableFlag ≠ 0 then .error .relativeLockDisabled
  else if required &&& LockTime.timeFlag ≠ sequence &&& LockTime.timeFlag then
    .error .relativeLockKind
  else if sequence &&& LockTime.lengthMask < required &&& LockTime.lengthMask then
    .error (.sequenceBelow (sequence &&& LockTime.lengthMask) (required &&& LockTime.lengthMask))
  else .ok ()

end SpendContext

namespace ScriptNumber.Represents

variable {item : Bytes} {n : UInt32} (h : Represents item n) (ctx : SpendContext)

include h

theorem checkLockTime : ctx.checkLockTime item = ctx.requireLockTime n := by
  have hnonneg : ¬ (n.toNat : Int) < 0 := by omega
  have hlt (a b : UInt32) : (a.toNat : Int) < b.toNat ↔ a < b := by
    rw [UInt32.lt_iff_toNat_lt, Int.ofNat_lt]
  rw [SpendContext.checkLockTime, h.number, ok_bind, SpendContext.requireLockTime]
  generalize LockTime.threshold = threshold
  simp only [if_neg hnonneg, hlt]

theorem checkSequence : ctx.checkSequence item = ctx.requireSequence n := by
  have hnonneg : ¬ (n.toNat : Int) < 0 := by omega
  have hword : UInt32.ofNat (n.toNat : Int).toNat = n := by
    rw [Int.toNat_natCast, UInt32.ofNat_toNat]
  simp only [SpendContext.checkSequence, h.number, ok_bind, hword, if_neg hnonneg,
    SpendContext.requireSequence]

omit ctx in
theorem finish : Machine.finish { stack := [item] } =
    if n = 0 then .error .evaluatedFalse else .ok () := by
  by_cases hn : n = 0
  · have hfalse : ¬ isTrue item = true := fun htrue => h.truth.1 htrue hn
    rw [if_pos hn]
    exact if_neg hfalse
  · rw [if_neg hn]
    exact if_pos (h.truth.2 hn)

end ScriptNumber.Represents

/-! ## Numbers at the end of a script -/

/-- The script is written from instructions. -/
def Script.Built (script : Bytes) : Prop :=
  ∃ code : List Instruction, (∀ i ∈ code, i.Readable) ∧ Script.encode code = script

theorem Script.encode_append_number (code : List Instruction) (n : Nat) :
    encode code ++ (Instruction.number n).encode = encode (code ++ [.number n]) := by
  simp [encode]

theorem Script.readable_append_number {code : List Instruction} (h : ∀ i ∈ code, i.Readable)
    (n : Nat) : ∀ i ∈ code ++ [.number n], i.Readable := by
  intro i hi
  rcases List.mem_append.1 hi with hi | hi
  · exact h i hi
  · rw [List.mem_singleton.1 hi]
    exact Instruction.readable_number n

namespace Machine

/-- Pushes an item, unless the machine is in a branch that is not taken. -/
def push (m : Machine) (item : Bytes) : Machine :=
  if m.executing then { m with stack := item :: m.stack } else m

variable [KeyScheme] {ctx : SpendContext} {m : Machine}

theorem step_number (n : Nat) :
    step ctx m (.number n) = .ok (m.push (ScriptNumber.encode n)) := by
  have hplain := Instruction.isConditional_number n
  unfold push
  by_cases h : m.executing = true
  · rw [step_of_executing h hplain, SpendContext.executeOne_number, if_pos h]
    rfl
  · rw [step_of_skipping (Bool.eq_false_iff.2 h) hplain, if_neg h]

/-- A number at the end of the instructions leaves its item. -/
theorem run_append_number (code : List Instruction) (n : Nat) :
    run ctx m (code ++ [.number n]) =
      run ctx m code >>= fun m => .ok (m.push (ScriptNumber.encode n)) := by
  rw [run_append]
  cases run ctx m code with
  | error fault => rfl
  | ok m' =>
    rw [ok_bind, run_cons, step_number]
    rfl

/-- An operation that only checks the item on top leaves the machine as it is. -/
theorem step_check {o : Op} {item : Bytes} {rest : List Bytes} {check : Except Fault Unit}
    (ho : (Instruction.op o).isConditional = false) (hexecuting : m.executing = true)
    (hm : m.stack = item :: rest)
    (hcheck : ctx.executeOne (item :: rest) (.op o) = check >>= fun _ => .ok (item :: rest)) :
    step ctx m (.op o) = check >>= fun _ => .ok m := by
  rw [step_of_executing hexecuting ho, hm, hcheck]
  cases check with
  | error fault => rfl
  | ok _ =>
    rw [ok_bind, ok_bind, ← hm]
    rfl

omit [KeyScheme] in
theorem executing_push (item : Bytes) : (m.push item).executing = m.executing := by
  unfold push
  split <;> rfl

end Machine

/-! ## Numbers in front of a check -/

variable [KeyScheme]

/-- The operation occurs in the script, and whenever a run gets to execute it, the item on top of
the stack stands for the number. -/
structure Script.CheckSees (script : Bytes) (o : Op) (n : UInt32) : Prop where
  occurs : .op o ∈ (Code.ofBytes script).instructions
  sees : ∀ (ctx : SpendContext) (stack : List Bytes) (before after : List Instruction)
    (m : Machine), (Code.ofBytes script).instructions = before ++ .op o :: after →
      Machine.run ctx { stack } before = .ok m → m.executing = true →
      ∃ item rest, m.stack = item :: rest ∧ ScriptNumber.Represents item n

omit [KeyScheme] in
theorem Instruction.op_ne_number {o : Op} (ho : ∀ pred, o ≠ .number pred) (n : Nat) :
    op o ≠ number n := by
  unfold number
  split
  · exact fun h => ho _ (op.inj h)
  · exact fun h => Instruction.noConfusion h

/-- A check that occurs once, right after a number, sees the number. -/
theorem Script.CheckSees.of_code {script : Bytes} {o : Op} {n : UInt32} {k : Nat}
    (pre post : List Instruction) (hk : n.toNat = k)
    (hread : Code.ofBytes script = ⟨pre ++ .number k :: .op o :: post, false⟩)
    (ho : ∀ pred, o ≠ .number pred) (hpre : .op o ∉ pre) (hpost : .op o ∉ post) :
    CheckSees script o n where
  occurs := by
    rw [hread]
    simp
  sees := by
    intro ctx stack before after m hcode hrun hexecuting
    have honce : .op o ∉ pre ++ [.number k] := by
      simp [hpre, Instruction.op_ne_number ho k]
    have hsplit : (pre ++ [.number k]) ++ .op o :: post = before ++ .op o :: after := by
      rw [← hcode, hread, List.append_assoc]
      rfl
    obtain ⟨rfl, -, -⟩ := (List.append_cons_inj_of_notMem honce hpost).1 hsplit
    rw [Machine.run_append_number, bind_eq_ok] at hrun
    obtain ⟨m', -, hpushed⟩ := hrun
    obtain rfl := Except.ok.inj hpushed
    rw [Machine.executing_push] at hexecuting
    subst hk
    refine ⟨ScriptNumber.encode n.toNat, m'.stack, ?_, ScriptNumber.represents_encode n⟩
    rw [Machine.push, if_pos hexecuting]

/-- The time locks in the scripts of a channel, with the number that each is made with. -/
inductive Script.TimeCheck : Bytes → Op → UInt32 → Prop
  | updateWindow (keys : UpdateKeys) (window : UInt16) (lockTime : UInt32) :
      TimeCheck (update keys window lockTime) .checkSequence window.toUInt32
  | updateLockTime (keys : UpdateKeys) (window : UInt16) (lockTime : UInt32) :
      TimeCheck (update keys window lockTime) .checkLockTime lockTime
  | paymentExpiry (refundKey paymentKey : PublicKey) (hash : Hash160) (expiry : UInt32) :
      TimeCheck (payment refundKey paymentKey hash expiry) .checkLockTime expiry
  | updateLeaf (lockTime : UInt32) : TimeCheck (updateLeaf lockTime) .checkLockTime lockTime
  | settleLeaf (window : UInt16) :
      TimeCheck (settleLeaf window) .checkSequence window.toUInt32
  | refundLeaf (expiry : UInt32) (key : XOnlyKey) :
      TimeCheck (refundLeaf expiry key) .checkLockTime expiry

/-- The check of a leaf stands at its start. -/
theorem Script.CheckSees.of_timedCode {script : Bytes} {o : Op} {n : UInt32} {k : Nat}
    {push : Instruction} (hk : n.toNat = k)
    (hread : Code.ofBytes script = ⟨timedCode k o push, false⟩)
    (ho : o = .checkLockTime ∨ o = .checkSequence) (hpush : .op o ≠ push) :
    CheckSees script o n := by
  refine of_code [] [.op .drop, push, .op .checkSig] hk hread ?_ List.not_mem_nil ?_
  · rcases ho with rfl | rfl <;> simp
  · rcases ho with rfl | rfl <;> simp [hpush]

/-- No script has the same check twice, so each is met right after its number. -/
theorem Script.TimeCheck.sees {script : Bytes} {o : Op} {n : UInt32} (h : TimeCheck script o n) :
    CheckSees script o n := by
  cases h with
  | updateWindow keys window lockTime =>
    refine .of_code (updateCheck keys ++ .op .ifFalse ::
        (twoKeys keys.funderSettle keys.otherSettle ++ [.op .checkMultisigVerify]))
      (.op .otherwise :: (updateBranch lockTime ++ [.op .endIf])) window.toNat_toUInt32
      (ofBytes_update keys window lockTime) (by simp) ?_ ?_
    · simp [updateCheck, twoKeys, Instruction.op_ne_number]
    · simp [updateBranch, Instruction.op_ne_number]
  | updateLockTime keys window =>
    refine .of_code (updateCheck keys ++ .op .ifFalse ::
        (settleBranch keys window ++ [.op .otherwise])) [.op .endIf] rfl
      (ofBytes_update keys window n) (by simp) ?_ ?_
    · simp [updateCheck, settleBranch, twoKeys, Instruction.op_ne_number]
    · simp
  | paymentExpiry refundKey paymentKey hash =>
    refine .of_code (.op .ifTrue :: claimBranch paymentKey hash ++ [.op .otherwise])
      [.op .drop, .push refundKey.toBytes, .op .endIf, .op .checkSig] rfl
      (ofBytes_payment refundKey paymentKey hash n) (by simp) ?_ ?_
    · simp [claimBranch]
    · simp
  | updateLeaf =>
    exact .of_timedCode rfl (Leaf.ofBytes_script (.update n)) (.inl rfl)
      (Instruction.op_ne_number (by simp) 1)
  | settleLeaf window =>
    exact .of_timedCode window.toNat_toUInt32 (Leaf.ofBytes_script (.settle window)) (.inr rfl)
      (Instruction.op_ne_number (by simp) 1)
  | refundLeaf _ key =>
    exact .of_timedCode rfl (Leaf.ofBytes_script (.refund n key)) (.inl rfl) (by simp)

/-! ## Numbers as the outcome -/

/-- The settle branch leaves the window on top. -/
theorem SpendContext.block_settleBranch_ends {ctx : SpendContext} {keys : UpdateKeys}
    {window : UInt16} {stack rest : List Bytes}
    (h : ctx.block stack (settleBranch keys window) = .ok rest) :
    ctx.SequencePasses window ∧ ∃ rest', ScriptNumber.encode window.toNat :: rest' = rest := by
  rw [settleBranch, block_twoKeys, block_cons, bind_eq_ok] at h
  obtain ⟨rest', -, htimed⟩ := h
  obtain ⟨hpasses, hrest⟩ := block_checkSequence.1 htimed
  exact ⟨hpasses, rest', Except.ok.inj hrest⟩

/-- An update script ends with the number of the branch that was taken on top. -/
theorem Machine.run_update_ends {keys : UpdateKeys} {window : UInt16} {lockTime : UInt32}
    {ctx : SpendContext} {stack : List Bytes} {m : Machine}
    (h : run ctx { stack } (updateCode keys window lockTime) = .ok m) :
    ∃ item rest, m = { stack := item :: rest } ∧
      (ScriptNumber.Represents item lockTime ∧ ctx.LockTimePasses lockTime ∨
        ScriptNumber.Represents item window.toUInt32 ∧ ctx.SequencePasses window) := by
  rw [run_update, bind_eq_ok] at h
  obtain ⟨checked, -, h⟩ := h
  obtain ⟨⟨valid, rest⟩, -, h⟩ := bind_eq_ok.1 h
  obtain ⟨left, hbranch, hm⟩ := bind_eq_ok.1 h
  obtain rfl := Except.ok.inj hm
  cases valid with
  | true =>
    obtain ⟨hpasses, rfl⟩ := SpendContext.block_updateBranch.1 hbranch
    exact ⟨_, rest, rfl, .inl ⟨ScriptNumber.represents_encode lockTime, hpasses⟩⟩
  | false =>
    obtain ⟨hpasses, rest', rfl⟩ := SpendContext.block_settleBranch_ends hbranch
    exact ⟨_, rest', rfl, .inr ⟨ScriptNumber.represents_encode_blocks window, hpasses⟩⟩

/-- **Numbers survive the way through a script.** Every number has an item that stands for it, and
whatever script the number is appended to, that item is what gets pushed. With such an item on top,
both time locks ask what they ask for the number; as the last item it is refused only for zero. In
the scripts of a channel, each time lock is met with the number that it was made with on top, and
the outcome of an update script is the lock time or the window, by the branch that was taken. -/
theorem Script.numbers_survive :
    (∀ n : UInt32, ∃ item, ScriptNumber.Represents item n ∧ ∀ script, Built script →
      Built (script ++ (Instruction.number n.toNat).encode) ∧
      (Code.ofBytes (script ++ (Instruction.number n.toNat).encode)).truncated = false ∧
      ∀ (ctx : SpendContext) (m : Machine),
        Machine.run ctx m
            (Code.ofBytes (script ++ (Instruction.number n.toNat).encode)).instructions =
          Machine.run ctx m (Code.ofBytes script).instructions >>= fun m => .ok (m.push item)) ∧
    (∀ item n, ScriptNumber.Represents item n →
      (∀ (ctx : SpendContext) (m : Machine) rest, m.executing = true → m.stack = item :: rest →
        Machine.step ctx m (.op .checkLockTime) = ctx.requireLockTime n >>= (fun _ => .ok m) ∧
        Machine.step ctx m (.op .checkSequence) = ctx.requireSequence n >>= fun _ => .ok m) ∧
      Machine.finish { stack := [item] } =
        if n = 0 then .error .evaluatedFalse else .ok ()) ∧
    (∀ script o n, TimeCheck script o n → CheckSees script o n) ∧
    ∀ keys window lockTime (ctx : SpendContext) stack m,
      Machine.run ctx { stack } (Code.ofBytes (update keys window lockTime)).instructions = .ok m →
        ∃ item rest, m = { stack := item :: rest } ∧
          (ScriptNumber.Represents item lockTime ∧ ctx.LockTimePasses lockTime ∨
            ScriptNumber.Represents item window.toUInt32 ∧ ctx.SequencePasses window) := by
  refine ⟨?_, ?_, ?_, ?_⟩
  · intro n
    refine ⟨ScriptNumber.encode n.toNat, ScriptNumber.represents_encode n, ?_⟩
    rintro _ ⟨code, hcode, rfl⟩
    have hreadable := readable_append_number hcode n.toNat
    rw [encode_append_number, Code.ofBytes_encode hreadable, Code.ofBytes_encode hcode]
    exact ⟨⟨_, hreadable, rfl⟩, rfl, fun ctx m => Machine.run_append_number code n.toNat⟩
  · intro item n h
    refine ⟨fun ctx m rest hexecuting hm => ?_, h.finish⟩
    rw [← h.checkLockTime ctx, ← h.checkSequence ctx]
    exact ⟨Machine.step_check rfl hexecuting hm (ctx.executeOne_checkLockTime item rest),
      Machine.step_check rfl hexecuting hm (ctx.executeOne_checkSequence item rest)⟩
  · intro script o n h
    exact h.sees
  · intro keys window lockTime ctx stack m h
    rw [ofBytes_update] at h
    exact Machine.run_update_ends h

omit [KeyScheme] in
/-- The least number of five bytes after a one, and an update script that both of its parties have
signed for. -/
theorem Script.numbers_survive_sample :
    letI : KeyScheme := .secp256k1
    letI key := SpendContext.sampleKey.publicKey
    letI script := update ⟨key, key, key, key⟩ 10 500000000
    Built [0x51] ∧
    (∃ item, ScriptNumber.Represents item 2147483648 ∧
      Machine.run (.sample []) { stack := [] }
          (Code.ofBytes ([0x51] ++ (Instruction.number 2147483648).encode)).instructions =
        .ok { stack := [item, [1]] } ∧
      Machine.finish { stack := [item] } = .ok ()) ∧
    CheckSees script .checkSequence 10 ∧
    ∃ sig m, Machine.run (.sample script) { stack := [sig, sig, []] }
        (Code.ofBytes script).instructions = .ok m ∧
      ∃ item rest, m = { stack := item :: rest } ∧
        (ScriptNumber.Represents item 500000000 ∨ ScriptNumber.Represents item 10) := by
  let _ : KeyScheme := .secp256k1
  have _ : LawfulKeyScheme := lawful_secp256k1
  let key := SpendContext.sampleKey.publicKey
  let script := update ⟨key, key, key, key⟩ 10 500000000
  have hread : Code.ofBytes script = ⟨(Code.ofBytes script).instructions, false⟩ := by
    rw [show Code.ofBytes script = _ from ofBytes_update ⟨key, key, key, key⟩ 10 500000000]
  have hbuilt : Built [0x51] := ⟨[.number 1], by simp [Instruction.readable_number], rfl⟩
  obtain ⟨happend, htreated, hseen, hends⟩ := numbers_survive
  refine ⟨hbuilt, ?_, hseen _ _ _ (.updateWindow ⟨key, key, key, key⟩ 10 500000000), ?_⟩
  · obtain ⟨item, hitem, hpushed⟩ := happend 2147483648
    obtain ⟨-, -, hrun⟩ := hpushed [0x51] hbuilt
    exact ⟨item, hitem, hrun (.sample []) { stack := [] },
      (htreated item _ hitem).2⟩
  · have h : (SpendContext.sample script).ForScript script := ⟨rfl, rfl, rfl, rfl⟩
    obtain ⟨sig, haccepts⟩ := SpendContext.exists_accepts h.input 1000000 SpendContext.sampleKey
    have hsig : (SpendContext.sample script).Accepts sig key := haccepts h ⟨rfl, rfl, rfl, rfl, rfl⟩
    have hreached : (SpendContext.sample script).LockTimePasses 500000000 :=
      ⟨Iff.rfl, by decide, by decide⟩
    have hunlocked : Machine.evaluate (.sample script) script [sig, sig, []] = .ok () :=
      Iff.mpr (h.evaluate_update_of_accepts hsig hsig) ⟨hreached, by decide⟩
    obtain ⟨m, hrun, -⟩ := (Machine.evaluate_eq_ok hread).1 hunlocked
    obtain ⟨item, rest, hm, hitem⟩ := hends _ _ _ _ _ _ hrun
    exact ⟨sig, m, hrun, item, rest, hm, hitem.imp And.left And.left⟩

end Supersede
