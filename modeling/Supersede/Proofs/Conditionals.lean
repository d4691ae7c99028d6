import Supersede.Proofs.Unlocking

/-!
# Conditionals inside conditionals

The machine runs a flat list of instructions. It keeps a truth value for each open conditional, and
keeps them also for the conditionals of a branch that it skips.

A list in which every conditional is opened, switched and closed as it should is the code of a
`Program`, a tree with the branches of a conditional as subtrees. `Program.eval` is defined on the
tree: it takes a condition off the stack, executes the branches on the side of the condition and
does not look at the others. Most conditionals have one branch or two. With more, as the machine allows,
the sides alternate.

* `Machine.run_program`, `Machine.run_program_skipped`: the code of a program is executed as the
  program, or skipped as a whole.
* `depthAfter`: the number of conditionals that a list leaves open. The machine has just as many
  truth values (`Machine.run_depth`).
* `exists_program_iff`: the lists that leave none open are the codes of programs.

**Theorem (`Machine.evaluate_structured`).** A list is the code of a program, or else it has an
unmatched conditional. A script of the first kind has the outcome of its program; one of the second
kind fails, at the latest where the conditional shows to be unmatched.
-/

namespace Supersede

open Result

/-! ## Programs -/

mutual

/-- A script by its structure. -/
inductive Program where
  | done
  /-- An instruction that is no conditional, and what follows it. -/
  | plain (i : Instruction) (hi : i.isConditional = false) (rest : Program)
  /-- A conditional whose first branch is taken on the given condition, and what follows it. -/
  | conditional (wanted : Bool) (branches : Branches) (rest : Program)

/-- The branches of a conditional. -/
inductive Branches where
  | last (branch : Program)
  | orElse (branch : Program) (others : Branches)

end

/-- The operation that opens a conditional. -/
def Op.opening (wanted : Bool) : Op := if wanted then ifTrue else ifFalse

mutual

/-- The instructions of a program. -/
def Program.code : Program → List Instruction
  | .done => []
  | .plain i _ rest => i :: rest.code
  | .conditional wanted branches rest => .op (.opening wanted) :: (branches.code ++ rest.code)

/-- The instructions of the branches, to the end of the conditional. -/
def Branches.code : Branches → List Instruction
  | .last branch => branch.code ++ [.op .endIf]
  | .orElse branch others => branch.code ++ .op .otherwise :: others.code

end

section Eval

variable [KeyScheme]

mutual

/-- Executes a program on a stack. -/
def Program.eval (ctx : SpendContext) (stack : List Bytes) : Program → Except Fault (List Bytes)
  | .done => .ok stack
  | .plain i _ rest => do
    let stack ← ctx.executeOne stack i
    rest.eval ctx stack
  | .conditional wanted branches rest => do
    let (condition, stack) ← SpendContext.popCondition stack
    let stack ← branches.eval ctx stack (condition == wanted)
    rest.eval ctx stack

/-- Executes the branches on one side of a conditional: that of the first branch if it is taken,
else the other. -/
def Branches.eval (ctx : SpendContext) (stack : List Bytes) (taken : Bool) :
    Branches → Except Fault (List Bytes)
  | .last branch => if taken then branch.eval ctx stack else .ok stack
  | .orElse branch others => do
    let stack ← (if taken then branch.eval ctx stack else .ok stack)
    others.eval ctx stack (!taken)

end

namespace Branches

variable (ctx : SpendContext) (stack : List Bytes) (taken : Bool) (first second : Program)

theorem eval_last : (last first).eval ctx stack taken =
    (if taken then first else .done).eval ctx stack := by
  rw [eval]
  cases taken <;> rfl

theorem eval_orElse_last : (orElse first (last second)).eval ctx stack taken =
    (if taken then first else second).eval ctx stack := by
  rw [eval]
  cases taken with
  | false => rfl
  | true =>
    show (first.eval ctx stack >>= fun stack => .ok stack) = first.eval ctx stack
    cases first.eval ctx stack <;> rfl

end Branches

end Eval

namespace Machine

/-- The machine inside a further conditional. -/
def inside (m : Machine) (taken : Bool) : Machine := { m with branches := taken :: m.branches }

theorem executing_inside (m : Machine) (taken : Bool) :
    (m.inside taken).executing = (taken && m.executing) := rfl

variable [KeyScheme] {ctx : SpendContext}

theorem step_opening (m : Machine) (wanted : Bool) :
    step ctx m (.op (.opening wanted)) = m.openBranch wanted := by
  cases wanted <;> rfl

theorem run_otherwise (m : Machine) (taken : Bool) (code : List Instruction) :
    run ctx (m.inside taken) (.op .otherwise :: code) = run ctx (m.inside !taken) code :=
  run_cons _ _

theorem run_endIf (m : Machine) (taken : Bool) :
    run ctx (m.inside taken) [.op .endIf] = .ok m :=
  run_cons _ _

mutual

/-- A program that is skipped changes nothing. -/
theorem run_program_skipped {m : Machine} (p : Program) (h : m.executing = false) :
    run ctx m p.code = .ok m := by
  cases p with
  | done => rfl
  | plain i hi rest =>
    rw [Program.code, run_cons, step_of_skipping h hi]
    exact run_program_skipped rest h
  | conditional wanted branches rest =>
    have hopen : m.openBranch wanted = .ok (m.inside false) := if_neg (by simp [h])
    rw [Program.code, run_cons, step_opening, hopen, ok_bind, run_append,
      run_branches_skipped branches h false]
    exact run_program_skipped rest h

/-- Inside a branch that is skipped, a conditional is skipped with all its branches, whichever of
them would be taken. -/
theorem run_branches_skipped {m : Machine} (bs : Branches) (h : m.executing = false)
    (taken : Bool) : run ctx (m.inside taken) bs.code = .ok m := by
  have hskips : (m.inside taken).executing = false := by simp [executing_inside, h]
  cases bs with
  | last branch =>
    rw [Branches.code, run_append, run_program_skipped branch hskips, ok_bind, run_endIf]
  | orElse branch others =>
    rw [Branches.code, run_append, run_program_skipped branch hskips, ok_bind, run_otherwise]
    exact run_branches_skipped others h !taken

end

/-- A branch that is taken is executed, if that is what its code does; another is skipped. -/
theorem run_branch {m : Machine} {branch : Program}
    (hrun : run ctx (m.inside true) branch.code =
      branch.eval ctx m.stack >>= fun stack => .ok (inside { m with stack } true)) (taken : Bool) :
    run ctx (m.inside taken) branch.code =
      (if taken then branch.eval ctx m.stack else .ok m.stack) >>= fun stack =>
        .ok (inside { m with stack } taken) := by
  cases taken with
  | true => exact hrun
  | false => exact run_program_skipped branch rfl

mutual

/-- The code of a program does to the stack what the program does, and leaves the open conditionals
as they are. -/
theorem run_program {m : Machine} (p : Program) (h : m.executing = true) :
    run ctx m p.code = p.eval ctx m.stack >>= fun stack => .ok { m with stack } := by
  cases p with
  | done => rfl
  | plain i hi rest =>
    rw [Program.code, run_cons, step_of_executing h hi, Program.eval]
    cases ctx.executeOne m.stack i with
    | error fault => rfl
    | ok stack => exact run_program (m := { m with stack }) rest h
  | conditional wanted branches rest =>
    rw [Program.code, run_cons, step_opening, openBranch, if_pos h, Program.eval]
    cases SpendContext.popCondition m.stack with
    | error fault => rfl
    | ok popped =>
      obtain ⟨condition, stack⟩ := popped
      show run ctx (inside { m with stack } (condition == wanted)) (branches.code ++ rest.code) =
        (branches.eval ctx stack (condition == wanted) >>= fun stack => rest.eval ctx stack) >>= _
      rw [run_append, run_branches (m := { m with stack }) branches h]
      cases branches.eval ctx stack (condition == wanted) with
      | error fault => rfl
      | ok stack' => exact run_program (m := { m with stack := stack' }) rest h

/-- Of the branches of a conditional, those on the side that is taken are executed. -/
theorem run_branches {m : Machine} (bs : Branches) (h : m.executing = true) (taken : Bool) :
    run ctx (m.inside taken) bs.code =
      bs.eval ctx m.stack taken >>= fun stack => .ok { m with stack } := by
  cases bs with
  | last branch =>
    rw [Branches.code, run_append, run_branch (run_program branch h) taken, Branches.eval]
    cases (if taken then branch.eval ctx m.stack else .ok m.stack) with
    | error fault => rfl
    | ok stack => rw [ok_bind, ok_bind, run_endIf, ok_bind]
  | orElse branch others =>
    rw [Branches.code, run_append, run_branch (run_program branch h) taken, Branches.eval]
    cases (if taken then branch.eval ctx m.stack else .ok m.stack) with
    | error fault => rfl
    | ok stack =>
      rw [ok_bind, ok_bind, run_otherwise]
      exact run_branches (m := { m with stack }) others h !taken

end

end Machine

/-! ## Open conditionals -/

/-- How many conditionals are open after an instruction, given how many are open before; nothing if
it switches or closes a conditional and none is open. -/
def Instruction.depthAfter (depth : Nat) : Instruction → Option Nat
  | .op .ifTrue | .op .ifFalse => some (depth + 1)
  | .op .otherwise => if depth = 0 then none else some depth
  | .op .endIf => if depth = 0 then none else some (depth - 1)
  | _ => some depth

/-- How many conditionals are open after some instructions. -/
def depthAfter (depth : Nat) (code : List Instruction) : Option Nat :=
  code.foldlM Instruction.depthAfter depth

theorem depthAfter_cons (depth : Nat) (i : Instruction) (code : List Instruction) :
    depthAfter depth (i :: code) =
      (i.depthAfter depth).bind fun depth => depthAfter depth code :=
  List.foldlM_cons

theorem depthAfter_append (depth : Nat) (first second : List Instruction) :
    depthAfter depth (first ++ second) =
      (depthAfter depth first).bind fun depth => depthAfter depth second :=
  List.foldlM_append

theorem Instruction.depthAfter_of_plain {i : Instruction} (hi : i.isConditional = false)
    (depth : Nat) : i.depthAfter depth = some depth := by
  cases i with
  | push data => rfl
  | op o =>
    cases o with
    | ifTrue | ifFalse | otherwise | endIf => cases hi
    | _ => rfl

theorem Instruction.depthAfter_opening (wanted : Bool) (depth : Nat) :
    (op (.opening wanted)).depthAfter depth = some (depth + 1) := by
  cases wanted <;> rfl

/-- Only an instruction that switches or closes a conditional can find none. -/
theorem Instruction.depthAfter_eq_none {i : Instruction} {depth : Nat}
    (h : i.depthAfter depth = none) : depth = 0 ∧ (i = .op .otherwise ∨ i = .op .endIf) := by
  cases i with
  | push data => cases h
  | op o =>
    cases o with
    | otherwise => exact ⟨by simpa [depthAfter] using h, .inl rfl⟩
    | endIf => exact ⟨by simpa [depthAfter] using h, .inr rfl⟩
    | _ => cases h

namespace Machine

variable [KeyScheme] {ctx : SpendContext} {m m' : Machine}

omit [KeyScheme] in
theorem length_openBranch {wanted : Bool} (h : m.openBranch wanted = .ok m') :
    m'.branches.length = m.branches.length + 1 := by
  unfold openBranch at h
  split at h
  · obtain ⟨popped, -, heq⟩ := bind_eq_ok.1 h
    cases heq
    rfl
  · cases h
    rfl

/-- One instruction opens and closes conditionals as it should. -/
theorem step_depth {i : Instruction} (h : step ctx m i = .ok m') :
    i.depthAfter m.branches.length = some m'.branches.length := by
  by_cases hi : i.isConditional = true
  · cases i with
    | push data => cases hi
    | op o =>
      cases o with
      | ifTrue | ifFalse => exact congrArg some (length_openBranch h).symm
      | otherwise | endIf =>
        obtain ⟨stack, _ | ⟨taken, outer⟩⟩ := m <;> cases h
        rfl
      | _ => cases hi
  · rw [Bool.not_eq_true] at hi
    rw [Instruction.depthAfter_of_plain hi]
    by_cases hexecuting : m.executing = true
    · rw [step_of_executing hexecuting hi, bind_eq_ok] at h
      obtain ⟨stack, -, heq⟩ := h
      cases heq
      rfl
    · rw [step_of_skipping (Bool.not_eq_true _ ▸ hexecuting) hi] at h
      cases h
      rfl

theorem run_depth {code : List Instruction} (h : run ctx m code = .ok m') :
    depthAfter m.branches.length code = some m'.branches.length := by
  induction code generalizing m with
  | nil =>
    cases h
    rfl
  | cons i code ih =>
    rw [run_cons, bind_eq_ok] at h
    obtain ⟨next, hstep, hrun⟩ := h
    rw [depthAfter_cons, step_depth hstep]
    exact ih hrun

end Machine

/-! ## Matched conditionals -/

mutual

/-- A program leaves no conditional open. -/
theorem Program.depthAfter_code (p : Program) (depth : Nat) :
    depthAfter depth p.code = some depth := by
  cases p with
  | done => rfl
  | plain i hi rest =>
    rw [Program.code, depthAfter_cons, Instruction.depthAfter_of_plain hi]
    exact rest.depthAfter_code depth
  | conditional wanted branches rest =>
    rw [Program.code, depthAfter_cons, Instruction.depthAfter_opening, Option.bind_some,
      depthAfter_append, branches.depthAfter_code depth]
    exact rest.depthAfter_code depth

/-- The branches of a conditional end with the conditional. -/
theorem Branches.depthAfter_code (bs : Branches) (depth : Nat) :
    depthAfter (depth + 1) bs.code = some depth := by
  cases bs with
  | last branch =>
    rw [Branches.code, depthAfter_append, branch.depthAfter_code (depth + 1)]
    rfl
  | orElse branch others =>
    rw [Branches.code, depthAfter_append, branch.depthAfter_code (depth + 1)]
    exact others.depthAfter_code depth

end

/-- Changes the first branch. -/
def Branches.mapFirst (f : Program → Program) : Branches → Branches
  | last branch => last (f branch)
  | orElse branch others => orElse (f branch) others

theorem Branches.code_mapFirst {f : Program → Program} {front : List Instruction}
    (hf : ∀ p, (f p).code = front ++ p.code) (bs : Branches) :
    (bs.mapFirst f).code = front ++ bs.code := by
  cases bs <;> rw [mapFirst, code, code, hf, List.append_assoc]

/-- The instructions end the given number of open conditionals, one after the other, each with its
remaining branches, and go on with a program. -/
def Completes : Nat → List Instruction → Prop
  | 0, code => ∃ p : Program, p.code = code
  | depth + 1, code => ∃ (bs : Branches) (rest : List Instruction),
      bs.code ++ rest = code ∧ Completes depth rest

namespace Completes

variable {depth : Nat} {code : List Instruction}

/-- What can be put in front of any program can be put in front of what ends the conditionals. -/
theorem prepend {f : Program → Program} {front : List Instruction}
    (hf : ∀ p, (f p).code = front ++ p.code) (h : Completes depth code) :
    Completes depth (front ++ code) := by
  cases depth with
  | zero =>
    obtain ⟨p, rfl⟩ := h
    exact ⟨f p, hf p⟩
  | succ depth =>
    obtain ⟨bs, rest, rfl, hrest⟩ := h
    exact ⟨bs.mapFirst f, rest, by rw [Branches.code_mapFirst hf, List.append_assoc], hrest⟩

theorem plain {i : Instruction} (hi : i.isConditional = false) (h : Completes depth code) :
    Completes depth (i :: code) :=
  h.prepend fun p => show (Program.plain i hi p).code = [i] ++ p.code from rfl

theorem opening (wanted : Bool) (h : Completes (depth + 1) code) :
    Completes depth (.op (.opening wanted) :: code) := by
  obtain ⟨inner, rest, rfl, hrest⟩ := h
  exact hrest.prepend fun p => show (Program.conditional wanted inner p).code =
    (.op (.opening wanted) :: inner.code) ++ p.code from rfl

theorem otherwise (h : Completes (depth + 1) code) :
    Completes (depth + 1) (.op .otherwise :: code) := by
  obtain ⟨bs, rest, rfl, hrest⟩ := h
  exact ⟨.orElse .done bs, rest, rfl, hrest⟩

theorem endIf (h : Completes depth code) : Completes (depth + 1) (.op .endIf :: code) :=
  ⟨.last .done, code, rfl, h⟩

/-- A list that leaves no conditional open can be cut into branches and a program. -/
theorem of_depthAfter (h : depthAfter depth code = some 0) : Completes depth code := by
  induction code generalizing depth with
  | nil =>
    obtain rfl : depth = 0 := Option.some.inj h
    exact ⟨.done, rfl⟩
  | cons i code ih =>
    cases i with
    | push data => exact (ih h).plain rfl
    | op o =>
      cases o with
      | ifTrue => exact (ih h).opening true
      | ifFalse => exact (ih h).opening false
      | otherwise =>
        cases depth with
        | zero => cases h
        | succ depth => exact (ih h).otherwise
      | endIf =>
        cases depth with
        | zero => cases h
        | succ depth => exact (ih h).endIf
      | _ => exact (ih h).plain rfl

end Completes

/-- **The lists that leave no conditional open are the codes of programs.** -/
theorem exists_program_iff {code : List Instruction} :
    (∃ p : Program, p.code = code) ↔ depthAfter 0 code = some 0 := by
  constructor
  · rintro ⟨p, rfl⟩
    exact p.depthAfter_code 0
  · exact Completes.of_depthAfter

/-! ## Unmatched conditionals -/

/-- The code has an unmatched conditional: what stands before the place where this shows, and the
fault there. A switch or an end shows where it stands, a beginning at the end of the code. -/
inductive Unmatched : (before code : List Instruction) → Fault → Prop
  | otherwise {before : List Instruction} (h : depthAfter 0 before = some 0)
      (after : List Instruction) :
      Unmatched before (before ++ .op .otherwise :: after) .elseWithoutIf
  | endIf {before : List Instruction} (h : depthAfter 0 before = some 0)
      (after : List Instruction) : Unmatched before (before ++ .op .endIf :: after) .endIfWithoutIf
  | opening {code : List Instruction} {depth : Nat} (h : depthAfter 0 code = some (depth + 1)) :
      Unmatched code code .unbalanced

/-- If the depth is lost, then at some instruction. -/
theorem exists_of_depthAfter_eq_none {code : List Instruction} {depth : Nat}
    (h : depthAfter depth code = none) : ∃ before i after depth', code = before ++ i :: after ∧
      depthAfter depth before = some depth' ∧ i.depthAfter depth' = none := by
  induction code generalizing depth with
  | nil => cases h
  | cons i code ih =>
    cases hi : i.depthAfter depth with
    | none => exact ⟨[], i, code, depth, rfl, rfl, hi⟩
    | some next =>
      rw [depthAfter_cons, hi] at h
      obtain ⟨before, j, after, depth', rfl, hbefore, hj⟩ := ih h
      refine ⟨i :: before, j, after, depth', rfl, ?_, hj⟩
      rw [depthAfter_cons, hi]
      exact hbefore

/-- A list is the code of a program, or it has an unmatched conditional, but not both. -/
theorem exists_program_iff_not_unmatched {code : List Instruction} :
    (∃ p : Program, p.code = code) ↔ ¬ ∃ before fault, Unmatched before code fault := by
  rw [exists_program_iff]
  constructor
  · rintro hcode ⟨before, fault, hunmatched⟩
    cases hunmatched with
    | otherwise h after | endIf h after =>
      rw [depthAfter_append, h] at hcode
      cases hcode
    | opening h =>
      rw [h] at hcode
      cases hcode
  · intro hmatched
    cases hdepth : depthAfter 0 code with
    | none =>
      obtain ⟨before, i, after, depth', rfl, hbefore, hi⟩ := exists_of_depthAfter_eq_none hdepth
      obtain ⟨rfl, rfl | rfl⟩ := Instruction.depthAfter_eq_none hi
      · exact absurd ⟨_, _, .otherwise hbefore after⟩ hmatched
      · exact absurd ⟨_, _, .endIf hbefore after⟩ hmatched
    | some depth =>
      cases depth with
      | zero => rfl
      | succ depth => exact absurd ⟨_, _, .opening hdepth⟩ hmatched

namespace Machine

variable [KeyScheme] {ctx : SpendContext}

theorem evaluate_of_read {script : Bytes} {code : List Instruction}
    (h : Code.ofBytes script = ⟨code, false⟩) (stack : List Bytes) :
    evaluate ctx script stack = run ctx { stack } code >>= finish := by
  rw [evaluate, h]
  rfl

/-- A machine that starts outside of conditionals is outside of them after code that leaves none
open. -/
theorem branches_eq_nil {code : List Instruction} {stack : List Bytes} {m : Machine}
    (hrun : run ctx { stack } code = .ok m) (h : depthAfter 0 code = some 0) : m.branches = [] := by
  have hdepth : depthAfter 0 code = some m.branches.length := run_depth hrun
  rw [h] at hdepth
  exact List.length_eq_zero_iff.1 (Option.some.inj hdepth).symm

/-- An unmatched conditional is refused where it shows, unless the code fails before. -/
theorem run_unmatched {before code : List Instruction} {fault : Fault}
    (h : Unmatched before code fault) (stack : List Bytes) :
    run ctx { stack } code >>= finish = run ctx { stack } before >>= fun _ => .error fault := by
  cases h with
  | otherwise h after | endIf h after =>
    rw [run_append]
    cases hrun : run ctx { stack } before with
    | error fault => rfl
    | ok m =>
      obtain ⟨stack', branches⟩ := m
      obtain rfl : branches = [] := branches_eq_nil hrun h
      rw [ok_bind, run_cons]
      rfl
  | opening h =>
    cases hrun : run ctx { stack } before with
    | error fault => rfl
    | ok m =>
      have hdepth : depthAfter 0 before = some m.branches.length := run_depth hrun
      have hopen : m.branches ≠ [] := by
        intro hnil
        rw [h, hnil] at hdepth
        cases hdepth
      exact if_pos hopen

/-- **Flat execution is structured execution.** Every list of instructions either is the code of a
program or has an unmatched conditional. In the first case its script has the outcome of the
program, whatever the stack and the transaction; of one branch or two, a program executes what its
condition chooses and leaves the other out of account. In the second case the script is refused where the
conditional shows to be unmatched, unless it fails before. -/
theorem evaluate_structured (code : List Instruction) :
    ((∃ p : Program, p.code = code) ↔ ¬ ∃ before fault, Unmatched before code fault) ∧
    (∀ (ctx : SpendContext) (script : Bytes) (stack : List Bytes),
      Code.ofBytes script = ⟨code, false⟩ →
      (∀ p : Program, p.code = code →
        evaluate ctx script stack = p.eval ctx stack >>= fun stack => finish { stack }) ∧
      ∀ before fault, Unmatched before code fault →
        evaluate ctx script stack = run ctx { stack } before >>= fun _ => .error fault) ∧
    ∀ (ctx : SpendContext) (stack : List Bytes) (taken : Bool) (first second : Program),
      (Branches.last first).eval ctx stack taken =
        (if taken then first else .done).eval ctx stack ∧
      (Branches.orElse first (.last second)).eval ctx stack taken =
        (if taken then first else second).eval ctx stack := by
  refine ⟨exists_program_iff_not_unmatched, fun ctx script stack hread => ⟨?_, ?_⟩, ?_⟩
  · rintro p rfl
    rw [evaluate_of_read hread, run_program p rfl]
    cases p.eval ctx stack <;> rfl
  · intro before fault hunmatched
    rw [evaluate_of_read hread, run_unmatched hunmatched]
  · intro ctx stack taken first second
    exact ⟨Branches.eval_last .., Branches.eval_orElse_last ..⟩

omit [KeyScheme] in
/-- The branch that is not taken may hold an operation that no script survives and a conditional of
its own. -/
theorem evaluate_structured_skipping :
    letI : KeyScheme := .secp256k1
    evaluate (.sample []) [0x63, 0x6a, 0x63, 0x68, 0x67, 0x51, 0x68] [[]] = .ok () ∧
      evaluate (.sample []) [0x51, 0x67] [] = .error .elseWithoutIf := by
  let _ : KeyScheme := .secp256k1
  let first : Program := .plain (.op (.other 0x6a)) rfl (.conditional true (.last .done) .done)
  let second : Program := .plain (.number 1) rfl .done
  let p : Program := .conditional true (.orElse first (.last second)) .done
  constructor
  · exact ((evaluate_structured p.code).2.1 (.sample []) _ [[]] rfl).1 p rfl
  · exact ((evaluate_structured _).2.1 (.sample []) _ [] rfl).2 [.number 1] _ (.otherwise rfl [])

end Machine

end Supersede
