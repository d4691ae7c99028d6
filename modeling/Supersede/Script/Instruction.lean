import Supersede.Script.Number
import Supersede.Script.Opcode

/-!
# Scripts as instructions

A script is a byte string. It is written as a list of instructions, each a push of bytes or an
operation, and read back by `Code.ofBytes`. Reading never fails as a whole: a script that ends
inside a push has the instructions before it and is marked as truncated, since execution may fail
earlier for another reason.
-/

namespace Supersede

/-- One instruction of a script. -/
inductive Instruction where
  | push (data : Bytes)
  | op (op : Op)
deriving DecidableEq

namespace Instruction

/-- The instruction that pushes a number: an operation from 1 to 16, else a push. -/
def number (n : Nat) : Instruction :=
  if h : 1 ≤ n ∧ n ≤ 16 then op (.number ⟨n - 1, by omega⟩) else push (ScriptNumber.encode n)

/-- The bytes that announce a push of the given length. -/
def pushHeader (length : Nat) : Bytes :=
  if length ≤ 0x4b then [UInt8.ofNat length]
  else if length < 0x100 then 0x4c :: Bytes.ofNatLE 1 length
  else if length < 0x10000 then 0x4d :: Bytes.ofNatLE 2 length
  else 0x4e :: Bytes.ofNatLE 4 length

/-- The bytes of an instruction. -/
def encode : Instruction → Bytes
  | push data => pushHeader data.length ++ data
  | op o => [o.code]

end Instruction

/-- The script made of instructions. -/
def Script.encode (instructions : List Instruction) : Bytes :=
  instructions.flatMap Instruction.encode

/-- What a byte string holds when read as a script. -/
structure Code where
  instructions : List Instruction
  /-- Whether the bytes end inside a push. -/
  truncated : Bool
deriving DecidableEq

namespace Code

/-- Puts an instruction in front. -/
def cons (i : Instruction) (c : Code) : Code := { c with instructions := i :: c.instructions }

/-- Where a reader stands between two bytes. -/
inductive Position where
  /-- Before an instruction. -/
  | start
  /-- Inside the length of a push: bytes still to come, the value so far and the weight of the
  next byte. -/
  | length (more value weight : Nat)
  /-- Inside the data of a push: bytes still to come and the data so far, last byte first. -/
  | data (more : Nat) (seen : Bytes)

/-- The position after a push of the given length was announced, and the instruction if it is
already complete. -/
def Position.announce (length : Nat) : Option Instruction × Position :=
  if length = 0 then (some (.push []), .start) else (none, .data length [])

/-- The position after one more byte, and the instruction that it completes. -/
def Position.step : Position → UInt8 → Option Instruction × Position
  | start, b =>
    if b ≤ 0x4b then announce b.toNat
    else if b = 0x4c then (none, length 1 0 1)
    else if b = 0x4d then (none, length 2 0 1)
    else if b = 0x4e then (none, length 4 0 1)
    else (some (.op (Op.ofCode b)), start)
  | length more value weight, b =>
    let value := value + weight * b.toNat
    if more ≤ 1 then announce value else (none, length (more - 1) value (256 * weight))
  | data more seen, b =>
    if more ≤ 1 then (some (.push (b :: seen).reverse), start)
    else (none, data (more - 1) (b :: seen))

/-- Reads the bytes that follow a position. -/
def read : Position → Bytes → Code
  | .start, [] => ⟨[], false⟩
  | _, [] => ⟨[], true⟩
  | p, b :: rest =>
    match p.step b with
    | (some i, q) => (read q rest).cons i
    | (none, q) => read q rest

/-- Reads a script. -/
def ofBytes (script : Bytes) : Code := read .start script

end Code

end Supersede
