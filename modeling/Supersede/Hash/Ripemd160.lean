import Supersede.Bytes.Encoding

/-!
# RIPEMD-160

Two lines of eighty steps run over the same block of sixteen little-endian words, each with its
own order of words, rotations, constants and mixing functions. Their results are added crosswise
to a state of five words.
-/

namespace Supersede

namespace Ripemd160

/-- The chaining value: five words. -/
structure State where
  a : UInt32
  b : UInt32
  c : UInt32
  d : UInt32
  e : UInt32

/-- The chaining value before the first block. -/
def initial : State := ⟨0x67452301, 0xefcdab89, 0x98badcfe, 0x10325476, 0xc3d2e1f0⟩

/-- One step of a line: which word it takes and how far it rotates. -/
structure Step where
  word : Nat
  rotation : UInt32

/-- Sixteen steps that share a constant and a mixing function. -/
structure Group where
  mix : UInt32 → UInt32 → UInt32 → UInt32
  constant : UInt32
  steps : List Step

/-! ## Mixing functions -/

/-- The parity of three bits. -/
def mixParity (x y z : UInt32) : UInt32 := x ^^^ y ^^^ z

/-- The bit of `y` where `x` is set, else that of `z`. -/
def mixChoice (x y z : UInt32) : UInt32 := (x &&& y) ||| ((~~~ x) &&& z)

/-- The bit of `z`, flipped where `x` is set or `y` is not. -/
def mixOrNot (x y z : UInt32) : UInt32 := (x ||| ~~~ y) ^^^ z

/-- The bit of `x` where `z` is set, else that of `y`. -/
def mixSelect (x y z : UInt32) : UInt32 := (x &&& z) ||| (y &&& ~~~ z)

/-- The bit of `x`, flipped where `y` is set or `z` is not. -/
def mixOrNotLast (x y z : UInt32) : UInt32 := x ^^^ (y ||| ~~~ z)

/-! ## The two lines -/

/-- Pairs a sequence of word positions with a sequence of rotations. -/
def steps (words : List Nat) (rotations : List UInt32) : List Step :=
  List.zipWith Step.mk words rotations

/-- The first line. -/
def leftLine : List Group :=
  [⟨mixParity, 0x00000000,
      steps [0, 1, 2, 3, 4, 5, 6, 7, 8, 9, 10, 11, 12, 13, 14, 15]
        [11, 14, 15, 12, 5, 8, 7, 9, 11, 13, 14, 15, 6, 7, 9, 8]⟩,
   ⟨mixChoice, 0x5a827999,
      steps [7, 4, 13, 1, 10, 6, 15, 3, 12, 0, 9, 5, 2, 14, 11, 8]
        [7, 6, 8, 13, 11, 9, 7, 15, 7, 12, 15, 9, 11, 7, 13, 12]⟩,
   ⟨mixOrNot, 0x6ed9eba1,
      steps [3, 10, 14, 4, 9, 15, 8, 1, 2, 7, 0, 6, 13, 11, 5, 12]
        [11, 13, 6, 7, 14, 9, 13, 15, 14, 8, 13, 6, 5, 12, 7, 5]⟩,
   ⟨mixSelect, 0x8f1bbcdc,
      steps [1, 9, 11, 10, 0, 8, 12, 4, 13, 3, 7, 15, 14, 5, 6, 2]
        [11, 12, 14, 15, 14, 15, 9, 8, 9, 14, 5, 6, 8, 6, 5, 12]⟩,
   ⟨mixOrNotLast, 0xa953fd4e,
      steps [4, 0, 5, 9, 7, 12, 2, 10, 14, 1, 3, 8, 11, 6, 15, 13]
        [9, 15, 5, 11, 6, 8, 13, 12, 5, 12, 13, 14, 11, 8, 5, 6]⟩]

/-- The second line. -/
def rightLine : List Group :=
  [⟨mixOrNotLast, 0x50a28be6,
      steps [5, 14, 7, 0, 9, 2, 11, 4, 13, 6, 15, 8, 1, 10, 3, 12]
        [8, 9, 9, 11, 13, 15, 15, 5, 7, 7, 8, 11, 14, 14, 12, 6]⟩,
   ⟨mixSelect, 0x5c4dd124,
      steps [6, 11, 3, 7, 0, 13, 5, 10, 14, 15, 8, 12, 4, 9, 1, 2]
        [9, 13, 15, 7, 12, 8, 9, 11, 7, 7, 12, 7, 6, 15, 13, 11]⟩,
   ⟨mixOrNot, 0x6d703ef3,
      steps [15, 5, 1, 3, 7, 14, 6, 9, 11, 8, 12, 2, 10, 0, 4, 13]
        [9, 7, 15, 11, 8, 6, 6, 14, 12, 13, 5, 14, 13, 13, 7, 5]⟩,
   ⟨mixChoice, 0x7a6d76e9,
      steps [8, 6, 4, 1, 3, 11, 15, 0, 5, 12, 2, 13, 9, 7, 10, 14]
        [15, 5, 8, 11, 14, 14, 6, 14, 6, 9, 12, 9, 12, 5, 15, 8]⟩,
   ⟨mixParity, 0x00000000,
      steps [12, 15, 10, 4, 1, 5, 8, 7, 6, 2, 13, 14, 0, 3, 9, 11]
        [8, 5, 12, 9, 12, 5, 14, 6, 8, 13, 6, 5, 15, 13, 11, 11]⟩]

/-! ## Compression -/

/-- Rotation to the left. -/
def rotl (x n : UInt32) : UInt32 := (x <<< n) ||| (x >>> (32 - n))

/-- One step of a group on the words of a block. -/
def Group.step (g : Group) (block : Array UInt32) (s : State) (t : Step) : State :=
  let sum := s.a + g.mix s.b s.c s.d + block.getD t.word 0 + g.constant
  ⟨s.e, rotl sum t.rotation + s.e, s.b, rotl s.c 10, s.d⟩

/-- All steps of a line. -/
def runLine (line : List Group) (block : Array UInt32) (s : State) : State :=
  line.foldl (fun s g => g.steps.foldl (g.step block) s) s

/-- Mixes one block into the chaining value. -/
def compress (s : State) (block : List UInt32) : State :=
  let l := runLine leftLine block.toArray s
  let r := runLine rightLine block.toArray s
  ⟨s.b + l.c + r.d, s.c + l.d + r.e, s.d + l.e + r.a, s.e + l.a + r.b, s.a + l.b + r.c⟩

/-- Mixes the first `count` blocks of a word sequence. -/
def absorb : (count : Nat) → State → List UInt32 → State
  | 0, s, _ => s
  | count + 1, s, ws => absorb count (compress s (ws.take 16)) (ws.drop 16)

/-! ## Messages -/

/-- The message, a one bit, zeros to the end of a block, and the length in bits. -/
def pad (m : Bytes) : Bytes :=
  m ++ 0x80 :: List.replicate ((119 - m.length % 64) % 64) 0 ++ Bytes.ofNatLE 8 (8 * m.length)

/-- Groups of four bytes as words, least significant byte first. -/
def words : Bytes → List UInt32
  | a :: b :: c :: d :: rest =>
    (a.toUInt32 ||| b.toUInt32 <<< 8 ||| c.toUInt32 <<< 16 ||| d.toUInt32 <<< 24) :: words rest
  | _ => []

/-- The five words of a chaining value as bytes. -/
def State.toDigest (s : State) : FixedBytes 20 :=
  ⟨Bytes.le32 s.a ++ Bytes.le32 s.b ++ Bytes.le32 s.c ++ Bytes.le32 s.d ++ Bytes.le32 s.e,
    by simp [Bytes.le32]⟩

end Ripemd160

/-- The RIPEMD-160 digest of a message. -/
def ripemd160 (m : Bytes) : FixedBytes 20 :=
  let ws := Ripemd160.words (Ripemd160.pad m)
  (Ripemd160.absorb (ws.length / 16) Ripemd160.initial ws).toDigest

end Supersede
