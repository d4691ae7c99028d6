import Supersede.Script.Template
import Supersede.Transaction.Digest

/-!
# Taproot commitments

A taproot output commits to an internal key and to a tree of leaf scripts: the output key is the
internal key shifted by a hash of both. Spending a leaf shows the leaf, the internal key and the
path from the leaf to the root, together the *control block*. `ControlBlock.commits` recomputes
the output key from them.
-/

namespace Supersede.Taproot

/-- The hash of two subtrees, whatever their order. -/
def branchHash (a b : Hash256) : Hash256 :=
  taggedHash "TapBranch" <|
    if compare a b = .gt then b.toBytes ++ a.toBytes else a.toBytes ++ b.toBytes

/-- The shift of an internal key that commits to a tree. -/
def tweak (internalKey : XOnlyKey) (root : Hash256) : Nat :=
  (taggedHash "TapTweak" (internalKey.toBytes ++ root.toBytes)).toNat

/-- The output key of an internal key and a tree, with the parity of its ordinate. A tweak outside
the group gives none. -/
def outputKey? [KeyScheme] (internalKey : XOnlyKey) (root : Hash256) : Option PublicKey :=
  let t := tweak internalKey root
  if t < Secp256k1.groupOrder then KeyScheme.shift? internalKey.toEven t else none

/-! ## Control blocks -/

/-- What is shown beside a leaf to spend it. -/
structure ControlBlock where
  leafVersion : UInt8
  outputOdd : Bool
  internalKey : XOnlyKey
  path : List Hash256
deriving DecidableEq

namespace ControlBlock

/-- The bytes of a control block. -/
def toBytes (c : ControlBlock) : Bytes :=
  (c.leafVersion ||| if c.outputOdd then 1 else 0) :: c.internalKey.toBytes ++
    c.path.flatMap (·.toBytes)

/-- The first `count` hashes of a byte string. -/
def readPath : (count : Nat) → Bytes → List Hash256
  | 0, _ => []
  | count + 1, b =>
    match FixedBytes.ofBytes? 32 (b.take 32) with
    | some h => h :: readPath count (b.drop 32)
    | none => []

/-- The longest path. -/
def maxDepth : Nat := 128

/-- Reads a control block, or says what is wrong with it. -/
def ofBytes (b : Bytes) : Except String ControlBlock :=
  match b with
  | first :: rest =>
    if rest.length % 32 ≠ 0 ∨ rest.length < 32 then .error (badSize b.length)
    else
      let version := first &&& 0xfe
      if version = 0x50 then .error "Leaf version(80) must have the least significant bit 0"
      else
        match XOnlyKey.ofBytes? (rest.take 32) with
        | none => .error "invalid internal x-only key"
        | some internalKey =>
          let nodes := rest.length / 32 - 1
          if maxDepth < nodes then
            .error s!"Merkle Tree depth({nodes}) must be less than {maxDepth}"
          else .ok ⟨version, first &&& 1 = 1, internalKey, readPath nodes (rest.drop 32)⟩
  | [] => .error (badSize 0)
where
  badSize (n : Nat) : String :=
    s!"Control Block size({n}) must be of the form 33 + 32*m where  0 <= m <= {maxDepth} "

/-- The root of the tree in which the leaf has the control block's path. -/
def root (c : ControlBlock) (leaf : Bytes) : Hash256 :=
  c.path.foldl branchHash (Transaction.leafHashOf c.leafVersion leaf)

/-- Whether an output key commits to the leaf by the control block's path. -/
def commits [KeyScheme] (c : ControlBlock) (outputKey : XOnlyKey) (leaf : Bytes) : Bool :=
  match outputKey? c.internalKey (c.root leaf) with
  | none => false
  | some key => key.toXOnly == outputKey && key.odd == c.outputOdd

end ControlBlock

end Supersede.Taproot
