import Supersede.Address.Base58
import Supersede.Address.Network
import Supersede.Error
import Supersede.Key.Scheme

/-!
# Extended keys

An extended key is a key with a chain code, from which numbered child keys are derived. Children
below `2 ^ 31` are *normal*: their public keys can be derived from the extended public key alone.
The others are *hardened* and need the secret.
-/

namespace Supersede

/-- The place of a key in the tree of keys. -/
structure KeyPosition where
  mainnet : Bool
  depth : UInt8
  parent : FixedBytes 4
  childNumber : UInt32
deriving DecidableEq

/-- A secret key from which children can be derived. -/
structure ExtendedSecretKey where
  position : KeyPosition
  key : SecretKey
  chainCode : Hash256
deriving DecidableEq

/-- A public key from which normal children can be derived. -/
structure ExtendedPublicKey where
  position : KeyPosition
  key : PublicKey
  chainCode : Hash256
deriving DecidableEq

/-- The first child number that needs the secret key. -/
def firstHardened : UInt32 := 0x80000000

/-- The number of a normal child. -/
def normalChild (i : UInt32) : Result UInt32 :=
  if i < firstHardened then .ok i
  else .error (.signing (.keyDerivation
    s!"child number {i.toNat} is invalid (not within [0, 2^31 - 1])"))

/-- A derivation that meets a number outside the group; no input is known to reach it. -/
def derivationFailure : Error := .signing (.keyDerivation "secp256k1 error")

/-- The two halves of a 64-byte digest. -/
def halves (h : FixedBytes 64) : Hash256 × Hash256 :=
  (⟨h.toBytes.take 32, by simp⟩, ⟨h.toBytes.drop 32, by simp⟩)

/-- The four bytes that name a parent key. -/
def PublicKey.fingerprint (k : PublicKey) : FixedBytes 4 := ⟨k.hash.toBytes.take 4, by simp⟩

/-- The position of a child. -/
def KeyPosition.child (p : KeyPosition) (parent : PublicKey) (i : UInt32) : KeyPosition :=
  ⟨p.mainnet, p.depth + 1, parent.fingerprint, i⟩

/-- The shift and the chain code of a child, from the chain code and the data it is keyed to. -/
def childShift (chainCode : Hash256) (data : Bytes) : Result (SecretKey × Hash256) :=
  let (left, right) := halves (hmacSha512 chainCode.toBytes data)
  match SecretKey.ofBytes? left.toBytes with
  | some shift => .ok (shift, right)
  | none => .error derivationFailure

namespace ExtendedPublicKey

/-- The 78 bytes of the exchange format. -/
def serialize (k : ExtendedPublicKey) : Bytes :=
  Bytes.ofNatBE 4 (if k.position.mainnet then 0x0488b21e else 0x043587cf) ++
    k.position.depth :: k.position.parent.toBytes ++ Bytes.be32 k.position.childNumber ++
    k.chainCode.toBytes ++ k.key.toBytes

/-- The text of the exchange format. -/
def display (k : ExtendedPublicKey) : String := Base58.encodeChecked k.serialize

end ExtendedPublicKey

/-- The root of the tree grown from a seed. -/
def ExtendedSecretKey.master (network : Network) (seed : Bytes) : Result ExtendedSecretKey :=
  let (left, right) := halves (hmacSha512 (Bytes.ofText "Bitcoin seed") seed)
  match SecretKey.ofBytes? left.toBytes with
  | some key => .ok ⟨⟨network.isMain, 0, FixedBytes.zero 4, 0⟩, key, right⟩
  | none => .error derivationFailure

/-! ## Children -/

variable [KeyScheme]

namespace ExtendedSecretKey

/-- The extended public key. -/
def toPublic (k : ExtendedSecretKey) : ExtendedPublicKey :=
  ⟨k.position, k.key.publicKey, k.chainCode⟩

/-- What the shift of a child is keyed to: the public key for a normal child, the secret key for a
hardened one, and the child's number. -/
def childData (k : ExtendedSecretKey) (i : UInt32) : Bytes :=
  (if i < firstHardened then k.key.publicKey.toBytes else 0 :: k.key.toBytes) ++ Bytes.be32 i

/-- The child with a number. -/
def child (k : ExtendedSecretKey) (i : UInt32) : Result ExtendedSecretKey := do
  let (shift, chainCode) ← childShift k.chainCode (k.childData i)
  match k.key.add? shift.val with
  | some key => .ok ⟨k.position.child k.key.publicKey i, key, chainCode⟩
  | none => .error derivationFailure

end ExtendedSecretKey

namespace ExtendedPublicKey

/-- The normal child with a number. -/
def child (k : ExtendedPublicKey) (i : UInt32) : Result ExtendedPublicKey := do
  let (shift, chainCode) ← childShift k.chainCode (k.key.toBytes ++ Bytes.be32 i)
  match KeyScheme.shift? k.key shift.val with
  | some key => .ok ⟨k.position.child k.key i, key, chainCode⟩
  | none => .error derivationFailure

end ExtendedPublicKey

end Supersede
