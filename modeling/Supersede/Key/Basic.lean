import Supersede.Hash.Digest
import Supersede.Secp256k1.Field

/-!
# Keys

A secret key is a nonzero number below the group order. A public key is a finite point of the
curve, kept as its abscissa and the parity of its ordinate: this is the 33-byte compressed form,
so a key and its compressed bytes determine each other. An x-only key leaves the parity out and
stands for the point with the even ordinate.
-/

namespace Supersede

open Secp256k1 (fieldPrime groupOrder isAbscissa)

/-- A secret key. -/
structure SecretKey where
  val : Nat
  pos : 0 < val
  lt_order : val < groupOrder
deriving DecidableEq

/-- A public key: a point by its abscissa and the parity of its ordinate. -/
structure PublicKey where
  odd : Bool
  x : Nat
  valid : isAbscissa x = true
deriving DecidableEq

/-- A public key without the parity of its ordinate. -/
structure XOnlyKey where
  x : Nat
  valid : isAbscissa x = true
deriving DecidableEq

/-! ## Secret keys -/

namespace SecretKey

/-- Accepts a number in range. -/
def ofNat? (n : Nat) : Option SecretKey :=
  if h : 0 < n ∧ n < groupOrder then some ⟨n, h.1, h.2⟩ else none

/-- Reads 32 bytes, most significant first. -/
def ofBytes? (b : Bytes) : Option SecretKey :=
  if b.length = 32 then ofNat? (Bytes.toNatBE b) else none

/-- The 32 bytes of the number, most significant first. -/
def toBytes (k : SecretKey) : Bytes := (Bytes.be256 k.val).toBytes

/-- The sum of a key and a number modulo the group order, unless it vanishes. -/
def add? (k : SecretKey) (t : Nat) : Option SecretKey := ofNat? ((k.val + t) % groupOrder)

end SecretKey

/-! ## Public keys -/

namespace PublicKey

/-- The point with the given abscissa and parity, if there is one. -/
def ofAbscissa? (odd : Bool) (x : Nat) : Option PublicKey :=
  if h : isAbscissa x = true then some ⟨odd, x, h⟩ else none

/-- The point with the given coordinates, if it lies on the curve. -/
def ofCoordinates? (x y : Nat) : Option PublicKey :=
  if y < fieldPrime ∧ y * y % fieldPrime = Secp256k1.curveRhs x then
    ofAbscissa? (y % 2 == 1) x
  else none

/-- The compressed form: a byte for the parity, then the abscissa. -/
def toBytes (k : PublicKey) : Bytes :=
  (if k.odd then 0x03 else 0x02) :: (Bytes.be256 k.x).toBytes

/-- Reads the compressed form, or one with both coordinates: `04`, or `06` and `07` which repeat
the parity of the ordinate. -/
def ofBytes? (b : Bytes) : Option PublicKey :=
  match b with
  | [] => none
  | tag :: rest =>
    if rest.length = 32 then
      if tag = 0x02 then ofAbscissa? false (Bytes.toNatBE rest)
      else if tag = 0x03 then ofAbscissa? true (Bytes.toNatBE rest)
      else none
    else if rest.length = 64 then
      let y := Bytes.toNatBE (rest.drop 32)
      if tag = 0x04 ∨ (tag = 0x06 ∧ y % 2 = 0) ∨ (tag = 0x07 ∧ y % 2 = 1) then
        ofCoordinates? (Bytes.toNatBE (rest.take 32)) y
      else none
    else none

/-- The key without its parity. -/
def toXOnly (k : PublicKey) : XOnlyKey := ⟨k.x, k.valid⟩

/-- HASH160 of the compressed form. -/
def hash (k : PublicKey) : Hash160 := hash160 k.toBytes

end PublicKey

/-! ## X-only keys -/

namespace XOnlyKey

/-- The 32 bytes of the abscissa. -/
def toBytes (k : XOnlyKey) : Bytes := (Bytes.be256 k.x).toBytes

/-- Reads the 32 bytes of the abscissa of a point. -/
def ofBytes? (b : Bytes) : Option XOnlyKey :=
  if b.length = 32 then
    let x := Bytes.toNatBE b
    if h : isAbscissa x = true then some ⟨x, h⟩ else none
  else none

/-- The point with the even ordinate. -/
def toEven (k : XOnlyKey) : PublicKey := ⟨false, k.x, k.valid⟩

end XOnlyKey

end Supersede
