import Supersede.Key.Basic

/-!
# ECDSA signatures as bytes

A signature is a pair of numbers below the group order. It travels as a DER sequence of two
integers, each written with as few bytes as keep it non-negative.

The reader demands the minimal encoding of lengths and integers and admits nothing after them. It
does not demand that the integers are in range: one that is negative or too large is read as
zero, which no verification accepts.
-/

namespace Supersede

open Secp256k1 (groupOrder)

/-- The two numbers of an ECDSA signature. -/
structure EcdsaSignature where
  r : Nat
  s : Nat
  r_lt : r < groupOrder
  s_lt : s < groupOrder

instance : DecidableEq EcdsaSignature := fun a b =>
  decidable_of_iff (a.r = b.r ∧ a.s = b.s) (by cases a; cases b; simp)

namespace Der

/-! ## Writing -/

/-- The base-256 digits of a number without leading zeros, most significant first; at least one. -/
def magnitude (n : Nat) : Bytes :=
  match (Bytes.ofNatBE 32 n).dropWhile (· == 0) with
  | [] => [0]
  | digits => digits

/-- The digits of a non-negative integer: a zero byte in front if the top bit is set. -/
def integerBody (n : Nat) : Bytes :=
  let digits := magnitude n
  if digits.headD 0 < 0x80 then digits else 0 :: digits

/-- An integer element. -/
def integer (n : Nat) : Bytes :=
  let body := integerBody n
  0x02 :: UInt8.ofNat body.length :: body

/-! ## Reading -/

/-- A number of base-256 digits that is a length: at least 128 and without leading zero. -/
def longLength? (digits : Bytes) : Option Nat :=
  let n := Bytes.toNatBE digits
  if digits.headD 0 = 0 ∨ n < 128 then none else some n

/-- Reads a length and returns the bytes after it. A long form must be the shortest and must not
exceed what follows. -/
def readLength : Bytes → Option (Nat × Bytes)
  | [] => none
  | b :: rest =>
    if b < 0x80 then some (b.toNat, rest)
    else if b = 0x80 ∨ b = 0xff then none
    else
      let count := b.toNat - 0x80
      if rest.length < count ∨ 8 < count then none
      else
        match longLength? (rest.take count) with
        | none => none
        | some n =>
          let after := rest.drop count
          if after.length < n then none else some (n, after)

/-- Whether an integer has a byte in front that its sign does not need. -/
def isPadded : Bytes → Bool
  | first :: second :: _ =>
    (first == 0x00 && second < 0x80) || (first == 0xff && 0x80 ≤ second)
  | _ => false

/-- An integer's bytes without the zero that keeps it non-negative. -/
def unsigned : Bytes → Bytes
  | 0 :: digits => digits
  | digits => digits

/-- The value of an integer's bytes, or zero if it is negative or not below the group order. -/
def integerValue (body : Bytes) : Nat :=
  if 0x80 ≤ body.headD 0 ∨ 32 < (unsigned body).length ∨
      groupOrder ≤ Bytes.toNatBE (unsigned body) then 0
  else Bytes.toNatBE (unsigned body)

theorem integerValue_lt (body : Bytes) : integerValue body < groupOrder := by
  unfold integerValue
  split
  · decide
  · omega

/-- Reads an integer element and returns the bytes after it. -/
def readInteger : Bytes → Option ({ n : Nat // n < groupOrder } × Bytes)
  | 0x02 :: rest =>
    match readLength rest with
    | none => none
    | some (len, content) =>
      let body := content.take len
      if len = 0 ∨ content.length < len ∨ isPadded body = true then none
      else some (⟨integerValue body, integerValue_lt body⟩, content.drop len)
  | _ => none

end Der

namespace EcdsaSignature

/-- The DER form. -/
def toDer (sig : EcdsaSignature) : Bytes :=
  let body := Der.integer sig.r ++ Der.integer sig.s
  0x30 :: UInt8.ofNat body.length :: body

/-- Reads the DER form. -/
def ofDer? : Bytes → Option EcdsaSignature
  | 0x30 :: rest =>
    match Der.readLength rest with
    | none => none
    | some (len, content) =>
      if len ≠ content.length then none
      else
        match Der.readInteger content with
        | none => none
        | some (r, afterR) =>
          match Der.readInteger afterR with
          | some (s, []) => some ⟨r.1, s.1, r.2, s.2⟩
          | _ => none
  | _ => none

/-- The two numbers as 64 bytes. -/
def toCompact (sig : EcdsaSignature) : Bytes :=
  (Bytes.be256 sig.r).toBytes ++ (Bytes.be256 sig.s).toBytes

end EcdsaSignature

end Supersede
