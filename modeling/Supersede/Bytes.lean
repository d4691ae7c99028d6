/-!
# Byte strings

Scripts, keys, hashes and witness items are byte strings. `Bytes` is a plain list, so that
statements about concatenation are statements about lists. `FixedBytes n` is a byte string whose
length is known from its type; hashes, preimages and chain codes are of this form.
-/

namespace Supersede

/-- A byte string. -/
abbrev Bytes := List UInt8

/-- A byte string of exactly `n` bytes. -/
structure FixedBytes (n : Nat) where
  toBytes : Bytes
  length_eq : toBytes.length = n
deriving DecidableEq

namespace FixedBytes

variable {n : Nat}

@[ext] theorem ext {a b : FixedBytes n} (h : a.toBytes = b.toBytes) : a = b := by
  cases a; cases b; simp_all

@[simp] theorem length_toBytes (a : FixedBytes n) : a.toBytes.length = n := a.length_eq

/-- Accepts a byte string of the right length. -/
def ofBytes? (n : Nat) (b : Bytes) : Option (FixedBytes n) :=
  if h : b.length = n then some ⟨b, h⟩ else none

@[simp] theorem ofBytes?_toBytes (a : FixedBytes n) : ofBytes? n a.toBytes = some a := by
  simp [ofBytes?]

/-- The string of `n` zero bytes. -/
def zero (n : Nat) : FixedBytes n := ⟨List.replicate n 0, by simp⟩

/-- The same bytes in the opposite order. -/
def reverse (a : FixedBytes n) : FixedBytes n := ⟨a.toBytes.reverse, by simp⟩

/-! ## Lexicographic order -/

instance : Ord (FixedBytes n) := ⟨fun a b => compare a.toBytes b.toBytes⟩

instance : Std.TransOrd (FixedBytes n) where
  eq_swap {a b} := @Std.OrientedCmp.eq_swap Bytes compare _ a.toBytes b.toBytes
  isLE_trans {a b c} :=
    @Std.TransCmp.isLE_trans Bytes compare _ a.toBytes b.toBytes c.toBytes

instance : Std.LawfulEqOrd (FixedBytes n) where
  compare_self := Std.ReflOrd.compare_self (α := Bytes)
  eq_of_compare h := ext (Std.LawfulEqOrd.eq_of_compare (α := Bytes) h)

end FixedBytes

end Supersede
