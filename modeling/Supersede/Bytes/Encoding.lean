import Supersede.Bytes

/-!
# Numbers and texts as bytes

Fixed-width integers are written little-endian in transactions and big-endian in keys and
signatures. A length is written as a *compact size*: one byte up to 252, else a marker byte and
two, four or eight bytes. Byte strings are shown to people in lower-case hexadecimal.
-/

namespace Supersede

namespace Bytes

/-! ## Integers -/

/-- The `w` low base-256 digits of `n`, least significant first. -/
def ofNatLE : (w n : Nat) → Bytes
  | 0, _ => []
  | w + 1, n => UInt8.ofNat n :: ofNatLE w (n / 256)

/-- The `w` low base-256 digits of `n`, most significant first. -/
def ofNatBE (w n : Nat) : Bytes := (ofNatLE w n).reverse

/-- The number whose base-256 digits are given, least significant first. -/
def toNatLE : Bytes → Nat
  | [] => 0
  | b :: bs => b.toNat + 256 * toNatLE bs

/-- The number whose base-256 digits are given, most significant first. -/
def toNatBE (bs : Bytes) : Nat := bs.foldl (fun n b => 256 * n + b.toNat) 0

@[simp] theorem length_ofNatLE (w n : Nat) : (ofNatLE w n).length = w := by
  induction w generalizing n with
  | zero => rfl
  | succ w ih => simp [ofNatLE, ih]

@[simp] theorem length_ofNatBE (w n : Nat) : (ofNatBE w n).length = w := by
  simp [ofNatBE]

/-- A 32-bit word, least significant byte first. -/
def le32 (x : UInt32) : Bytes := ofNatLE 4 x.toNat

/-- A 64-bit word, least significant byte first. -/
def le64 (x : UInt64) : Bytes := ofNatLE 8 x.toNat

/-- A 32-bit word, most significant byte first. -/
def be32 (x : UInt32) : Bytes := ofNatBE 4 x.toNat

/-- A number below `2 ^ 256`, most significant byte first. -/
def be256 (n : Nat) : FixedBytes 32 := ⟨ofNatBE 32 n, length_ofNatBE 32 n⟩

/-! ## Lengths -/

/-- A count in the compact form of the transaction format. -/
def compactSize (n : Nat) : Bytes :=
  if n < 0xfd then ofNatLE 1 n
  else if n ≤ 0xffff then 0xfd :: ofNatLE 2 n
  else if n ≤ 0xffffffff then 0xfe :: ofNatLE 4 n
  else 0xff :: ofNatLE 8 n

/-- A byte string preceded by its length. -/
def withLength (b : Bytes) : Bytes := compactSize b.length ++ b

/-- A list of items preceded by their number. -/
def withCount {α : Type} (encode : α → Bytes) (items : List α) : Bytes :=
  compactSize items.length ++ items.flatMap encode

/-! ## Hexadecimal -/

/-- The digit for a number below sixteen. -/
def hexDigit (n : Nat) : Char :=
  if n < 10 then Char.ofNat ('0'.toNat + n) else Char.ofNat ('a'.toNat + n - 10)

/-- Two lower-case digits a byte. -/
def toHex (b : Bytes) : String :=
  String.ofList (b.flatMap fun x => [hexDigit (x.toNat / 16), hexDigit (x.toNat % 16)])

/-- The value of a hexadecimal digit of either case. -/
def hexValue? (c : Char) : Option UInt8 :=
  if '0' ≤ c ∧ c ≤ '9' then some (UInt8.ofNat (c.toNat - '0'.toNat))
  else if 'a' ≤ c ∧ c ≤ 'f' then some (UInt8.ofNat (c.toNat - 'a'.toNat + 10))
  else if 'A' ≤ c ∧ c ≤ 'F' then some (UInt8.ofNat (c.toNat - 'A'.toNat + 10))
  else none

/-- Reads pairs of hexadecimal digits. -/
def ofHexDigits? : List Char → Option Bytes
  | [] => some []
  | [_] => none
  | hi :: lo :: rest => do
    let h ← hexValue? hi
    let l ← hexValue? lo
    let bs ← ofHexDigits? rest
    return (16 * h + l) :: bs

/-- Reads a text of hexadecimal digit pairs. -/
def ofHex? (s : String) : Option Bytes := ofHexDigits? s.toList

/-- The bytes of a text in UTF-8. -/
def ofText (s : String) : Bytes := s.toUTF8.toList

end Bytes

namespace FixedBytes

variable {n : Nat}

/-- Two lower-case digits a byte. -/
def toHex (a : FixedBytes n) : String := Bytes.toHex a.toBytes

/-- The number read most significant byte first. -/
def toNat (a : FixedBytes n) : Nat := Bytes.toNatBE a.toBytes

end FixedBytes

end Supersede
