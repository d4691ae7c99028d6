import Supersede.Bytes.Encoding

/-!
# Numbers on the stack

A number is written in base 256, least significant digit first, with the top bit of the last byte
as its sign and no byte more than needed. Reading accepts at most five bytes and does not ask for
the shortest form. Any item is also a truth value: false if it is a zero of either sign.
-/

namespace Supersede.ScriptNumber

/-- At most `width` base-256 digits, least significant first, without zeros at the end. -/
def digits : (width n : Nat) → Bytes
  | 0, _ => []
  | width + 1, n => if n = 0 then [] else UInt8.ofNat n :: digits width (n / 256)

/-- The shortest item for a number below `2 ^ 64`: its digits, and a zero byte if the last digit
would be taken for a sign. -/
def encode (n : Nat) : Bytes :=
  let ds := digits 8 n
  if 0x80 ≤ ds.getLastD 0 then ds ++ [0] else ds

/-- The longest item read as a number. -/
def maxLength : Nat := 5

/-- The number of an item of any length. -/
def value (b : Bytes) : Int :=
  let n := Bytes.toNatLE b
  if 0x80 ≤ b.getLastD 0 then -((n - 0x80 * Nat.pow 256 (b.length - 1) : Nat) : Int) else n

/-- Reads an item as a number, unless it is too long. -/
def decode? (b : Bytes) : Option Int := if b.length ≤ maxLength then some (value b) else none

/-- The truth value of an item. -/
def isTrue : Bytes → Bool
  | [] => false
  | [b] => b != 0 && b != 0x80
  | b :: rest => b != 0 || isTrue rest

/-- The item for a truth value. -/
def ofBool (b : Bool) : Bytes := if b then [1] else []

end Supersede.ScriptNumber
