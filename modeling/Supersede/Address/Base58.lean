import Supersede.Hash.Digest

/-!
# Base 58 with a checksum

A byte string is read as one number and written in base 58, with a `1` for each leading zero byte.
The checked form appends the first four bytes of the double hash.
-/

namespace Supersede.Base58

/-- Digits and letters, without the four that are easily confused. -/
def alphabet : Array Char :=
  "123456789ABCDEFGHJKLMNPQRSTUVWXYZabcdefghijkmnopqrstuvwxyz".toList.toArray

/-- At most `width` base-58 digits of a number, put in front of `acc`, without leading zeros. -/
def digits : (width n : Nat) → (acc : List Nat) → List Nat
  | 0, _, acc => acc
  | width + 1, n, acc => if n = 0 then acc else digits width (n / 58) (n % 58 :: acc)

/-- The base-58 text of a byte string; two digits a byte are always enough. -/
def encode (b : Bytes) : String :=
  let zeros := (b.takeWhile (· == 0)).map fun _ => 0
  let ds := zeros ++ digits (2 * b.length) (Bytes.toNatBE b) []
  String.ofList (ds.map fun d => alphabet.getD d '1')

/-- The text of a byte string followed by its checksum. -/
def encodeChecked (b : Bytes) : String := encode (b ++ (sha256d b).toBytes.take 4)

end Supersede.Base58
