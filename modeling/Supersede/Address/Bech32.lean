import Supersede.Address.Network
import Supersede.Bytes.Encoding

/-!
# Segregated-witness addresses

An address names the network, then, behind a `1`, the witness version and the program in groups of
five bits with a checksum of six such groups. The checksum is the remainder of a division of
polynomials over the field of 32 elements; version 0 and later versions end in different
constants.
-/

namespace Supersede.Bech32

/-- The characters of the five-bit groups. -/
def alphabet : Array Char := "qpzry9x8gf2tvdw0s3jn54khce6mua7l".toList.toArray

/-- Multiples of the generator polynomial for the five bits that leave the top. -/
def generators : List UInt32 := [0x3b6a57b2, 0x26508e6d, 0x1ea119fa, 0x3d4233dd, 0x2a1462b3]

/-- Takes one group into the running remainder. -/
def remainderStep (acc : UInt32) (group : UInt8) : UInt32 :=
  let top := acc >>> 25
  let acc := ((acc &&& 0x1ffffff) <<< 5) ^^^ group.toUInt32
  generators.zipIdx.foldl
    (fun acc gi => if (top >>> UInt32.ofNat gi.2) &&& 1 = 1 then acc ^^^ gi.1 else acc) acc

/-- The remainder of a sequence of groups. -/
def remainder (groups : List UInt8) : UInt32 := groups.foldl remainderStep 1

/-- The human-readable part as groups: high bits, a divider, low bits. -/
def expandTag (tag : String) : List UInt8 :=
  let codes := tag.toList.map fun c => UInt8.ofNat c.toNat
  codes.map (fun c : UInt8 => c >>> 5) ++ 0 :: codes.map (fun c : UInt8 => c &&& 31)

/-- Collects bits, most significant first, into groups of five; the last is filled with zeros. -/
def regroup : Bytes → List UInt8
  | a :: b :: c :: d :: e :: rest =>
    (a >>> 3) :: ((a &&& 7) <<< 2 ||| b >>> 6) :: (b >>> 1 &&& 31) ::
    ((b &&& 1) <<< 4 ||| c >>> 4) :: ((c &&& 15) <<< 1 ||| d >>> 7) :: (d >>> 2 &&& 31) ::
    ((d &&& 3) <<< 3 ||| e >>> 5) :: (e &&& 31) :: regroup rest
  | [a, b, c, d] =>
    [a >>> 3, (a &&& 7) <<< 2 ||| b >>> 6, b >>> 1 &&& 31, (b &&& 1) <<< 4 ||| c >>> 4,
      (c &&& 15) <<< 1 ||| d >>> 7, d >>> 2 &&& 31, (d &&& 3) <<< 3]
  | [a, b, c] =>
    [a >>> 3, (a &&& 7) <<< 2 ||| b >>> 6, b >>> 1 &&& 31, (b &&& 1) <<< 4 ||| c >>> 4,
      (c &&& 15) <<< 1]
  | [a, b] => [a >>> 3, (a &&& 7) <<< 2 ||| b >>> 6, b >>> 1 &&& 31, (b &&& 1) <<< 4]
  | [a] => [a >>> 3, (a &&& 7) <<< 2]
  | [] => []

/-- What the remainder of a whole address is to be, by witness version. -/
def target (version : UInt8) : UInt32 := if version = 0 then 1 else 0x2bc830a3

/-- The six groups that bring the remainder to its target. -/
def checksum (tag : String) (version : UInt8) (groups : List UInt8) : List UInt8 :=
  let r := remainder (expandTag tag ++ groups ++ List.replicate 6 0) ^^^ target version
  (List.range 6).map fun i => (r >>> UInt32.ofNat (5 * (5 - i))).toUInt8 &&& 31

/-- The address of a witness program. -/
def address (network : Network) (version : UInt8) (program : Bytes) : String :=
  let tag := network.addressTag
  let groups := version :: regroup program
  let text := (groups ++ checksum tag version groups).map fun g => alphabet.getD g.toNat 'q'
  tag ++ "1" ++ String.ofList text

end Supersede.Bech32
