import Supersede.Secp256k1.Field

/-!
# Points of the curve

A point is kept in Jacobian coordinates: `(x, y, z)` with nonzero `z` stands for the affine point
`(x / z², y / z³)`, and `z = 0` is the point at infinity. Addition and doubling then need no
division; one inversion at the end gives the affine coordinates.
-/

namespace Supersede.Secp256k1

/-- A point in Jacobian coordinates. -/
structure Point where
  x : Nat
  y : Nat
  z : Nat

namespace Point

/-- The neutral element of the group. -/
def infinity : Point := ⟨1, 1, 0⟩

/-- The generator. -/
def generator : Point :=
  ⟨0x79be667ef9dcbbac55a06295ce870b07029bfcdb2dce28d959f2815b16f81798,
   0x483ada7726a3c4655da4fbfc0e1108a8fd17b448a68554199c47d08ffb10d4b8, 1⟩

/-- The point added to itself. -/
def double (a : Point) : Point :=
  if a.z == 0 then a
  else
    let p := fieldPrime
    let xx := a.x * a.x % p
    let yy := a.y * a.y % p
    let yyyy := yy * yy % p
    let s := 4 * a.x * yy % p
    let m := 3 * xx % p
    let x := subMod p (m * m) (2 * s)
    let y := subMod p (m * subMod p s x) (8 * yyyy)
    ⟨x, y, 2 * a.y * a.z % p⟩

/-- The sum of two points. -/
def add (a b : Point) : Point :=
  if a.z == 0 then b
  else if b.z == 0 then a
  else
    let p := fieldPrime
    let azz := a.z * a.z % p
    let bzz := b.z * b.z % p
    let u := a.x * bzz % p
    let v := b.x * azz % p
    let s := a.y * (bzz * b.z % p) % p
    let t := b.y * (azz * a.z % p) % p
    if u == v then
      if s == t then double a else infinity
    else
      let h := subMod p v u
      let r := subMod p t s
      let hh := h * h % p
      let hhh := hh * h % p
      let w := u * hh % p
      let x := subMod p (r * r) (hhh + 2 * w)
      let y := subMod p (r * subMod p w x) (s * hhh)
      ⟨x, y, a.z * b.z % p * h % p⟩

/-- The sum of `k` copies of a point, for `k` below `2 ^ 256`. -/
def mul (k : Nat) (a : Point) : Point :=
  (bits k).foldl
    (fun acc bit =>
      let twice := double acc
      if bit then add twice a else twice) infinity

/-- The opposite point. -/
def neg (a : Point) : Point := ⟨a.x, subMod fieldPrime 0 a.y, a.z⟩

/-- The affine coordinates, unless the point is at infinity. -/
def toAffine? (a : Point) : Option (Nat × Nat) :=
  if a.z == 0 then none
  else
    let zi := invMod fieldPrime a.z
    let zi2 := zi * zi % fieldPrime
    some (a.x * zi2 % fieldPrime, a.y * (zi2 * zi % fieldPrime) % fieldPrime)

end Point

end Supersede.Secp256k1
