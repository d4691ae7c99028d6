import Supersede.Key.Scheme
import Supersede.Secp256k1.Point

/-!
# Keys as points

The passage between public keys, which keep an abscissa and a parity, and points.
-/

namespace Supersede.Secp256k1

/-- The point of a public key. -/
def Point.ofPublicKey (k : PublicKey) : Point := ⟨k.x, ordinate k.x k.odd, 1⟩

/-- The public key of a finite point. -/
def Point.toPublicKey? (a : Point) : Option PublicKey :=
  match a.toAffine? with
  | none => none
  | some (x, y) => PublicKey.ofAbscissa? (y % 2 == 1) x

/-- The generator as a public key. -/
def generatorKey : PublicKey := ⟨false, Point.generator.x, by decide +kernel⟩

/-- The public key of a secret key: that multiple of the generator. It is a finite point, since
the secret is not a multiple of the group order. -/
def publicKey (k : SecretKey) : PublicKey :=
  (Point.mul k.val Point.generator).toPublicKey?.getD generatorKey

/-- A public key plus a multiple of the generator. -/
def shift? (k : PublicKey) (t : Nat) : Option PublicKey :=
  ((Point.ofPublicKey k).add (Point.mul t Point.generator)).toPublicKey?

end Supersede.Secp256k1
