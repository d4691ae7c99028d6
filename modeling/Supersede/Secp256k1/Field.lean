/-!
# Arithmetic for the curve secp256k1

The curve is `y² = x³ + 7` over the integers modulo the prime `fieldPrime`, with a generator of
prime order `groupOrder`. Elements of both are natural numbers below the modulus.

The field prime is 3 modulo 4, so a square's root is a power of it: `squareRoot` computes that
power, and a number is a square exactly when the power squares back to it.
-/

namespace Supersede.Secp256k1

/-- The prime of the coordinate field. -/
def fieldPrime : Nat := 0xfffffffffffffffffffffffffffffffffffffffffffffffffffffffefffffc2f

/-- The prime order of the generator. -/
def groupOrder : Nat := 0xfffffffffffffffffffffffffffffffebaaedce6af48a03bbfd25e8cd0364141

/-- The 256 binary digits of a number, most significant first. -/
def bits (n : Nat) : List Bool := (List.range 256).map fun i => n.testBit (255 - i)

/-- The power of `base` by a 256-bit exponent, by repeated squaring. -/
def powMod (modulus base exponent : Nat) : Nat :=
  (bits exponent).foldl
    (fun acc bit =>
      let square := acc * acc % modulus
      if bit then square * base % modulus else square) 1

/-- The inverse of a nonzero element modulo a prime. -/
def invMod (modulus a : Nat) : Nat := powMod modulus a (modulus - 2)

/-- The difference of two elements. -/
def subMod (modulus a b : Nat) : Nat := (a + (modulus - b % modulus)) % modulus

/-- The right-hand side of the curve equation. -/
def curveRhs (x : Nat) : Nat := (x * x % fieldPrime * x + 7) % fieldPrime

/-- A root of a square of the field. -/
def squareRoot (a : Nat) : Nat := powMod fieldPrime a ((fieldPrime + 1) / 4)

/-- Whether a number is the abscissa of a point of the curve. -/
def isAbscissa (x : Nat) : Bool :=
  let rhs := curveRhs x
  let y := squareRoot rhs
  x < fieldPrime && y * y % fieldPrime == rhs

/-- The ordinate of the point with abscissa `x` and the given parity. -/
def ordinate (x : Nat) (odd : Bool) : Nat :=
  let y := squareRoot (curveRhs x)
  if (y % 2 == 1) == odd then y else fieldPrime - y

end Supersede.Secp256k1
