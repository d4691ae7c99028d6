/-!
# Amounts

Amounts are counted in 64 bits. Arithmetic that would leave that range gives no result, so that
where there is one it is the exact sum or difference.
-/

namespace Supersede

/-- An amount of the smallest unit. -/
abbrev Amount := UInt64

namespace Amount

/-- The sum, if it fits. -/
def add? (a b : Amount) : Option Amount :=
  if a.toNat + b.toNat < UInt64.size then some (a + b) else none

/-- The difference, if it is not negative. -/
def sub? (a b : Amount) : Option Amount := if b ≤ a then some (a - b) else none

/-- The sum of a list, if it fits. -/
def sum? (xs : List Amount) : Option Amount := xs.foldlM add? 0

/-- The difference, or zero if it is negative. -/
def minus (a b : Amount) : Amount := (a.sub? b).getD 0

/-- A sum that fits is exact. -/
theorem toNat_add? {a b c : Amount} (h : a.add? b = some c) : c.toNat = a.toNat + b.toNat := by
  unfold add? at h
  split at h
  · cases h
    rw [UInt64.toNat_add, Nat.mod_eq_of_lt (by assumption)]
  · contradiction

/-- A difference that is not negative is exact. -/
theorem toNat_sub? {a b c : Amount} (h : a.sub? b = some c) : c.toNat + b.toNat = a.toNat := by
  unfold sub? at h
  split at h
  · rename_i hle
    cases h
    rw [UInt64.toNat_sub_of_le _ _ hle, Nat.sub_add_cancel (UInt64.le_iff_toNat_le.1 hle)]
  · contradiction

/-! ## Text -/

/-- Digits in groups of three from the right, divided by commas. -/
def groupDigits (digits : List Char) : List Char :=
  digits.zipIdx.flatMap fun (c, i) =>
    if 0 < i ∧ (digits.length - i) % 3 = 0 then [',', c] else [c]

/-- The amount in decimal with its digits grouped. -/
def display (a : Amount) : String := String.ofList (groupDigits (Nat.toDigits 10 a.toNat))

end Amount

end Supersede
