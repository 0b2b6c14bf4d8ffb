/-!
Rounding of quotients. `nearest` rounds to whole numbers and is never further off than a half
(`two_mul_nearest_le`, `le_two_mul_nearest`); `binary64` rounds to the 53 significant bits of
binary floating point. Both give ties to the even neighbour.
-/

set_option autoImplicit false
set_option relaxedAutoImplicit false

namespace RadioScan.Decimal

/-- The whole number nearest to a quotient, and the even one of two that are equally near. -/
def nearest (numerator denominator : Nat) : Nat :=
  let whole := numerator / denominator
  let rest := numerator % denominator
  if 2 * rest < denominator ∨ 2 * rest = denominator ∧ whole % 2 = 0 then whole else whole + 1

/-- Every binary floating point number of 64 bits is a whole number of grains, of which so many make
up one. -/
def grainsPerUnit : Nat := Nat.pow 2 1074

/-- The binary floating point number nearest to a quotient, in grains. Its significand has 53 bits,
or what there is above a grain. The quotient must be below the end of the format's range. -/
def binary64 (numerator denominator : Nat) : Nat :=
  let bits := (numerator * grainsPerUnit / denominator).log2
  let unit := Nat.pow 2 (bits - 52)
  nearest (numerator * grainsPerUnit) (denominator * unit) * unit

theorem two_mul_nearest_le (numerator denominator : Nat) :
    2 * (denominator * nearest numerator denominator) ≤ 2 * numerator + denominator := by
  have split := Nat.div_add_mod numerator denominator
  simp only [nearest]
  split
  · omega
  · rw [Nat.mul_add]
    omega

theorem le_two_mul_nearest {numerator denominator : Nat} (h : 0 < denominator) :
    2 * numerator ≤ 2 * (denominator * nearest numerator denominator) + denominator := by
  have split := Nat.div_add_mod numerator denominator
  have rest := Nat.mod_lt numerator h
  simp only [nearest]
  split
  · omega
  · rw [Nat.mul_add]
    omega

end RadioScan.Decimal
