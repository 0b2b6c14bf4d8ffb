import RadioScan.Decimal.Rounding

/-!
Decimal text of whole numbers and of quotients with a fixed number of places.
-/

set_option autoImplicit false
set_option relaxedAutoImplicit false

namespace RadioScan.Decimal

/-- A whole number, with a sign when it is negative. -/
def integer (value : Int) : List Char :=
  (if value < 0 then ['-'] else []) ++ Nat.toDigits 10 value.natAbs

/-- A quotient with this many places after the point, the last one rounded. -/
def fixed (places numerator denominator : Nat) : List Char :=
  let scale := Nat.pow 10 places
  let scaled := nearest (numerator * scale) denominator
  Nat.toDigits 10 (scaled / scale) ++ ['.']
    ++ List.leftpad places '0' (Nat.toDigits 10 (scaled % scale))

end RadioScan.Decimal
