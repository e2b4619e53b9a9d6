import NodeTelemetry.Decimal.Shortest

/-!
# The nearest whole number

A double is rounded to the nearest whole number, a half going away from zero, and held to the range of
64 bits with sign.
-/

namespace NodeTelemetry.Decimal

/-- The whole number nearest to a magnitude, a half going up. -/
def Magnitude.nearestNat (m : Magnitude) : Nat :=
  if 0 ≤ m.exponent then m.mantissa * twoTo m.exponent.toNat
  else
    let unit := twoTo (-m.exponent).toNat
    (2 * m.mantissa + unit) / (2 * unit)

/-- The nearest number of 64 bits with sign; what is no number is zero. -/
def nearestInt64 (x : Float) : Int64 :=
  let least := Int64.minValue.toInt
  let greatest := Int64.maxValue.toInt
  let clamp (n : Int) : Int64 := Int64.ofInt (max least (min n greatest))
  match Parts.ofFloat x with
  | .notANumber => 0
  | .infinite negative => clamp (if negative then least else greatest)
  | .finite negative m => clamp (if negative then -(m.nearestNat : Int) else m.nearestNat)

end NodeTelemetry.Decimal
