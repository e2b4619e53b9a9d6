/-!
# Powers of two and ten

Numbers are read and written by scaling with powers of the two bases.
-/

namespace NodeTelemetry.Decimal

/-- A power of two. -/
def twoTo (n : Nat) : Nat := Nat.pow 2 n

/-- A power of ten. -/
def tenTo (n : Nat) : Nat := Nat.pow 10 n

end NodeTelemetry.Decimal
