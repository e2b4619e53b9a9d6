import NodeTelemetry.Decimal.Power

/-!
# The shortest decimal of a floating-point number

A finite double is `mantissa · 2 ^ exponent`. The reals nearer to it than to any other double form
an interval around it, and every decimal in the interval reads back as the double. Among the grids of
multiples of a power of ten, the coarsest one with a point in the interval gives the fewest digits;
of the (at most two) neighbours of the number on that grid the nearer one is taken.

All arithmetic is on natural numbers: four times the mantissa is compared with points of a grid, both
scaled by the same powers of two and ten.

## Main definitions

* `Magnitude`: the absolute value of a finite double, with the interval that rounds to it.
* `Magnitude.shortest`: its shortest decimal, as a coefficient and a power of ten.
-/

namespace NodeTelemetry.Decimal

/-- A positive number `coefficient · 10 ^ exponent`. -/
structure Scientific where
  coefficient : Nat
  exponent : Int
  deriving DecidableEq, Repr

/-- The absolute value of a finite double, `mantissa · 2 ^ exponent`. -/
structure Magnitude where
  mantissa : Nat
  exponent : Int
  /-- Whether the next smaller double is only half a step away: the number is a power of two. -/
  narrowBelow : Bool
  deriving DecidableEq, Repr

/-- What of two decimals at the same distance is taken. -/
inductive Tie where
  | up
  | even
  deriving DecidableEq, Repr

/-- The parts of a double. -/
inductive Parts where
  | notANumber
  | infinite (negative : Bool)
  | finite (negative : Bool) (magnitude : Magnitude)
  deriving DecidableEq, Repr

/-- Takes the 64 bits of a double apart. -/
def Parts.ofBits (bits : Nat) : Parts :=
  let negative := bits.testBit 63
  let field : Nat := (bits >>> 52) % 2048
  let fraction : Nat := bits % twoTo 52
  if field = 2047 then
    if fraction = 0 then .infinite negative else .notANumber
  else if field = 0 then .finite negative ⟨fraction, -1074, false⟩
  else .finite negative ⟨fraction + twoTo 52, (field : Int) - 1075, fraction == 0 && field != 1⟩

/-- The parts of a double. -/
def Parts.ofFloat (x : Float) : Parts :=
  .ofBits x.toBits.toNat

namespace Magnitude

/-- The factor `2 ^ q · 10 ^ (-e)` as a quotient of natural numbers. -/
def scale (q e : Int) : Nat × Nat :=
  (twoTo q.toNat * tenTo (-e).toNat, twoTo (-q).toNat * tenTo e.toNat)

/-- Whether `point · 10 ^ e` rounds to the number. The ends of the interval do so exactly when the
mantissa is even. -/
def hits (m : Magnitude) (e : Int) (point : Nat) : Bool :=
  let (num, den) := scale (m.exponent - 2) e
  let low := (4 * m.mantissa - if m.narrowBelow then 1 else 2) * num
  let high := (4 * m.mantissa + 2) * num
  let mid := point * den
  if m.mantissa % 2 = 0 then low ≤ mid && mid ≤ high else low < mid && mid < high

/-- The nearest point to the number on the grid of multiples of `10 ^ e`, if a point of the grid rounds
to the number. -/
def onGrid (tie : Tie) (m : Magnitude) (e : Int) : Option Nat :=
  let (num, den) := scale (m.exponent - 2) e
  let below := 4 * m.mantissa * num / den
  let rest := 4 * m.mantissa * num % den
  match m.hits e below, m.hits e (below + 1) with
  | true, true =>
    if 2 * rest < den then some below
    else if 2 * rest > den then some (below + 1)
    else
      match tie with
      | .up => some (below + 1)
      | .even => some (if below % 2 = 0 then below else below + 1)
  | true, false => some below
  | false, true => some (below + 1)
  | false, false => none

/-- A power of ten above every grid that has a point in the interval. -/
def topExponent (m : Magnitude) : Int :=
  let k : Int := (4 * m.mantissa).log2 + m.exponent
  if 0 ≤ k then k * 3 / 10 + 3 else -(-k * 3 / 10) + 1

/-- The first grid with a point that rounds to the number, from `10 ^ e` on to finer ones. -/
def search (tie : Tie) (m : Magnitude) : Nat → Int → Option Scientific
  | 0, _ => none
  | fuel + 1, e =>
    match m.onGrid tie e with
    | some point => some ⟨point, e⟩
    | none => search tie m fuel (e - 1)

/-- Moves the zeros at the end of the coefficient into the exponent. -/
def stripZeros : Nat → Scientific → Scientific
  | 0, s => s
  | fuel + 1, s =>
    if s.coefficient ≠ 0 ∧ s.coefficient % 10 = 0 then
      stripZeros fuel ⟨s.coefficient / 10, s.exponent + 1⟩
    else s

/-- The decimal with the fewest digits that rounds to the number, and of those the nearest one. Twenty
digits below the top are enough for every double. -/
def shortest (tie : Tie) (m : Magnitude) : Scientific :=
  if m.mantissa = 0 then ⟨0, 0⟩
  else stripZeros 20 ((m.search tie 40 m.topExponent).getD ⟨0, 0⟩)

end Magnitude

end NodeTelemetry.Decimal
