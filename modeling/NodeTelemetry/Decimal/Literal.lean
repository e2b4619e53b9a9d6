/-!
# Reading floating-point numbers

A number literal has an optional sign, then either a name (`inf`, `infinity` or `nan` in letters of any
case) or digits with at most one point among them and an optional exponent. There is at least one digit;
the point may come first or last. The value is the double nearest to the number, infinite
when the number is too large. Blanks, underscores and other bases are refused.

## Main definitions

* `Literal.read`: the literal that a text spells, if it spells one.
* `Literal.value`: the double of a literal.
-/

namespace NodeTelemetry.Decimal

/-- A literal that names a double. -/
inductive Literal where
  | notANumber
  | infinite (negative : Bool)
  /-- The number `coefficient · 10 ^ exponent`. -/
  | decimal (negative : Bool) (coefficient : Nat) (exponent : Int)
  deriving DecidableEq, Repr

/-- The number that a row of digits spells. -/
def digitsValue (digits : List Char) : Nat :=
  digits.foldl (fun n c => 10 * n + (c.toNat - '0'.toNat)) 0

namespace Literal

/-- A sign, if there is one, and the rest. The sign is true for a minus. -/
def cutSign : List Char → Bool × List Char
  | '-' :: rest => (true, rest)
  | '+' :: rest => (false, rest)
  | rest => (false, rest)

/-- The exponent at the end of a literal: nothing, or the letter `e` and a whole number. -/
def readExponent : List Char → Option Int
  | [] => some 0
  | c :: rest =>
    if c = 'e' || c = 'E' then
      let (negative, digits) := cutSign rest
      if digits ≠ [] && digits.all Char.isDigit then
        some (if negative then -(digitsValue digits : Int) else digitsValue digits)
      else none
    else none

/-- The literal of digits, point and exponent. -/
def readDecimal (negative : Bool) (s : List Char) : Option Literal :=
  let whole := s.takeWhile Char.isDigit
  let afterWhole := s.dropWhile Char.isDigit
  let (fraction, tail) :=
    match afterWhole with
    | '.' :: rest => (rest.takeWhile Char.isDigit, rest.dropWhile Char.isDigit)
    | rest => ([], rest)
  if whole = [] && fraction = [] then none
  else
    (readExponent tail).map fun e =>
      .decimal negative (digitsValue (whole ++ fraction)) (e - fraction.length)

/-- The literal that a text spells. -/
def read (s : List Char) : Option Literal :=
  let (negative, body) := cutSign s
  let name := String.ofList (body.map Char.toLower)
  if name = "inf" || name = "infinity" then some (.infinite negative)
  else if name = "nan" then some .notANumber
  else readDecimal negative body

/-- The double nearest to `coefficient · 10 ^ exponent`. Numbers from `1e310` on are infinite and
numbers below `1e-400` are zero, so no larger power of ten is ever computed. -/
def nearest (coefficient : Nat) (exponent : Int) : Float :=
  let size : Int := exponent + (toString coefficient).length
  if coefficient = 0 then 0.0
  else if size > 310 then 1.0 / 0.0
  else if size < -400 then 0.0
  else Float.ofScientific coefficient (exponent < 0) exponent.natAbs

/-- The double that a literal names. -/
def value : Literal → Float
  | .notANumber => 0.0 / 0.0
  | .infinite negative => if negative then -1.0 / 0.0 else 1.0 / 0.0
  | .decimal negative coefficient exponent =>
    let x := nearest coefficient exponent
    if negative then -x else x

end Literal

/-- The double that a text spells, if it is a number literal. -/
def readFloat? (s : List Char) : Option Float :=
  (Literal.read s).map Literal.value

end NodeTelemetry.Decimal
