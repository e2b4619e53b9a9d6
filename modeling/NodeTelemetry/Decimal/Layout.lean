import NodeTelemetry.Decimal.Shortest

/-!
# Written forms of floating-point numbers

How the digits of a number are laid out is one record. `Layout.plain` is the form in messages and
`Layout.json` the form in documents.
-/

namespace NodeTelemetry.Decimal

/-- The decisions of a written form. -/
structure Layout where
  /-- The powers of ten of the leading digit that are written without an exponent, from the first up to but
  not including the second; every power if there are none. -/
  positional : Option (Int × Int)
  /-- Whether a number without a fraction is written with the fraction `.0`. -/
  keepsFraction : Bool
  /-- What stands before the digits of a positive exponent. -/
  positiveMark : String
  /-- Which of two equally near decimals is taken. -/
  tie : Tie

/-- Numbers in messages: never an exponent, no fraction for whole numbers. -/
def Layout.plain : Layout :=
  ⟨none, false, "", .up⟩

/-- Numbers in documents: positional from `1e-5` up to `1e16`, always with a fraction; otherwise an
exponent with its sign. -/
def Layout.json : Layout :=
  ⟨some (-5, 16), true, "+", .even⟩

namespace Layout

/-- Digits with a point `point` digits after the start, with zeros where there are no digits. -/
def placePoint (l : Layout) (digits : List Char) (point : Int) : List Char :=
  if point ≤ 0 then '0' :: '.' :: (List.replicate (-point).toNat '0' ++ digits)
  else
    let n := point.toNat
    if digits.length ≤ n then
      digits ++ List.replicate (n - digits.length) '0' ++
        (if l.keepsFraction then ['.', '0'] else [])
    else digits.take n ++ '.' :: digits.drop n

/-- Digits with a point after the first one, and the exponent. -/
def withExponent (l : Layout) (digits : List Char) (exponent : Int) : List Char :=
  let significand :=
    match digits with
    | [] => []
    | [d] => [d]
    | d :: ds => d :: '.' :: ds
  let mark := if exponent < 0 then ['-'] else l.positiveMark.toList
  significand ++ 'e' :: (mark ++ (toString exponent.natAbs).toList)

/-- The form of a decimal without its sign. -/
def decimal (l : Layout) (s : Scientific) : List Char :=
  let digits := (toString s.coefficient).toList
  if s.coefficient = 0 then placePoint l digits 1
  else
    let point := s.exponent + digits.length
    match l.positional with
    | none => placePoint l digits point
    | some (low, high) =>
      if low ≤ point - 1 && point - 1 < high then placePoint l digits point
      else withExponent l digits (point - 1)

/-- The form of a double. -/
def text (l : Layout) (x : Float) : String :=
  match Parts.ofFloat x with
  | .notANumber => "NaN"
  | .infinite negative => if negative then "-inf" else "inf"
  | .finite negative m =>
    String.ofList ((if negative then ['-'] else []) ++ l.decimal (m.shortest l.tie))

end Layout

end NodeTelemetry.Decimal
