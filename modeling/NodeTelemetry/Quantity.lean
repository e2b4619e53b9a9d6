import NodeTelemetry.Decimal.Literal
import NodeTelemetry.Decimal.Whole
import NodeTelemetry.Text.Blank

/-!
# Resource quantities

A quantity is a number literal with at most one suffix, a power of two (`Ki`) or of ten (`m`, `k`), and blanks
around it. An exponent is part of the number and no suffix: it ends in a digit.

## Main definitions

* `Quantity.readWith`, `Quantity.read?`: the value of a quantity in base units.
* `Quantity.milli?`, `Quantity.whole?`: the value in thousandths and in units, as whole numbers.
-/

namespace NodeTelemetry.Quantity

/-- The suffixes with their factors. -/
def suffixes : List (String × Float) := [
  ("Ki", 1024.0),
  ("Mi", 1048576.0),
  ("Gi", 1073741824.0),
  ("Ti", 1099511627776.0),
  ("Pi", 1125899906842624.0),
  ("Ei", 1152921504606846976.0),
  ("n", 1e-9),
  ("u", 1e-6),
  ("m", 1e-3),
  ("k", 1e3),
  ("M", 1e6),
  ("G", 1e9),
  ("T", 1e12),
  ("P", 1e15),
  ("E", 1e18)]

/-- The number text in front of the first suffix of a table that ends a text, with that suffix and its factor. -/
def cutWith (table : List (String × Float)) (s : List Char) : Option (List Char × String × Float) :=
  table.findSome? fun e => (e.1.toList.isSuffixOf? s).map fun number => (number, e)

/-- The value of a quantity in base units, with the suffixes of a table. -/
def readWith (table : List (String × Float)) (s : String) : Option Float :=
  let body := Text.trim s.toList
  if body = [] then none
  else
    match cutWith table body with
    | some (number, suffix, factor) =>
      -- `E` alone is an exponent without a number
      if suffix = "E" ∧ number = [] then none else (Decimal.readFloat? number).map (· * factor)
    | none => Decimal.readFloat? body

/-- The value of a quantity in base units. -/
def read? (s : String) : Option Float := readWith suffixes s

/-- The value of a quantity in thousandths, to the nearest. -/
def milli? (s : String) : Option Int64 :=
  (read? s).map fun x => Decimal.nearestInt64 (x * 1000.0)

/-- The value of a quantity in units, to the nearest. -/
def whole? (s : String) : Option Int64 :=
  (read? s).map Decimal.nearestInt64

end NodeTelemetry.Quantity
