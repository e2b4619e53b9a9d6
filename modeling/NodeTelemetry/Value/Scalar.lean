import NodeTelemetry.Decimal.Layout
import NodeTelemetry.TextMap
import NodeTelemetry.Time.Rfc3339

/-!
# Fetched values

A scalar is one value of a metric. A fetch gives one scalar, or several under names of their own.
-/

namespace NodeTelemetry

/-- A single value. -/
inductive Scalar where
  | int (v : Int64)
  | uint (v : UInt64)
  | float (v : Float)
  | str (v : String)
  | bool (v : Bool)
  | timestamp (t : Time.Instant)

namespace Scalar

/-- The name of the kind of value, for messages. -/
def kind : Scalar → String
  | int _ => "int"
  | uint _ => "uint"
  | float _ => "float"
  | str _ => "string"
  | bool _ => "bool"
  | timestamp _ => "timestamp"

/-- The value as a double, if it is a number. -/
def toFloat? : Scalar → Option Float
  | int v => some (Float.ofInt v.toInt)
  | uint v => some (Float.ofNat v.toNat)
  | float v => some v
  | _ => none

/-- The value as it stands in messages. -/
def text : Scalar → String
  | int v => toString v.toInt
  | uint v => toString v.toNat
  | float v => Decimal.Layout.plain.text v
  | str v => v
  | bool v => if v then "true" else "false"
  | timestamp t => t.text "+00:00"

end Scalar

/-- What a fetch gives. -/
inductive Fetched where
  /-- One value, for the metric that asked for it. -/
  | scalar (v : Scalar)
  /-- Several values, each for a metric of its own name. -/
  | multi (values : TextMap Scalar)

end NodeTelemetry
