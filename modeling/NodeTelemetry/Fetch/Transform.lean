import NodeTelemetry.Fetch.Basic

/-!
# Transforms

Functions from one fetched value to another, and the two fetches that combine raw metrics.

## Main definitions

* `Transform.toCoresFromNano`, `Transform.toCores`: units of processor time.
* `Transform.toNumericBoolean`, `Transform.toSeconds`: truth values and timestamps as numbers.
* `Fetch.complementPercentage`: the share of a metric in the sum of it and its complement.
-/

namespace NodeTelemetry

namespace Transform

/-- The one value that has to be there. -/
def single (what : String) : Fetched → Except FetchError Scalar
  | .scalar v => .ok v
  | .multi _ => .error (.transform ("error transforming " ++ what ++ ": multiple values"))

/-- The one whole number without sign that has to be there. -/
def unsigned (what : String) (v : Fetched) : Except FetchError UInt64 :=
  match single what v with
  | .error e => .error e
  | .ok (.uint n) => .ok n
  | .ok (.int n) =>
    if 0 ≤ n.toInt then .ok (UInt64.ofNat n.toInt.toNat)
    else .error (.transform ("error transforming " ++ what))
  | .ok _ => .error (.transform ("error transforming " ++ what))

/-- Billionths of cores as cores. -/
def toCoresFromNano (v : Fetched) : Except FetchError Fetched :=
  (unsigned "to cpu cores" v).map fun n =>
    .scalar (.float (Float.ofNat n.toNat / 1000000000.0))

/-- Nanoseconds of a core as milliseconds. -/
def toMilliFromNano (v : Fetched) : Except FetchError Fetched :=
  (unsigned "cpu cores to milliseconds" v).map fun n =>
    .scalar (.float (Float.ofNat n.toNat / 1000000.0))

/-- A timestamp as seconds since 1970. -/
def toSeconds (v : Fetched) : Except FetchError Fetched :=
  match single "to timestamp" v with
  | .error e => .error e
  | .ok (.timestamp t) => .ok (.scalar (.int (Int64.ofInt t.seconds)))
  | .ok _ => .error (.transform "error transforming to timestamp")

/-- The truth values that have a number: booleans, their two spellings, and the numbers themselves. -/
def numericBoolean? : Scalar → Option Int64
  | .bool b => some (if b then 1 else 0)
  | .str s =>
    if s = "true" ∨ s = "True" then some 1
    else if s = "false" ∨ s = "False" then some 0
    else none
  | .int n => if n = 0 ∨ n = 1 then some n else none
  | .uint n => if n = 0 then some 0 else if n = 1 then some 1 else none
  | _ => none

/-- A truth value as 0 or 1. -/
def toNumericBoolean (v : Fetched) : Except FetchError Fetched :=
  match single "to numeric boolean" v with
  | .error e => .error e
  | .ok s =>
    match numericBoolean? s with
    | some n => .ok (.scalar (.int n))
    | none => .error (.transform "value can not be converted to numeric boolean")

/-- Thousandths of cores as cores. -/
def toCores (v : Fetched) : Except FetchError Fetched :=
  match single "to cores" v with
  | .error e => .error e
  | .ok (.int n) => .ok (.scalar (.float (Float.ofInt n.toInt / 1000.0)))
  | .ok (.uint n) => .ok (.scalar (.float (Float.ofNat n.toNat / 1000.0)))
  | .ok _ => .error (.transform "error transforming to cores")

/-- Labels as one metric for each. -/
def onePerLabel : Fetched → Except FetchError Fetched
  | .multi labels =>
    .ok (.multi (.ofList (labels.entries.map fun (name, v) => ("label." ++ name, v))))
  | .scalar _ => .error (.transform "error transforming labels: expected a label map")

end Transform

namespace Fetch

/-- Whether a volume belongs to a claim: it does when it has the name of one. -/
def persistentVolume : Fetch := fun group id groups =>
  let persistent : Bool :=
    match raw "pvcName" group id groups with
    | .ok (.scalar (.str name)) => name != ""
    | _ => false
  .ok (.scalar (.str (if persistent then "true" else "false")))

/-- The whole of two parts, which stops at the largest number of 64 bits. -/
def saturatingTotal (desired complement : UInt64) : Nat :=
  min (desired.toNat + complement.toNat) (UInt64.size - 1)

/-- How many hundredths `desired` is of the sum of it and `complement`. -/
def complementPercentage (desiredMetric complementMetric : String) : Fetch :=
  fun group id groups => do
    let complement ← Transform.unsigned complementMetric (← raw complementMetric group id groups)
    let desired ← Transform.unsigned desiredMetric (← raw desiredMetric group id groups)
    let total := saturatingTotal desired complement
    if total = 0 then
      .error (.transform ("error computing percentage for " ++ desiredMetric ++ " & " ++
        complementMetric ++ ": division by zero"))
    else
      .ok (.scalar (.float (Float.ofNat desired.toNat / Float.ofNat total * 100.0)))

end Fetch

end NodeTelemetry
