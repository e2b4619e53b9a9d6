import NodeTelemetry.Json.Basic
import NodeTelemetry.Value.Scalar

/-!
# Metric sets

A metric set is a named collection of typed metrics. It holds their values in one map and their declared types in
another. A write is checked against the type it declares: gauges and rates take numbers, with truth values as 0 and 1
and timestamps as seconds, and attributes take texts. Two names are reserved for the set itself.

## Main definitions

* `Write.stored`: the form in which a write is stored, or why it is refused.
* `MetricSet.setMetric`: sets a metric of a set in place.
* `MetricSet.write`, `MetricSet.attempt`: a set after a write.
* `MetricSet.json`: the document of a set.
* `MetricSet.metrics`: value and type of every name in one map.
-/

namespace NodeTelemetry

/-- The declared meaning of a metric. -/
inductive MetricType where
  | gauge
  | rate
  | attr
  deriving DecidableEq, Repr

/-- The name of a type in documents. -/
def MetricType.name : MetricType → String
  | gauge => "gauge"
  | rate => "rate"
  | attr => "attribute"

/-- The stored value of a metric. -/
inductive MetricValue where
  | int (v : Int64)
  | uint (v : UInt64)
  | float (v : Float)
  | text (v : String)

/-- The value in documents. -/
def MetricValue.json : MetricValue → Json
  | int v => .int v.toInt
  | uint v => .int v.toNat
  | float v => .float v
  | text v => .str v

/-- Why a write is refused. -/
inductive WriteError where
  | nonNumeric (name value : String)
  | nonString (name value : String)
  | reserved (name : String)
  | rejected (reason : String)
  deriving DecidableEq, Repr

/-- The wording of a refusal. -/
def WriteError.message : WriteError → String
  | nonNumeric name value =>
    "non-numeric value for rate/delta/gauge metrics: " ++ name ++ "=" ++ value
  | nonString name value => "non-string value for attribute metrics: " ++ name ++ "=" ++ value
  | reserved name => "metric name is reserved: " ++ name
  | rejected reason => reason

/-- The name under which documents hold the event type. -/
def eventTypeKey : String := "event_type"

/-- The name under which documents hold the declared types. -/
def metricTypesKey : String := "metric_types"

/-- An attempt to set a metric. -/
structure Write where
  name : String
  value : Scalar
  type : MetricType

namespace Write

/-- The stored form of a number: whole numbers and finite doubles as they are, truth values as 0 and
1, timestamps as seconds since 1970. -/
def numeric? : Scalar → Option MetricValue
  | .int v => some (.int v)
  | .uint v => some (.uint v)
  | .float v => if v.isFinite then some (.float v) else none
  | .bool v => some (.int (if v then 1 else 0))
  | .timestamp t => some (.int (Int64.ofInt t.seconds))
  | .str _ => none

/-- The stored form of a text. -/
def textual? : Scalar → Option MetricValue
  | .str v => some (.text v)
  | _ => none

/-- The form in which a write is stored, or why it is refused. It does not depend on the set. -/
def stored (w : Write) : Except WriteError MetricValue :=
  if w.name = eventTypeKey ∨ w.name = metricTypesKey then .error (.reserved w.name)
  else
    match w.type with
    | .gauge | .rate =>
      match numeric? w.value with
      | some v => .ok v
      | none => .error (.nonNumeric w.name w.value.text)
    | .attr =>
      match textual? w.value with
      | some v => .ok v
      | none => .error (.nonString w.name w.value.text)

end Write

/-- A metric: its stored value and its declared type. -/
structure Metric where
  value : MetricValue
  type : MetricType

/-- A named collection of metrics: the stored values and the declared types, each in a map of their own. -/
structure MetricSet where
  eventType : String
  values : TextMap MetricValue
  types : TextMap MetricType

namespace MetricSet

/-- The set without metrics. -/
def ofEventType (eventType : String) : MetricSet := ⟨eventType, .empty, .empty⟩

/-- Sets a metric in place: the value goes into one map and then the type into the other. What is done before a
refusal stays done. -/
def setMetric (w : Write) : EStateM WriteError MetricSet Unit := do
  let v ← MonadExcept.ofExcept w.stored
  modify fun s => { s with values := s.values.insert w.name v }
  modify fun s => { s with types := s.types.insert w.name w.type }

/-- The set after a write, or why the write is refused. -/
def write (s : MetricSet) (w : Write) : Except WriteError MetricSet :=
  match (setMetric w).run s with
  | .ok () after => .ok after
  | .error e _ => .error e

/-- The set after a write, also after one that is refused. -/
def attempt (s : MetricSet) (w : Write) : MetricSet :=
  match (setMetric w).run s with
  | .ok () after => after
  | .error _ after => after

/-- The value of a metric. -/
def value? (s : MetricSet) (name : String) : Option MetricValue :=
  s.values.get? name

/-- The declared type of a metric. -/
def type? (s : MetricSet) (name : String) : Option MetricType :=
  s.types.get? name

theorem run_setMetric_of_ok (s : MetricSet) {w : Write} {v : MetricValue} (h : w.stored = .ok v) :
    (setMetric w).run s =
      .ok () ⟨s.eventType, s.values.insert w.name v, s.types.insert w.name w.type⟩ := by
  rw [setMetric, h]
  rfl

/-- A write is checked before anything is changed. -/
theorem run_setMetric_of_error (s : MetricSet) {w : Write} {e : WriteError} (h : w.stored = .error e) :
    (setMetric w).run s = .error e s := by
  rw [setMetric, h]
  rfl

theorem attempt_of_ok (s : MetricSet) {w : Write} {v : MetricValue} (h : w.stored = .ok v) :
    s.attempt w = ⟨s.eventType, s.values.insert w.name v, s.types.insert w.name w.type⟩ := by
  rw [attempt, run_setMetric_of_ok s h]

theorem attempt_of_error (s : MetricSet) {w : Write} {e : WriteError} (h : w.stored = .error e) :
    s.attempt w = s := by
  rw [attempt, run_setMetric_of_error s h]

@[simp] theorem value?_ofEventType (eventType name : String) : (ofEventType eventType).value? name = none := rfl

@[simp] theorem type?_ofEventType (eventType name : String) : (ofEventType eventType).type? name = none := rfl

/-- The number of values. -/
def size (s : MetricSet) : Nat := s.values.size

/-- Whether there is no value. -/
def isEmpty (s : MetricSet) : Bool := s.values.isEmpty

/-- The document of a set: the event type, the values in the order of their names, and the declared types under a
name of their own, which is left out where there are none. -/
def json (s : MetricSet) : Json :=
  let types := s.types.entries.map fun (name, type) => (name, Json.str type.name)
  .obj ((eventTypeKey, .str s.eventType) ::
    (s.values.entries.map (fun (name, v) => (name, v.json)) ++
      if s.types.isEmpty then [] else [(metricTypesKey, .obj types)]))

/-- The two maps side by side: the names that have a value and a type, with both. -/
def metrics (s : MetricSet) : TextMap Metric :=
  s.values.filterMap fun name v => (s.types.get? name).map fun type => ⟨v, type⟩

/-- A name has a metric: its value stands in one map and its type in the other. -/
def Has (s : MetricSet) (name : String) (m : Metric) : Prop :=
  s.value? name = some m.value ∧ s.type? name = some m.type

theorem get?_metrics_eq_some_iff {s : MetricSet} {name : String} {m : Metric} :
    s.metrics.get? name = some m ↔ s.Has name m := by
  obtain ⟨v, type⟩ := m
  simp [metrics, Has, value?, type?, Option.bind_eq_some_iff]

end MetricSet

end NodeTelemetry
