import NodeTelemetry.Proofs.Populate.Typing

/-!
# Stored forms

A write is stored in a form that its type and its scalar give: numbers for gauges and rates, texts for attributes. A
scalar without a form for the type, and a name that is reserved for the set itself, make the write refused.

## Main definitions

* `StoredAs`: the form in which a scalar is stored for a metric of a type.
* `Write.Accepted`: a write that is not refused.

## Main statements

* `Write.stored_eq_ok_iff`: what a write stores, by the rules of `StoredAs`.
-/

namespace NodeTelemetry

/-- Gauges and rates hold numbers, with truth values as 0 and 1 and timestamps as seconds, and attributes hold texts. -/
inductive StoredAs : MetricType → Scalar → MetricValue → Prop where
  | int {type : MetricType} (v : Int64) (h : type ≠ .attr) : StoredAs type (.int v) (.int v)
  | uint {type : MetricType} (v : UInt64) (h : type ≠ .attr) : StoredAs type (.uint v) (.uint v)
  | float {type : MetricType} (x : Float) (h : type ≠ .attr) (hx : x.isFinite = true) :
      StoredAs type (.float x) (.float x)
  | bool {type : MetricType} (b : Bool) (h : type ≠ .attr) :
      StoredAs type (.bool b) (.int (if b then 1 else 0))
  | timestamp {type : MetricType} (t : Time.Instant) (h : type ≠ .attr) :
      StoredAs type (.timestamp t) (.int (.ofInt t.seconds))
  | text (v : String) : StoredAs .attr (.str v) (.text v)

/-- A whole number, or a double that is finite. -/
inductive MetricValue.IsNumber : MetricValue → Prop where
  | int (v : Int64) : IsNumber (.int v)
  | uint (v : UInt64) : IsNumber (.uint v)
  | float (x : Float) (hx : x.isFinite = true) : IsNumber (.float x)

theorem StoredAs.isNumber {type : MetricType} {value : Scalar} {v : MetricValue}
    (h : StoredAs type value v) (htype : type ≠ .attr) : v.IsNumber := by
  cases h with
  | int v _ => exact .int v
  | uint v _ => exact .uint v
  | float x _ hx => exact .float x hx
  | bool b _ => exact .int _
  | timestamp t _ => exact .int _
  | text v => exact absurd rfl htype

theorem StoredAs.exists_text {value : Scalar} {v : MetricValue} (h : StoredAs .attr value v) :
    ∃ text, v = .text text := by
  cases h with
  | text v => exact ⟨v, rfl⟩
  | int v h | uint v h | float x h hx | bool b h | timestamp t h => exact absurd rfl h

namespace Write

theorem numeric?_eq_some_iff {type : MetricType} (htype : type ≠ .attr) {value : Scalar} {v : MetricValue} :
    numeric? value = some v ↔ StoredAs type value v := by
  constructor
  · intro h
    cases value with
    | int x => exact Option.some.inj h ▸ .int x htype
    | uint x => exact Option.some.inj h ▸ .uint x htype
    | float x =>
      rw [numeric?] at h
      split at h
      · next hx => exact Option.some.inj h ▸ .float x htype hx
      · cases h
    | str x => cases h
    | bool x => exact Option.some.inj h ▸ .bool x htype
    | timestamp t => exact Option.some.inj h ▸ .timestamp t htype
  · intro h
    cases h with
    | float x _ hx => rw [numeric?, if_pos hx]
    | text v => exact absurd rfl htype
    | int v _ | uint v _ | bool b _ | timestamp t _ => rfl

theorem textual?_eq_some_iff {value : Scalar} {v : MetricValue} :
    textual? value = some v ↔ StoredAs .attr value v := by
  constructor
  · intro h
    cases value with
    | str x => exact Option.some.inj h ▸ .text x
    | int x | uint x | float x | bool x | timestamp t => cases h
  · intro h
    cases h with
    | text v => rfl
    | int v h | uint v h | float x h hx | bool b h | timestamp t h => exact absurd rfl h

/-- A write stores a value if its name is not reserved and its scalar has a form for its type. -/
theorem stored_eq_ok_iff {w : Write} {v : MetricValue} :
    w.stored = .ok v ↔ Unreserved w.name ∧ StoredAs w.type w.value v := by
  obtain ⟨name, value, type⟩ := w
  have hgauge : MetricType.gauge ≠ .attr := by decide
  have hrate : MetricType.rate ≠ .attr := by decide
  by_cases hname : Unreserved name
  · rw [stored, if_neg hname, and_iff_right hname]
    cases type with
    | gauge =>
      rw [← numeric?_eq_some_iff hgauge]
      cases numeric? value <;> simp
    | rate =>
      rw [← numeric?_eq_some_iff hrate]
      cases numeric? value <;> simp
    | attr =>
      rw [← textual?_eq_some_iff]
      cases textual? value <;> simp
  · rw [stored, if_pos (not_not.1 hname)]
    simp [hname]

/-- A write that is not refused. -/
def Accepted (w : Write) : Prop :=
  Unreserved w.name ∧ ∃ v, StoredAs w.type w.value v

theorem accepted_iff {w : Write} : w.Accepted ↔ ∃ v, w.stored = .ok v := by
  simp only [Accepted, stored_eq_ok_iff, exists_and_left]

theorem not_accepted_iff {w : Write} : ¬ w.Accepted ↔ ∃ e, w.stored = .error e := by
  rw [accepted_iff]
  cases w.stored <;> simp

instance (w : Write) : Decidable w.Accepted :=
  match h : w.stored with
  | .ok v => .isTrue (accepted_iff.2 ⟨v, h⟩)
  | .error e => .isFalse (not_accepted_iff.2 ⟨e, h⟩)

end Write

end NodeTelemetry
