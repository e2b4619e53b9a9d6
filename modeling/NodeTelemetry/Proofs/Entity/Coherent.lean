import Mathlib.Data.List.Induction
import NodeTelemetry.Proofs.Entity.Requests

/-!
# Metric sets under any writes

A metric set holds its values and its declared types in two maps, which a write changes one after the other. A write
that is accepted puts its name into both, and a write that is refused into neither; so whatever is written, the two
maps have the same names. Each of them is what the accepted writes alone make of an empty map, and the kind of every
value is the one that its type asks for.

## Main definitions

* `MetricSet.InStep`: the two maps of a set have the same names.
* `MetricSet.Coherent`: what holds of a set after writes.

## Main statements

* `MetricSet.InStep.attempt`, `MetricSet.InStep.foldl`: one write keeps the maps in step, and so do any.
* `MetricSet.InStep.map_metrics`: maps in step lose nothing side by side.
* `MetricSet.has_ofWrites_iff`: the metric of a name is what the last accepted write under it stored.
* `MetricSet.coherent_ofWrites`: the set that writes build is coherent.
-/

namespace NodeTelemetry

namespace MetricSet

/-- The names with a value are the names with a declared type. -/
def InStep (s : MetricSet) : Prop :=
  ∀ name, (s.value? name).isSome ↔ (s.type? name).isSome

/-- What holds of a set of an event type after writes. -/
structure Coherent (s : MetricSet) (eventType : String) (writes : List Write) : Prop where
  eventType : s.eventType = eventType
  /-- The names with a value are the names with a declared type. -/
  named : ∀ name, (s.value? name).isSome ↔ (s.type? name).isSome
  /-- Nothing is lost where the two maps are read as one. -/
  paired : s.metrics.map Metric.value = s.values ∧ s.metrics.map Metric.type = s.types
  /-- A name that is reserved has neither a value nor a type. -/
  unreserved : ∀ name ∈ ["event_type", "metric_types"], s.value? name = none ∧ s.type? name = none
  number : ∀ name v type, s.value? name = some v → s.type? name = some type → type ≠ .attr → v.IsNumber
  text : ∀ name v, s.value? name = some v → s.type? name = some .attr → ∃ text, v = .text text
  /-- A write is refused if it is not to be accepted, and then it changes nothing. -/
  refused : ∀ w : Write, ((∃ e, s.write w = .error e) ↔ ¬ w.Accepted) ∧ (¬ w.Accepted → s.attempt w = s)
  /-- An accepted write changes the value and the type of its name together, and nothing under other names. -/
  accepted : ∀ w : Write, w.Accepted →
    (∃ v, StoredAs w.type w.value v ∧ (s.attempt w).value? w.name = some v ∧
      (s.attempt w).type? w.name = some w.type) ∧
    ∀ name, name ≠ w.name →
      (s.attempt w).value? name = s.value? name ∧ (s.attempt w).type? name = s.type? name
  /-- A name has the stored form and the declared type of the last write under it that was accepted. -/
  last : ∀ name v type, (s.value? name = some v ∧ s.type? name = some type) ↔
    ∃ before w after, writes = before ++ w :: after ∧ w.name = name ∧ w.type = type ∧
      Unreserved name ∧ StoredAs type w.value v ∧ ∀ w' ∈ after, w'.name = name → ¬ w'.Accepted
  /-- The values are what the accepted writes make of an empty map. -/
  values : s.values = .ofList (writes.filterMap fun w => w.stored.toOption.map fun v => (w.name, v))
  /-- The types are what the accepted writes make of an empty map. -/
  types : s.types = .ofList ((writes.filter fun w => w.Accepted).map fun w => (w.name, w.type))

variable {s : MetricSet} {eventType name : String} {writes : List Write} {w : Write} {v : MetricValue}
  {type : MetricType}

/-! ### One write -/

theorem attempt_of_not_accepted (s : MetricSet) (h : ¬ w.Accepted) : s.attempt w = s := by
  obtain ⟨e, he⟩ := Write.not_accepted_iff.1 h
  exact s.attempt_of_error he

theorem exists_error_iff (s : MetricSet) : (∃ e, s.write w = .error e) ↔ ¬ w.Accepted := by
  rw [Write.not_accepted_iff, write]
  cases hw : w.stored with
  | error e => simp [s.run_setMetric_of_error hw]
  | ok v => simp [s.run_setMetric_of_ok hw]

/-- A write keeps the two maps in step: its name comes into both or into neither. -/
theorem InStep.attempt (h : s.InStep) (w : Write) : (s.attempt w).InStep := by
  intro name
  by_cases hw : w.name = name → ∃ e, w.stored = .error e
  · obtain ⟨hvalue, htype⟩ := s.lookups_attempt_of_refused hw
    rw [hvalue, htype]
    exact h name
  · obtain ⟨rfl, hnot⟩ := Classical.not_imp.1 hw
    cases hv : w.stored with
    | error e => exact absurd ⟨e, hv⟩ hnot
    | ok v =>
      obtain ⟨hvalue, htype⟩ := s.has_attempt_of_ok hv
      simp [hvalue, htype]

/-! ### Any number of writes -/

/-- The set without metrics has its maps in step. -/
theorem inStep_ofEventType (eventType : String) : (ofEventType eventType).InStep := by
  simp [InStep]

theorem InStep.foldl (h : s.InStep) (writes : List Write) : (writes.foldl MetricSet.attempt s).InStep := by
  induction writes generalizing s with
  | nil => exact h
  | cons w rest ih => exact ih (h.attempt w)

/-- Of maps in step the metrics have all values and all types. -/
theorem InStep.map_metrics (h : s.InStep) :
    s.metrics.map Metric.value = s.values ∧ s.metrics.map Metric.type = s.types := by
  constructor
  · refine TextMap.ext_get? fun name => Option.ext fun v => ?_
    rw [TextMap.get?_map, Option.map_eq_some_iff]
    constructor
    · rintro ⟨m, hm, rfl⟩
      exact (get?_metrics_eq_some_iff.1 hm).1
    · intro hvalue
      obtain ⟨type, htype⟩ := Option.isSome_iff_exists.1 ((h name).1 (Option.isSome_of_eq_some hvalue))
      exact ⟨⟨v, type⟩, get?_metrics_eq_some_iff.2 ⟨hvalue, htype⟩, rfl⟩
  · refine TextMap.ext_get? fun name => Option.ext fun type => ?_
    rw [TextMap.get?_map, Option.map_eq_some_iff]
    constructor
    · rintro ⟨m, hm, rfl⟩
      exact (get?_metrics_eq_some_iff.1 hm).2
    · intro htype
      obtain ⟨v, hvalue⟩ := Option.isSome_iff_exists.1 ((h name).2 (Option.isSome_of_eq_some htype))
      exact ⟨⟨v, type⟩, get?_metrics_eq_some_iff.2 ⟨hvalue, htype⟩, rfl⟩

theorem ofWrites_concat (eventType : String) (writes : List Write) (w : Write) :
    ofWrites eventType (writes ++ [w]) = (ofWrites eventType writes).attempt w := by
  rw [ofWrites, ofWrites, List.foldl_append]
  rfl

theorem refused_iff : Refused writes name ↔ ∀ w ∈ writes, w.name = name → ¬ w.Accepted := by
  simp only [Refused, Write.not_accepted_iff]

/-- The metric of a name is what the last accepted write under the name stored. -/
theorem has_ofWrites_iff : (ofWrites eventType writes).Has name ⟨v, type⟩ ↔
    ∃ before w after, writes = before ++ w :: after ∧ w.name = name ∧ w.type = type ∧
      Unreserved name ∧ StoredAs type w.value v ∧ ∀ w' ∈ after, w'.name = name → ¬ w'.Accepted := by
  have hempty : ¬ (ofEventType eventType).Has name ⟨v, type⟩ := by simp [Has]
  rw [ofWrites, has_foldl_attempt_iff, or_iff_left fun h => hempty h.2]
  constructor
  · rintro ⟨before, w, after, rfl, rfl, hstored, rfl, hafter⟩
    obtain ⟨hname, hform⟩ := Write.stored_eq_ok_iff.1 hstored
    exact ⟨before, w, after, rfl, rfl, rfl, hname, hform, refused_iff.1 hafter⟩
  · rintro ⟨before, w, after, rfl, rfl, rfl, hname, hform, hafter⟩
    exact ⟨before, w, after, rfl, rfl, Write.stored_eq_ok_iff.2 ⟨hname, hform⟩, rfl, refused_iff.2 hafter⟩

/-- Writes under a reserved name are all refused. -/
theorem refused_of_not_unreserved (writes : List Write) (h : ¬ Unreserved name) : Refused writes name := by
  rw [refused_iff]
  rintro w - rfl hw
  exact h hw.1

/-- The values of a set are what the accepted writes make of a map of values. -/
theorem values_ofWrites (eventType : String) (writes : List Write) :
    (ofWrites eventType writes).values =
      .ofList (writes.filterMap fun w => w.stored.toOption.map fun v => (w.name, v)) := by
  induction writes using List.reverseRecOn with
  | nil => rfl
  | append_singleton rest w ih =>
    rw [ofWrites_concat, List.filterMap_append]
    cases hstored : w.stored with
    | error e =>
      rw [attempt_of_not_accepted _ (Write.not_accepted_iff.2 ⟨e, hstored⟩), ih]
      simp [hstored, Except.toOption]
    | ok v =>
      rw [attempt_of_ok _ hstored, ih, ← TextMap.ofList_concat _ (w.name, v)]
      simp [hstored, Except.toOption]

/-- The types of a set are what the accepted writes make of a map of types. -/
theorem types_ofWrites (eventType : String) (writes : List Write) :
    (ofWrites eventType writes).types =
      .ofList ((writes.filter fun w => w.Accepted).map fun w => (w.name, w.type)) := by
  induction writes using List.reverseRecOn with
  | nil => rfl
  | append_singleton rest w ih =>
    rw [ofWrites_concat, List.filter_append, List.map_append]
    by_cases hw : w.Accepted
    · obtain ⟨v, hstored⟩ := Write.accepted_iff.1 hw
      rw [attempt_of_ok _ hstored, ih, ← TextMap.ofList_concat _ (w.name, w.type)]
      simp [hw]
    · rw [attempt_of_not_accepted _ hw, ih]
      simp [hw]

/-- Whatever is written, the set that writes build is coherent. -/
theorem coherent_ofWrites (eventType : String) (writes : List Write) :
    (ofWrites eventType writes).Coherent eventType writes where
  eventType := eventType_foldl_attempt writes _
  named := (inStep_ofEventType eventType).foldl writes
  paired := ((inStep_ofEventType eventType).foldl writes).map_metrics
  unreserved := by
    have hreserved : ∀ name ∈ ["event_type", "metric_types"], ¬ Unreserved name := by decide
    exact fun name hname => lookups_foldl_of_refused (refused_of_not_unreserved writes (hreserved name hname))
  number name v type hvalue htype hne := by
    obtain ⟨-, w, -, -, -, -, -, hform, -⟩ := has_ofWrites_iff.1 ⟨hvalue, htype⟩
    exact hform.isNumber hne
  text name v hvalue htype := by
    obtain ⟨-, w, -, -, -, -, -, hform, -⟩ := has_ofWrites_iff.1 ⟨hvalue, htype⟩
    exact hform.exists_text
  refused w := ⟨exists_error_iff _, attempt_of_not_accepted _⟩
  accepted w hw := by
    obtain ⟨v, hstored⟩ := Write.accepted_iff.1 hw
    obtain ⟨hvalue, htype⟩ := (ofWrites eventType writes).has_attempt_of_ok hstored
    refine ⟨⟨v, (Write.stored_eq_ok_iff.1 hstored).2, hvalue, htype⟩, fun name hne => ?_⟩
    exact lookups_attempt_of_refused _ fun heq => absurd heq.symm hne
  last name v type := has_ofWrites_iff
  values := values_ofWrites eventType writes
  types := types_ofWrites eventType writes

/-- Writes of a status, of which the second is accepted with another type and the third is refused, and one under a
name that is reserved. -/
def statusWrites : List Write :=
  [⟨"status", .int 1, .gauge⟩, ⟨"status", .str "Ready", .attr⟩, ⟨"status", .str "Unknown", .rate⟩,
    ⟨"event_type", .str "K8sNodeSample", .attr⟩]

theorem coherent_ofWrites_retyped :
    (ofWrites "K8sPodSample" statusWrites).value? "status" = some (.text "Ready") ∧
    (ofWrites "K8sPodSample" statusWrites).type? "status" = some .attr := by
  have hlast := (coherent_ofWrites "K8sPodSample" statusWrites).last "status" (.text "Ready") .attr
  exact hlast.2 ⟨statusWrites.take 1, ⟨"status", .str "Ready", .attr⟩, statusWrites.drop 2, rfl, rfl, rfl,
    by decide, .text "Ready", by decide⟩

end MetricSet

end NodeTelemetry
