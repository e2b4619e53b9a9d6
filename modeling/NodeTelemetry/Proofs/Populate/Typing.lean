import NodeTelemetry.Fetch.Transform
import NodeTelemetry.Proofs.Populate.Causes
import NodeTelemetry.Proofs.RawGroups

/-!
# Specifications that agree with what they read

A specification agrees with the raw groups when its fetch gives values of the declared type, under the name of
the specification or as labels. `Accepts` says so up to the writes that may be refused and the failures that may
occur: what is recorded for an entity whose specifications are all accepted is such a refusal or such a failure.

## Main definitions

* `Spec.MayName`: the names under which a specification writes.
* `Accepts`: what a fetch may give to a specification.
* `Numeric`: numbers that can be written, and failed transforms.

## Main statements

* `stored_number`, `stored_text`, `stored_label`: writes that are never refused.
* `Catalog.cause_of_accepts`: what can be recorded where all specifications are accepted.
-/

namespace NodeTelemetry

/-! ### Writes that are never refused -/

/-- A name that is not reserved for the set itself. -/
def Unreserved (name : String) : Prop := ¬ (name = eventTypeKey ∨ name = metricTypesKey)

instance (name : String) : Decidable (Unreserved name) :=
  inferInstanceAs (Decidable (¬ _))

theorem stored_number {name : String} {type : MetricType} {v : Scalar} {stored : MetricValue}
    (hname : Unreserved name) (htype : type ≠ .attr) (hv : Write.numeric? v = some stored) :
    Write.stored ⟨name, v, type⟩ = .ok stored := by
  rw [Write.stored, if_neg hname]
  cases type with
  | gauge => simp only [hv]
  | rate => simp only [hv]
  | attr => exact absurd rfl htype

theorem stored_text {name : String} (hname : Unreserved name) (s : String) :
    Write.stored ⟨name, .str s, .attr⟩ = .ok (.text s) := by
  rw [Write.stored, if_neg hname]
  rfl

theorem unreserved_label (label : String) : Unreserved ("label." ++ label) := by
  rintro (h | h)
  · simpa [eventTypeKey] using congrArg (fun s => s.toList.head?) h
  · simpa [metricTypesKey] using congrArg (fun s => s.toList.head?) h

theorem stored_label (label text : String) :
    Write.stored ⟨"label." ++ label, .str text, .attr⟩ = .ok (.text text) :=
  stored_text (unreserved_label label) text

/-! ### What a fetch may give -/

/-- A specification writes under its own name, and labels behind `label.`. -/
def Spec.MayName (spec : Spec) (name : String) : Prop :=
  name = spec.name ∨ ∃ label, name = "label." ++ label

/-- What a fetch may give to a specification: values that can be written or may be refused, or a failure that may
occur. -/
def Accepts (refused : Write → Prop) (gap : FetchError → Prop) (spec : Spec) :
    Except FetchError Fetched → Prop
  | .ok v => ∀ x ∈ v.values spec.name, spec.MayName x.1 ∧
      ((∃ stored, Write.stored ⟨x.1, x.2, spec.type⟩ = .ok stored) ∨
        refused ⟨x.1, x.2, spec.type⟩)
  | .error e => gap e

/-- A number that can be written, or the failure of a transform. -/
def Numeric : Except FetchError Fetched → Prop
  | .ok (.scalar v) => ∃ stored, Write.numeric? v = some stored
  | .ok (.multi _) => False
  | .error e => ∃ reason, e = .transform reason

theorem numeric_toNumericBoolean (v : Scalar) :
    Numeric (Transform.toNumericBoolean (.scalar v)) := by
  simp only [Transform.toNumericBoolean, Transform.single]
  cases Transform.numericBoolean? v with
  | none => exact ⟨_, rfl⟩
  | some n => exact ⟨.int n, rfl⟩

section Accepts

variable {refused : Write → Prop} {gap : FetchError → Prop} {name : String} {fetch : Fetch}

theorem accepts_number {type : MetricType} {v : Scalar} {stored : MetricValue}
    (hname : Unreserved name) (htype : type ≠ .attr) (hv : Write.numeric? v = some stored) :
    Accepts refused gap ⟨name, fetch, type⟩ (.ok (.scalar v)) := by
  intro x hx
  obtain rfl := List.mem_singleton.1 hx
  exact ⟨.inl rfl, .inl ⟨stored, stored_number hname htype hv⟩⟩

theorem accepts_text (hname : Unreserved name) (s : String) :
    Accepts refused gap ⟨name, fetch, .attr⟩ (.ok (.scalar (.str s))) := by
  intro x hx
  obtain rfl := List.mem_singleton.1 hx
  exact ⟨.inl rfl, .inl ⟨.text s, stored_text hname s⟩⟩

theorem accepts_labels {values : TextMap Scalar}
    (h : ∀ x ∈ values.entries, ∃ label text, x = ("label." ++ label, .str text)) :
    Accepts refused gap ⟨name, fetch, .attr⟩ (.ok (.multi values)) := by
  intro x hx
  obtain ⟨label, text, rfl⟩ := h x hx
  exact ⟨.inr ⟨label, rfl⟩, .inl ⟨.text text, stored_label label text⟩⟩

theorem accepts_of_numeric {r : Except FetchError Fetched} (hname : Unreserved name)
    (hgap : ∀ reason, gap (.transform reason)) (hr : Numeric r) :
    Accepts refused gap ⟨name, fetch, .gauge⟩ r := by
  cases r with
  | error e =>
    obtain ⟨reason, rfl⟩ := hr
    exact hgap reason
  | ok v =>
    cases v with
    | multi values => exact hr.elim
    | scalar v =>
      obtain ⟨stored, hstored⟩ := hr
      exact accepts_number hname (by decide) hstored

end Accepts

/-- Where every specification is accepted, a failure that may occur or a write that may be refused is all that is
recorded for a raw entity with a key. -/
theorem Catalog.cause_of_accepts {cluster group id : String} {specs : SpecGroup}
    {groups : RawGroups} {cause : PopulateCause} {refused : Write → Prop} {gap : FetchError → Prop}
    (hgroup : group ≠ "")
    (haccepts : ∀ spec ∈ specs.specs, Accepts refused gap spec (spec.fetch group id groups))
    (h : cause ∈ ((populator cluster).report specs group id groups).causes) :
    (populator cluster).keyOf specs group id groups = .error cause ∨
      (∃ metric e, cause = .fetch metric e ∧ gap e) ∨
      ∃ w e, cause = .setMetric w.name w.value.text e ∧ w.stored = .error e ∧ refused w := by
  rcases Catalog.cause_cases hgroup h with hkey |
    ⟨spec, hspec, ⟨e, he, rfl⟩ | ⟨v, x, e, hv, hx, he, rfl⟩⟩
  · exact .inl hkey
  · have hgap := haccepts spec hspec
    rw [he] at hgap
    exact .inr (.inl ⟨spec.name, e, rfl, hgap⟩)
  · have hvalues := haccepts spec hspec
    rw [hv] at hvalues
    rcases (hvalues x hx).2 with ⟨stored, hstored⟩ | hrefused
    · rw [he] at hstored
      simp at hstored
    · exact .inr (.inr ⟨⟨x.1, x.2, spec.type⟩, e, rfl, he, hrefused⟩)

end NodeTelemetry
