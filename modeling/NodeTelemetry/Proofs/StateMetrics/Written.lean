import NodeTelemetry.Proofs.Populate.Typing
import NodeTelemetry.Proofs.Populate.Values
import NodeTelemetry.Proofs.StateMetrics.Placements

/-!
# What the specifications of kube-state-metrics write

Every specification writes one metric under its own name, but for those that give an entity the labels of its owner:
they write a metric for each label of the owner's sample that describes a label of the object. The names of these
metrics begin with a mark that no other metric has.

## Main definitions

* `StateMetrics.Unmarked`: a name without the mark of labels.

## Main statements

* `StateMetrics.get?_objectLabels`: the labels of an object by the labels of its sample.
* `StateMetrics.written?_ownerLabels`: what an entity gets from its owner.
-/

namespace NodeTelemetry.StateMetrics

/-! ### One metric under one name -/

section Single

variable {name series label : String}

theorem isSingle_gaugeOf : (Catalog.gaugeOf name series).IsSingle := by
  intro group id groups values h
  simp only [Catalog.gaugeOf, Fetch.sampleValue] at h
  cases hs : groups.sample group id series <;> simp [hs, Except.map] at h

theorem isSingle_ofText {find : (group id : String) → RawGroups → Except FetchError String} :
    Spec.IsSingle ⟨name, Fetch.ofText find, .attr⟩ := by
  intro group id groups values h
  simp only [Fetch.ofText] at h
  cases hs : find group id groups <;> simp [hs, Except.map] at h

theorem isSingle_attributeOf : (Catalog.attributeOf name series label).IsSingle :=
  isSingle_ofText

theorem isSingle_conditionOf : (Catalog.conditionOf name series).IsSingle := by
  intro group id groups values h
  simp only [Catalog.conditionOf, Fetch.thenApply, Fetch.labelValue, Fetch.ofText] at h
  cases hs : groups.label group id series "condition" with
  | error e => simp [hs, Except.map] at h
  | ok text =>
    simp only [hs, Except.map, Transform.toNumericBoolean, Transform.single] at h
    cases hn : Transform.numericBoolean? (.str text) <;> simp [hn] at h

end Single

/-! ### Labels of objects -/

/-- A name without the mark of labels. -/
def Unmarked (name : String) : Prop := "label.".toList.isPrefixOf? name.toList = none

instance (name : String) : Decidable (Unmarked name) :=
  inferInstanceAs (Decidable (_ = none))

theorem Unmarked.ne_label {name : String} (h : Unmarked name) (x : String) :
    name ≠ "label." ++ x := by
  rintro rfl
  have hcut := List.isPrefixOf?_eq_some_iff_append_eq.2 (String.toList_append (s := "label.") (t := x)).symm
  rw [Unmarked, hcut] at h
  simp at h

theorem label_append_injective {x y : String} (h : "label." ++ x = "label." ++ y) : x = y := by
  have hchars := congrArg String.toList h
  rw [String.toList_append, String.toList_append] at hchars
  exact String.toList_inj.1 (List.append_cancel_left hchars)

/-- The metrics for the labels of an object, one for each label that describes one. -/
theorem mem_objectLabels_iff {s : Sample} {e : String × Scalar} :
    (e ∈ s.labels.entries.filterMap fun (name, value) =>
      (objectLabelMark.toList.isPrefixOf? name.toList).map fun rest =>
        ("label." ++ String.ofList rest, Scalar.str value)) ↔
      ∃ x text, s.labels.get? ("label_" ++ x) = some text ∧ e = ("label." ++ x, .str text) := by
  rw [List.mem_filterMap]
  constructor
  · rintro ⟨⟨name, text⟩, hmem, he⟩
    obtain ⟨rest, hcut, rfl⟩ := Option.map_eq_some_iff.1 he
    have hname : name = "label_" ++ String.ofList rest := by
      have hsplit := List.isPrefixOf?_eq_some_iff_append_eq.1 hcut
      rw [← String.toList_inj, String.toList_append]
      exact hsplit.symm.trans (congrArg _ String.toList_ofList.symm)
    refine ⟨String.ofList rest, text, ?_, rfl⟩
    rw [← hname]
    exact TextMap.get?_eq_some_iff.2 hmem
  · rintro ⟨x, text, hget, rfl⟩
    refine ⟨("label_" ++ x, text), TextMap.get?_eq_some_iff.1 hget, ?_⟩
    have hcut : objectLabelMark.toList.isPrefixOf? ("label_" ++ x).toList = some x.toList := by
      rw [String.toList_append]
      exact List.isPrefixOf?_eq_some_iff_append_eq.2 rfl
    simp only [hcut, Option.map_some, String.ofList_toList]

/-- The metric for a label has the value of the label that describes it. -/
theorem get?_objectLabels (s : Sample) (x : String) :
    s.objectLabels.get? ("label." ++ x) = (s.labels.get? ("label_" ++ x)).map Scalar.str := by
  refine Option.ext fun v => ?_
  rw [Sample.objectLabels, TextMap.get?_ofList_eq_some_iff, mem_objectLabels_iff,
    Option.map_eq_some_iff]
  · constructor
    · rintro ⟨y, text, hget, heq⟩
      obtain ⟨hname, rfl⟩ := Prod.mk.inj heq
      obtain rfl := label_append_injective hname
      exact ⟨text, hget, rfl⟩
    · rintro ⟨text, hget, rfl⟩
      exact ⟨x, text, hget, rfl⟩
  · -- two labels with one metric are the same label
    intro a ha b hb hab
    obtain ⟨y, text, hget, rfl⟩ := mem_objectLabels_iff.1 ha
    obtain ⟨z, text', hget', rfl⟩ := mem_objectLabels_iff.1 hb
    obtain rfl := label_append_injective hab
    rw [hget] at hget'
    rw [Option.some.inj hget']

theorem get?_objectLabels_of_unmarked {s : Sample} {name : String} (hname : Unmarked name) :
    s.objectLabels.get? name = none := by
  cases h : s.objectLabels.get? name with
  | none => rfl
  | some v =>
    have hmem := TextMap.mem_of_mem_entries_ofList (TextMap.get?_eq_some_iff.1 h)
    obtain ⟨x, text, -, heq⟩ := mem_objectLabels_iff.1 hmem
    exact absurd (Prod.mk.inj heq).1 (hname.ne_label x)

/-! ### Labels of owners -/

section Owner

variable {group id parent owner series : String} {groups : RawGroups}

/-- The value of a label of a sample, where both are there. -/
theorem toOption_label (group id series name : String) (groups : RawGroups) :
    (groups.label group id series name).toOption =
      (groups.sample group id series).toOption.bind fun s => s.labels.get? name := by
  rw [RawGroups.label]
  cases groups.sample group id series with
  | error e => rfl
  | ok s =>
    simp only [Except.toOption, Option.bind_some]
    cases s.labels.get? name <;> rfl

/-- An entity gets each label of its owner that the sample of the owner has. -/
theorem written?_ownerLabels (howner : parentId parent group id groups = .ok owner) (x : String) :
    (Catalog.ownerLabels parent series).written? group id groups ("label." ++ x) =
      (groups.label parent owner series ("label_" ++ x)).toOption.map MetricValue.text := by
  rw [toOption_label]
  cases hs : groups.sample parent owner series with
  | error e =>
    have hfetch : (Catalog.ownerLabels parent series).fetch group id groups = .error e := by
      simp only [Catalog.ownerLabels, Fetch.inheritLabels, howner, hs]
      rfl
    rw [Spec.written?_of_error hfetch]
    rfl
  | ok s =>
    have hfetch : (Catalog.ownerLabels parent series).fetch group id groups =
        .ok (.multi s.objectLabels) := by
      simp only [Catalog.ownerLabels, Fetch.inheritLabels, howner, hs]
      rfl
    rw [Spec.written?_multi hfetch, get?_objectLabels]
    simp only [Except.toOption, Option.bind_some]
    cases s.labels.get? ("label_" ++ x) with
    | none => rfl
    | some text =>
      rw [Option.map_some, Option.bind_some, Catalog.ownerLabels, stored_label]
      rfl

/-- The labels of an owner are written under no other name. -/
theorem written?_ownerLabels_of_unmarked {name : String} (hname : Unmarked name) :
    (Catalog.ownerLabels parent series).written? group id groups name = none := by
  cases hfetch : (Catalog.ownerLabels parent series).fetch group id groups with
  | error e => exact Spec.written?_of_error hfetch
  | ok v =>
    simp only [Catalog.ownerLabels, Fetch.inheritLabels] at hfetch
    cases howner : parentId parent group id groups with
    | error e => simp [howner] at hfetch
    | ok owner =>
      cases hs : groups.sample parent owner series with
      | error e => simp [howner, hs, Except.map] at hfetch
      | ok s =>
        have hmulti : (Catalog.ownerLabels parent series).fetch group id groups =
            .ok (.multi s.objectLabels) := by
          simp only [Catalog.ownerLabels, Fetch.inheritLabels, howner, hs]
          rfl
        rw [Spec.written?_multi hmulti, get?_objectLabels_of_unmarked hname]
        rfl

end Owner

end NodeTelemetry.StateMetrics
