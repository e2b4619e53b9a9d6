import NodeTelemetry.Proofs.Populate.Causes

/-!
# The values of a metric set

The value of a metric is the last one that was written under its name, by the specifications or, where none of
them wrote it, by the manipulators.

## Main definitions

* `Attempt.written?`, `Spec.written?`: what an attempt or a specification writes under a name.
* `Spec.IsSingle`: a specification that never gives several values.

## Main statements

* `Populator.value?_metricSet`: the value of a metric by the specifications.
* `Spec.written?_scalar`, `Spec.written?_multi`: what fetches of one value and of several write.
-/

namespace NodeTelemetry

theorem MetricSet.value?_write (s : MetricSet) (w : Write) (name : String) :
    (s.attempt w).value? name =
      (if w.name = name then w.stored.toOption else none).or (s.value? name) := by
  cases h : w.stored with
  | error e => simp [s.attempt_of_error h, Except.toOption]
  | ok v =>
    rw [s.attempt_of_ok h]
    simp only [value?, TextMap.get?_insert, Except.toOption]
    by_cases hname : w.name = name
    · simp [hname]
    · have hne : ¬ name = w.name := fun heq => hname heq.symm
      simp [hname, hne]

/-- The value that an attempt writes under a name. -/
def Attempt.written? (name : String) : Attempt → Option MetricValue
  | .write w => if w.name = name then w.stored.toOption else none
  | .failed _ _ => none

theorem Attempt.value?_apply (s : MetricSet) (a : Attempt) (name : String) :
    (a.apply s).value? name = (a.written? name).or (s.value? name) := by
  cases a with
  | write w => exact s.value?_write w name
  | failed metric e => rfl

/-- Of several attempts the last one that writes under a name counts. -/
theorem Attempt.value?_foldl_apply (tried : List Attempt) (s : MetricSet) (name : String) :
    (tried.foldl Attempt.apply s).value? name =
      (tried.reverse.findSome? (Attempt.written? name)).or (s.value? name) := by
  induction tried generalizing s with
  | nil => rfl
  | cons a rest ih =>
    rw [List.foldl_cons, ih, Attempt.value?_apply, List.reverse_cons, List.findSome?_append,
      Option.or_assoc]
    congr 1
    cases h : a.written? name <;> simp [h]

/-! ### Specifications -/

/-- The value that a specification writes under a name. -/
def Spec.written? (spec : Spec) (group id : String) (groups : RawGroups) (name : String) :
    Option MetricValue :=
  (Attempt.ofSpec group id groups spec).reverse.findSome? (Attempt.written? name)

theorem findSome?_reverse_flatMap {α β γ : Type} (f : α → List β) (g : β → Option γ)
    (l : List α) :
    (l.flatMap f).reverse.findSome? g = l.reverse.findSome? fun a => (f a).reverse.findSome? g := by
  induction l with
  | nil => rfl
  | cons a rest ih =>
    rw [List.flatMap_cons, List.reverse_append, List.findSome?_append, ih, List.reverse_cons,
      List.findSome?_append]
    congr 1
    cases h : (f a).reverse.findSome? g <;> simp [h]

/-- The value of a metric is what the last specification writes under its name, and where none does, what the
manipulators wrote. -/
theorem Populator.value?_metricSet (p : Populator) (specs : SpecGroup) (group id : String)
    (groups : RawGroups) (key : EntityKey) (eventType name : String) :
    (p.metricSet specs group id groups key eventType).value? name =
      (specs.specs.reverse.findSome? fun spec => spec.written? group id groups name).or
        ((manipulate key p.cluster p.manipulators (.ofEventType eventType)).1.value? name) := by
  rw [metricSet, Attempt.value?_foldl_apply, attempts, findSome?_reverse_flatMap]
  rfl

section Written

variable {spec : Spec} {group id : String} {groups : RawGroups} {name : String}

theorem Spec.written?_of_error {e : FetchError} (h : spec.fetch group id groups = .error e) :
    spec.written? group id groups name = none := by
  rw [written?, Attempt.ofSpec_of_error h]
  rfl

theorem Spec.written?_of_ok {v : Fetched} (h : spec.fetch group id groups = .ok v) :
    spec.written? group id groups name = (v.values spec.name).reverse.findSome? fun x =>
      if x.1 = name then (Write.stored ⟨x.1, x.2, spec.type⟩).toOption else none := by
  rw [written?, Attempt.ofSpec_of_ok h, ← List.map_reverse, List.findSome?_map]
  rfl

/-- A fetch of one value writes under the name of its specification. -/
theorem Spec.written?_scalar {v : Scalar} (h : spec.fetch group id groups = .ok (.scalar v)) :
    spec.written? group id groups spec.name =
      (Write.stored ⟨spec.name, v, spec.type⟩).toOption := by
  rw [written?_of_ok h]
  simp [Fetched.values]

/-- A specification that never gives several values. -/
def Spec.IsSingle (spec : Spec) : Prop :=
  ∀ group id groups values, spec.fetch group id groups ≠ .ok (.multi values)

/-- A specification that gives one value writes nothing under another name. -/
theorem Spec.IsSingle.written?_eq_none (h : spec.IsSingle) (hname : spec.name ≠ name) :
    spec.written? group id groups name = none := by
  cases hfetch : spec.fetch group id groups with
  | error e => exact written?_of_error hfetch
  | ok v =>
    cases v with
    | multi values => exact absurd hfetch (h group id groups values)
    | scalar v =>
      rw [written?_of_ok hfetch]
      simp [Fetched.values, hname]

/-- A fetch of several values writes the one of a name under that name. -/
theorem Spec.written?_multi {values : TextMap Scalar}
    (h : spec.fetch group id groups = .ok (.multi values)) :
    spec.written? group id groups name =
      (values.get? name).bind fun v => (Write.stored ⟨name, v, spec.type⟩).toOption := by
  rw [written?_of_ok h]
  cases hget : values.get? name with
  | none =>
    rw [Option.bind_none, List.findSome?_eq_none_iff]
    rintro ⟨k, v⟩ hx
    refine if_neg fun hk => ?_
    have hmem : (k, v) ∈ values.entries := List.mem_reverse.1 hx
    simp only at hk
    rw [hk, ← TextMap.get?_eq_some_iff, hget] at hmem
    simp at hmem
  | some v =>
    have hmem := List.mem_reverse.2 (TextMap.get?_eq_some_iff.1 hget)
    have hnodup : (values.entries.reverse.map Prod.fst).Nodup := by
      rw [List.map_reverse, List.nodup_reverse]
      exact values.nodup_keys
    obtain ⟨before, after, hsplit, hbefore, hafter⟩ := exists_split_of_nodup hnodup hmem
    have others : ∀ l : List (String × Scalar), (∀ x ∈ l, x.1 ≠ name) →
        (l.findSome? fun x =>
          if x.1 = name then (Write.stored ⟨x.1, x.2, spec.type⟩).toOption else none) = none := by
      intro l hl
      rw [List.findSome?_eq_none_iff]
      exact fun x hx => if_neg (hl x hx)
    simp only [Fetched.values]
    rw [hsplit, List.findSome?_append, others before hbefore, Option.none_or, List.findSome?_cons,
      others after hafter, if_pos rfl, Option.bind_some]
    cases (Write.stored ⟨name, v, spec.type⟩).toOption <;> rfl

end Written

end NodeTelemetry
