import NodeTelemetry.Catalog.Identity
import NodeTelemetry.Proofs.Populate

/-!
# What population does and records for one raw entity

A raw entity without a key does nothing to the store and records why it has none. A raw entity with a key records
what goes wrong with its specifications, one by one: a fetch that fails, or a value that is not of the
declared type. With the event type and the manipulators of the catalog nothing else can go wrong.

## Main statements

* `Populator.keyOf_eq_ok_iff`, `Populator.keyOf_eq_error_iff`: which raw entities have a key.
* `Populator.mem_errors_iff`, `Populator.filter_errors_eq`: the errors of a run, and those of one raw entity.
* `Catalog.report_of_key`: the report on a raw entity with a key.
* `Catalog.cause_cases`: what can be recorded for a raw entity.
-/

namespace NodeTelemetry

/-- Where no two members agree in a key, the others differ from a member in theirs. -/
theorem exists_split_of_nodup {α β : Type} {f : α → β} {l : List α} {x : α} (h : (l.map f).Nodup)
    (hx : x ∈ l) : ∃ before after, l = before ++ x :: after ∧
      (∀ y ∈ before, f y ≠ f x) ∧ ∀ y ∈ after, f y ≠ f x := by
  obtain ⟨before, after, rfl⟩ := List.append_of_mem hx
  rw [List.map_append, List.map_cons] at h
  refine ⟨before, after, rfl, fun y hy heq => ?_, fun y hy heq => ?_⟩
  · exact (List.nodup_append.1 h).2.2 _ (List.mem_map_of_mem hy) _ (List.mem_cons_self ..) heq
  · have hnot := (List.nodup_cons.1 (List.nodup_append.1 h).2.1).1
    exact hnot (heq ▸ List.mem_map_of_mem hy)

/-- The name that a group gives to a raw entity. -/
def SpecGroup.nameOf (specs : SpecGroup) (group id : String) (groups : RawGroups) :
    Except FetchError String :=
  match specs.idGenerator with
  | some generator => generator group id groups
  | none => .ok id

/-- The type that a group gives to a raw entity. -/
def SpecGroup.typeOf (specs : SpecGroup) (group id : String) (groups : RawGroups)
    (cluster : String) : Except FetchError String :=
  match specs.typeGenerator with
  | some generator => generator group id groups cluster
  | none => .ok ""

namespace Populator

variable {p : Populator} {specs : SpecGroup} {group id : String} {groups : RawGroups}

/-! ### Keys -/

theorem keyOf_eq (p : Populator) (specs : SpecGroup) (group id : String) (groups : RawGroups) :
    p.keyOf specs group id groups = (do
      let name ← (specs.nameOf group id groups).mapError PopulateCause.entityId
      let type ← (specs.typeOf group id groups p.cluster).mapError PopulateCause.entityType
      (EntityKey.ofNames name type).mapError PopulateCause.entity) := by
  rw [keyOf, SpecGroup.nameOf, SpecGroup.typeOf]
  cases specs.idGenerator <;> cases specs.typeGenerator <;> rfl

theorem keyOf_of_name_error {e : FetchError} (hname : specs.nameOf group id groups = .error e) :
    p.keyOf specs group id groups = .error (.entityId e) := by
  rw [keyOf_eq, hname]
  rfl

theorem keyOf_of_type_error {name : String} {e : FetchError}
    (hname : specs.nameOf group id groups = .ok name)
    (htype : specs.typeOf group id groups p.cluster = .error e) :
    p.keyOf specs group id groups = .error (.entityType e) := by
  rw [keyOf_eq, hname, htype]
  rfl

theorem keyOf_of_ofNames_ok {name type : String} {key : EntityKey}
    (hname : specs.nameOf group id groups = .ok name)
    (htype : specs.typeOf group id groups p.cluster = .ok type)
    (hkey : EntityKey.ofNames name type = .ok key) : p.keyOf specs group id groups = .ok key := by
  rw [keyOf_eq, hname, htype]
  change (EntityKey.ofNames name type).mapError PopulateCause.entity = _
  rw [hkey]
  rfl

theorem keyOf_of_ofNames_error {name type : String} {e : EntityError}
    (hname : specs.nameOf group id groups = .ok name)
    (htype : specs.typeOf group id groups p.cluster = .ok type)
    (hkey : EntityKey.ofNames name type = .error e) :
    p.keyOf specs group id groups = .error (.entity e) := by
  rw [keyOf_eq, hname, htype]
  change (EntityKey.ofNames name type).mapError PopulateCause.entity = _
  rw [hkey]
  rfl

theorem keyOf_of_names {name type : String} (hname : specs.nameOf group id groups = .ok name)
    (htype : specs.typeOf group id groups p.cluster = .ok type) :
    p.keyOf specs group id groups =
      if name = "" ∨ type = "" then .error (.entity .missingKey) else .ok ⟨name, type⟩ := by
  rw [keyOf_eq, hname, htype]
  change (EntityKey.ofNames name type).mapError PopulateCause.entity = _
  rw [EntityKey.ofNames]
  by_cases h : name = "" ∨ type = ""
  · rw [if_pos h, if_pos h]
    rfl
  · rw [if_neg h, if_neg h]
    rfl

/-- A raw entity has a key where it has a name and a type that are not empty. -/
theorem keyOf_eq_ok_iff {key : EntityKey} :
    p.keyOf specs group id groups = .ok key ↔
      specs.nameOf group id groups = .ok key.name ∧
        specs.typeOf group id groups p.cluster = .ok key.type ∧ key.name ≠ "" ∧ key.type ≠ "" := by
  obtain ⟨name, type⟩ := key
  constructor
  · intro hkey
    cases hname : specs.nameOf group id groups with
    | error e => simp [keyOf_of_name_error hname] at hkey
    | ok n =>
      cases htype : specs.typeOf group id groups p.cluster with
      | error e => simp [keyOf_of_type_error hname htype] at hkey
      | ok t =>
        rw [keyOf_of_names hname htype] at hkey
        split at hkey
        · simp at hkey
        · next hne =>
          obtain ⟨rfl, rfl⟩ := EntityKey.mk.inj (Except.ok.inj hkey)
          exact ⟨rfl, rfl, not_or.1 hne⟩
  · rintro ⟨hname, htype, hn, ht⟩
    rw [keyOf_of_names hname htype, if_neg (not_or.2 ⟨hn, ht⟩)]

/-- A raw entity has no key where its name or its type can not be derived or is empty. -/
theorem keyOf_eq_error_iff {cause : PopulateCause} :
    p.keyOf specs group id groups = .error cause ↔
      (∃ e, specs.nameOf group id groups = .error e ∧ cause = .entityId e) ∨
        (∃ name e, specs.nameOf group id groups = .ok name ∧
          specs.typeOf group id groups p.cluster = .error e ∧ cause = .entityType e) ∨
        (∃ name type, specs.nameOf group id groups = .ok name ∧
          specs.typeOf group id groups p.cluster = .ok type ∧ (name = "" ∨ type = "") ∧
          cause = .entity .missingKey) := by
  cases hname : specs.nameOf group id groups with
  | error e => simp [keyOf_of_name_error hname, eq_comm]
  | ok name =>
    cases htype : specs.typeOf group id groups p.cluster with
    | error e => simp [keyOf_of_type_error hname htype, eq_comm]
    | ok type =>
      rw [keyOf_of_names hname htype]
      by_cases h : name = "" ∨ type = ""
      · simp [h, eq_comm]
      · simp [h]

/-! ### The errors of a run -/

theorem report_of_keyOf_error {cause : PopulateCause}
    (h : p.keyOf specs group id groups = .error cause) :
    p.report specs group id groups = ⟨none, [cause]⟩ := by
  rw [report, h]

/-- A raw entity with a key but no event type makes sure that its entity exists, and records one failure. -/
theorem report_of_eventTyper_error {key : EntityKey} {e : FetchError}
    (hkey : p.keyOf specs group id groups = .ok key)
    (htype : p.eventTyper p.cluster group id groups = .error e) :
    p.report specs group id groups = ⟨some (.ensure key), [.metricSetType e]⟩ := by
  rw [report, hkey]
  simp only [htype]

/-- A raw entity with a key and an event type appends its metric set, if a write for a specification is accepted, and
otherwise only makes sure that its entity exists; it records what goes wrong with manipulators and specifications. -/
theorem report_of_eventTyper_ok {key : EntityKey} {type : String}
    (hkey : p.keyOf specs group id groups = .ok key)
    (htype : p.eventTyper p.cluster group id groups = .ok type) :
    p.report specs group id groups =
      ⟨some (if (attempts specs group id groups).any Attempt.isAccepted then
          .append key (p.metricSet specs group id groups key type)
        else .ensure key),
        (manipulate key p.cluster p.manipulators (.ofEventType type)).2.map .manipulator ++
          (attempts specs group id groups).filterMap Attempt.cause?⟩ := by
  rw [report, hkey]
  simp only [htype]
  split
  · rfl
  · rfl

/-- Where a raw entity appends a set, it has a key and an event type, and the set is its metric set. -/
theorem report_step_append_iff {key : EntityKey} {set : MetricSet} :
    (p.report specs group id groups).step = some (.append key set) ↔
      p.keyOf specs group id groups = .ok key ∧
        (∃ eventType, p.eventTyper p.cluster group id groups = .ok eventType ∧
          set = p.metricSet specs group id groups key eventType) ∧
        (attempts specs group id groups).any Attempt.isAccepted = true := by
  constructor
  · intro h
    cases hkey : p.keyOf specs group id groups with
    | error cause => simp [report_of_keyOf_error hkey] at h
    | ok key' =>
      cases htype : p.eventTyper p.cluster group id groups with
      | error e => simp [report_of_eventTyper_error hkey htype] at h
      | ok eventType =>
        rw [report_of_eventTyper_ok hkey htype] at h
        split at h
        · next haccepted =>
          obtain ⟨rfl, rfl⟩ := Step.append.inj (Option.some.inj h)
          exact ⟨rfl, ⟨eventType, rfl, rfl⟩, haccepted⟩
        · simp at h
  · rintro ⟨hkey, ⟨eventType, htype, rfl⟩, haccepted⟩
    exact report_step_append hkey htype haccepted

variable {allSpecs : SpecGroups} {store : EntityStore}

/-- The errors of a run are those that its raw entities report. -/
theorem mem_errors_iff {e : PopulateError} :
    e ∈ (p.populate groups allSpecs store).1.errors ↔
      ∃ spec, allSpecs.get? e.group = some spec ∧ (groups.entity? e.group e.id).isSome ∧
        e.cause ∈ (p.report spec e.group e.id groups).causes := by
  obtain ⟨group, id, cause⟩ := e
  simp only [populate, PopulateOutcome.ofReports, reports, List.mem_flatMap, List.mem_map,
    PopulateError.mk.injEq]
  constructor
  · rintro ⟨_, ⟨⟨g, i, spec⟩, hmem, rfl⟩, c, hc, rfl, rfl, rfl⟩
    obtain ⟨hspec, hsome⟩ := mem_subjects_iff.1 hmem
    exact ⟨spec, hspec, hsome, hc⟩
  · rintro ⟨spec, hspec, hsome, hc⟩
    exact ⟨_, ⟨_, mem_subjects_iff.2 ⟨hspec, hsome⟩, rfl⟩, cause, hc, rfl, rfl, rfl⟩

/-- The report on a raw entity, if it exists in a group with specifications. -/
def report? (p : Populator) (groups : RawGroups) (allSpecs : SpecGroups) (group id : String) :
    Option EntityReport :=
  (allSpecs.get? group).bind fun specs =>
    (groups.entity? group id).map fun _ => p.report specs group id groups

theorem mem_reports_iff {r : EntityReport} :
    (group, id, r) ∈ p.reports groups allSpecs ↔ p.report? groups allSpecs group id = some r := by
  rw [reports, List.mem_map, report?, Option.bind_eq_some_iff]
  constructor
  · rintro ⟨⟨g, i, spec⟩, hmem, heq⟩
    simp only [Prod.mk.injEq] at heq
    obtain ⟨rfl, rfl, rfl⟩ := heq
    obtain ⟨hspec, hsome⟩ := mem_subjects_iff.1 hmem
    obtain ⟨m, hm⟩ := Option.isSome_iff_exists.1 hsome
    exact ⟨spec, hspec, by rw [hm, Option.map_some]⟩
  · rintro ⟨spec, hspec, hr⟩
    obtain ⟨m, hm, rfl⟩ := Option.map_eq_some_iff.1 hr
    exact ⟨(group, id, spec), mem_subjects_iff.2 ⟨hspec, by rw [hm]; rfl⟩, rfl⟩

/-- What comes from the reports of a run and bears their places: that of one place comes from the report on it. -/
theorem filter_flatMap_reports {α : Type} {f : String × String × EntityReport → List α}
    {place : α → String × String} (hplace : ∀ r, ∀ a ∈ f r, place a = (r.1, r.2.1)) :
    ((p.reports groups allSpecs).flatMap f).filter (fun a => place a = (group, id)) =
      (p.report? groups allSpecs group id).toList.flatMap fun r => f (group, id, r) := by
  have others : ∀ l : List (String × String × EntityReport), (∀ r ∈ l, (r.1, r.2.1) ≠ (group, id)) →
      (l.flatMap f).filter (fun a => place a = (group, id)) = [] := by
    intro l hl
    rw [List.filter_eq_nil_iff]
    intro a ha
    obtain ⟨r, hr, ha⟩ := List.mem_flatMap.1 ha
    rw [decide_eq_true_eq, hplace r a ha]
    exact hl r hr
  cases hreport : p.report? groups allSpecs group id with
  | none =>
    refine others _ ?_
    rintro ⟨g, i, r⟩ hr heq
    obtain ⟨rfl, rfl⟩ := Prod.mk.inj heq
    rw [mem_reports_iff, hreport] at hr
    cases hr
  | some r =>
    have hnodup : ((p.reports groups allSpecs).map fun r => (r.1, r.2.1)).Nodup := by
      rw [reports, List.map_map]
      exact nodup_subjects groups allSpecs
    obtain ⟨before, after, hsplit, hbefore, hafter⟩ :=
      exists_split_of_nodup hnodup (mem_reports_iff.2 hreport)
    have hself : (f (group, id, r)).filter (fun a => place a = (group, id)) = f (group, id, r) :=
      List.filter_eq_self.2 fun a ha => decide_eq_true (hplace _ a ha)
    -- no other report is on this place, so the others give nothing that bears it
    rw [hsplit, List.flatMap_append, List.flatMap_cons, List.filter_append, List.filter_append,
      others before hbefore, others after hafter, hself]
    simp

/-- The errors of a run that are about one raw entity are those that it reports, each once. -/
theorem filter_errors_eq (hspec : allSpecs.get? group = some specs)
    (hsome : (groups.entity? group id).isSome) :
    ((p.populate groups allSpecs store).1.errors.filter fun e => e.group = group ∧ e.id = id) =
      (p.report specs group id groups).causes.map fun cause => ⟨group, id, cause⟩ := by
  obtain ⟨m, hm⟩ := Option.isSome_iff_exists.1 hsome
  have hreport : p.report? groups allSpecs group id = some (p.report specs group id groups) := by
    rw [report?, hspec, hm, Option.bind_some, Option.map_some]
  have hplace : ∀ e : PopulateError,
      (e.group = group ∧ e.id = id) ↔ (e.group, e.id) = (group, id) := by
    intro e
    rw [Prod.mk.injEq]
  simp only [populate, PopulateOutcome.ofReports, hplace]
  rw [filter_flatMap_reports, hreport]
  · simp
  · intro r e he
    obtain ⟨cause, -, rfl⟩ := List.mem_map.1 he
    rfl

end Populator

/-! ### One specification -/

/-- The values that a fetch gives, with the names under which they are written. -/
def Fetched.values (name : String) : Fetched → List (String × Scalar)
  | .scalar v => [(name, v)]
  | .multi values => values.entries

namespace Attempt

variable {group id : String} {groups : RawGroups} {spec : Spec}

theorem ofSpec_of_ok {v : Fetched} (h : spec.fetch group id groups = .ok v) :
    ofSpec group id groups spec =
      (v.values spec.name).map fun x => .write ⟨x.1, x.2, spec.type⟩ := by
  rw [ofSpec, h]
  cases v <;> rfl

theorem ofSpec_of_error {e : FetchError} (h : spec.fetch group id groups = .error e) :
    ofSpec group id groups spec = [.failed spec.name e] := by
  rw [ofSpec, h]

/-- What can go wrong with a specification: the fetch fails or a value is refused. -/
theorem cause_cases {a : Attempt} {cause : PopulateCause} (ha : a ∈ ofSpec group id groups spec)
    (hcause : a.cause? = some cause) :
    (∃ e, spec.fetch group id groups = .error e ∧ cause = .fetch spec.name e) ∨
      ∃ v x e, spec.fetch group id groups = .ok v ∧ x ∈ v.values spec.name ∧
        Write.stored ⟨x.1, x.2, spec.type⟩ = .error e ∧ cause = .setMetric x.1 x.2.text e := by
  cases h : spec.fetch group id groups with
  | error e =>
    rw [ofSpec_of_error h] at ha
    obtain rfl := List.mem_singleton.1 ha
    exact .inl ⟨e, rfl, (Option.some.inj hcause).symm⟩
  | ok v =>
    rw [ofSpec_of_ok h] at ha
    obtain ⟨x, hx, rfl⟩ := List.mem_map.1 ha
    rw [cause?] at hcause
    split at hcause
    · simp at hcause
    · next e he => exact .inr ⟨v, x, e, rfl, hx, he, (Option.some.inj hcause).symm⟩

end Attempt

/-! ### The catalog -/

namespace Catalog

variable {cluster : String} {specs : SpecGroup} {group id : String} {groups : RawGroups}

/-- The manipulators of the catalog write texts under names that are not reserved. -/
theorem manipulate_eq (key : EntityKey) (cluster : String) (s : MetricSet) :
    Populator.manipulate key cluster (populator cluster).manipulators s =
      ([⟨"clusterName", .str cluster, .attr⟩, ⟨"displayName", .str key.name, .attr⟩,
        ⟨"entityName", .str (key.type ++ ":" ++ key.name), .attr⟩].foldl MetricSet.attempt s, []) :=
  rfl

theorem eventType_of_ne_empty (h : group ≠ "") : ∃ type, eventType group = .ok type := by
  rw [eventType]
  cases hchars : group.toList with
  | nil => exact absurd (String.toList_eq_nil_iff.1 hchars) h
  | cons c rest => exact ⟨_, rfl⟩

/-- A raw entity with a key appends its metric set, if one of its writes is accepted, and otherwise only makes
sure that its entity exists; it records what goes wrong with its specifications. -/
theorem report_of_key {key : EntityKey} {type : String}
    (hkey : (populator cluster).keyOf specs group id groups = .ok key)
    (htype : eventType group = .ok type) :
    (populator cluster).report specs group id groups =
      ⟨some (if (Populator.attempts specs group id groups).any Attempt.isAccepted then
          .append key ((populator cluster).metricSet specs group id groups key type)
        else .ensure key),
        (Populator.attempts specs group id groups).filterMap Attempt.cause?⟩ := by
  exact Populator.report_of_eventTyper_ok hkey htype

theorem of_step_append {key : EntityKey} {set : MetricSet} (hgroup : group ≠ "")
    (h : ((populator cluster).report specs group id groups).step = some (.append key set)) :
    (populator cluster).keyOf specs group id groups = .ok key ∧ ∃ type, eventType group = .ok type ∧
      set = (populator cluster).metricSet specs group id groups key type := by
  cases hkey : (populator cluster).keyOf specs group id groups with
  | error cause => simp [Populator.report_of_keyOf_error hkey] at h
  | ok key' =>
    obtain ⟨type, htype⟩ := eventType_of_ne_empty hgroup
    rw [report_of_key hkey htype] at h
    split at h
    · obtain ⟨rfl, rfl⟩ := Step.append.inj (Option.some.inj h)
      exact ⟨rfl, type, htype, rfl⟩
    · simp at h

/-- What is recorded for a raw entity: why it has no key, or what goes wrong with a specification. -/
theorem cause_cases {cause : PopulateCause} (hgroup : group ≠ "")
    (h : cause ∈ ((populator cluster).report specs group id groups).causes) :
    (populator cluster).keyOf specs group id groups = .error cause ∨
      ∃ spec ∈ specs.specs,
        (∃ e, spec.fetch group id groups = .error e ∧ cause = .fetch spec.name e) ∨
          ∃ v x e, spec.fetch group id groups = .ok v ∧ x ∈ v.values spec.name ∧
            Write.stored ⟨x.1, x.2, spec.type⟩ = .error e ∧ cause = .setMetric x.1 x.2.text e := by
  cases hkey : (populator cluster).keyOf specs group id groups with
  | error c =>
    rw [Populator.report_of_keyOf_error hkey] at h
    obtain rfl := List.mem_singleton.1 h
    exact .inl rfl
  | ok key =>
    obtain ⟨type, htype⟩ := eventType_of_ne_empty hgroup
    rw [report_of_key hkey htype] at h
    obtain ⟨a, ha, hcause⟩ := List.mem_filterMap.1 h
    obtain ⟨spec, hspec, ha⟩ := List.mem_flatMap.1 ha
    exact .inr ⟨spec, hspec, Attempt.cause_cases ha hcause⟩

end Catalog

end NodeTelemetry
