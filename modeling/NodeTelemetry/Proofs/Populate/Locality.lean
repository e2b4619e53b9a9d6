import NodeTelemetry.Fetch.Sample
import NodeTelemetry.Fetch.Transform
import NodeTelemetry.Proofs.Populate.Recorded

/-!
# What population reads

Every fetch is given all raw groups, and so is everything that derives a name or a type. Most of them are local: for a
raw entity they read that raw entity alone, so raw groups that agree on it give the same. Where all that is asked
about a raw entity has the same answers in two collections of raw groups, a run records and does the same for it in
both, and where this is so for all raw entities with specifications, the two runs are the same.

## Main definitions

* `IsLocal`: what is read for a raw entity of a group depends on that raw entity alone.
* `SpecGroup.Agrees`: two collections of raw groups give the same answers about a raw entity.
* `Populator.recordedAt`, `Populator.stepsAt`: what a run records and does for one raw entity.

## Main statements

* `Populator.report_congr`: the report on a raw entity, where the answers agree.
* `Populator.recordedAt_eq`, `Populator.stepsAt_eq`: what a run records and does for a raw entity, by its report.
* `Populator.populate_congr`: a run, where all answers agree.
-/

namespace NodeTelemetry

/-! ### Reads -/

/-- What is read for a raw entity of the group depends on that raw entity alone. -/
def IsLocal {α : Type} (group : String) (read : (group id : String) → RawGroups → α) : Prop :=
  ∀ id groups groups', groups.entity? group id = groups'.entity? group id →
    read group id groups = read group id groups'

namespace RawGroups

section Agreeing

variable {groups groups' : RawGroups} {group id : String}
  (h : groups.entity? group id = groups'.entity? group id)
include h

theorem metric_congr (key : String) : groups.metric group id key = groups'.metric group id key := by
  rw [metric, metric, entity, entity, h]

theorem text_congr (key : String) : groups.text group id key = groups'.text group id key := by
  rw [text, text, metric_congr h]

theorem sample_congr (key : String) : groups.sample group id key = groups'.sample group id key := by
  rw [sample, sample, metric_congr h]

theorem label_congr (key name : String) :
    groups.label group id key name = groups'.label group id key name := by
  rw [label, label, sample_congr h]

end Agreeing

end RawGroups

open RawGroups

section Fetches

variable {group : String}

@[simp] theorem isLocal_raw (key : String) : IsLocal group (Fetch.raw key) := by
  intro id groups groups' h
  rw [Fetch.raw, Fetch.raw, metric_congr h]

@[simp] theorem IsLocal.thenApply {fetch : Fetch} (hfetch : IsLocal group fetch)
    (f : Fetched → Except FetchError Fetched) : IsLocal group (fetch.thenApply f) := by
  intro id groups groups' h
  rw [Fetch.thenApply, Fetch.thenApply, hfetch id groups groups' h]

theorem IsLocal.ofText {find : (group id : String) → RawGroups → Except FetchError String}
    (hfind : IsLocal group find) : IsLocal group (Fetch.ofText find) := by
  intro id groups groups' h
  rw [Fetch.ofText, Fetch.ofText, hfind id groups groups' h]

@[simp] theorem isLocal_persistentVolume : IsLocal group Fetch.persistentVolume := by
  intro id groups groups' h
  rw [Fetch.persistentVolume, Fetch.persistentVolume, isLocal_raw "pvcName" id groups groups' h]

@[simp] theorem isLocal_complementPercentage (desired complement : String) :
    IsLocal group (Fetch.complementPercentage desired complement) := by
  intro id groups groups' h
  rw [Fetch.complementPercentage, Fetch.complementPercentage, isLocal_raw desired id groups groups' h,
    isLocal_raw complement id groups groups' h]

@[simp] theorem isLocal_sampleValue (metric : String) : IsLocal group (Fetch.sampleValue metric) := by
  intro id groups groups' h
  rw [Fetch.sampleValue, Fetch.sampleValue, sample_congr h]

theorem isLocal_label (metric label : String) :
    IsLocal group fun group id groups => groups.label group id metric label := by
  intro id groups groups' h
  exact label_congr h metric label

@[simp] theorem isLocal_labelValue (metric label : String) :
    IsLocal group (Fetch.labelValue metric label) :=
  (isLocal_label metric label).ofText

@[simp] theorem isLocal_replicaSetDeployment : IsLocal group Fetch.replicaSetDeployment := by
  refine IsLocal.ofText fun id groups groups' h => ?_
  rw [label_congr h]

@[simp] theorem isLocal_podDeployment : IsLocal group Fetch.podDeployment := by
  refine IsLocal.ofText fun id groups groups' h => ?_
  rw [label_congr h, label_congr h]

/-- The labels of the owner in the own group are those of the raw entity itself. -/
@[simp] theorem isLocal_inheritLabels (metric : String) : IsLocal group (Fetch.inheritLabels group metric) := by
  intro id groups groups' h
  simp only [Fetch.inheritLabels, parentId, if_true, sample_congr h]

/-- Without a generator the raw ID is the name. -/
theorem isLocal_rawId : IsLocal group fun _ id _ => (Except.ok id : Except FetchError String) :=
  fun _ _ _ _ => rfl

theorem isLocal_pendingPod : IsLocal group IdGenerator.pendingPod := by
  intro id groups groups' h
  rw [IdGenerator.pendingPod, IdGenerator.pendingPod, label_congr h, label_congr h]

theorem isLocal_labelType (metric cluster : String) : IsLocal group fun group id groups =>
    TypeGenerator.labelValue metric group id groups cluster := by
  intro id groups groups' h
  simp only [TypeGenerator.labelValue, label_congr h]

end Fetches

/-! ### The report on a raw entity -/

/-- All that specifications ask about a raw entity has the same answers in both collections of raw groups. -/
structure SpecGroup.Agrees (specs : SpecGroup) (group id : String) (groups groups' : RawGroups) :
    Prop where
  name : specs.nameOf group id groups = specs.nameOf group id groups'
  type : ∀ cluster, specs.typeOf group id groups cluster = specs.typeOf group id groups' cluster
  fetch : ∀ spec ∈ specs.specs, spec.fetch group id groups = spec.fetch group id groups'

theorem SpecGroup.Agrees.of_isLocal {specs : SpecGroup} {group id : String}
    {groups groups' : RawGroups}
    (h : groups.entity? group id = groups'.entity? group id) (hname : IsLocal group specs.nameOf)
    (htype : ∀ cluster, IsLocal group fun group id groups => specs.typeOf group id groups cluster)
    (hfetch : ∀ spec ∈ specs.specs, IsLocal group spec.fetch) :
    specs.Agrees group id groups groups' where
  name := hname id groups groups' h
  type := fun cluster => htype cluster id groups groups' h
  fetch := fun spec hspec => hfetch spec hspec id groups groups' h

namespace Populator

section Report

variable {p : Populator} {specs : SpecGroup} {group id : String} {groups groups' : RawGroups}

theorem report_congr (h : specs.Agrees group id groups groups')
    (hevent : p.eventTyper p.cluster group id groups = p.eventTyper p.cluster group id groups') :
    p.report specs group id groups = p.report specs group id groups' := by
  have hkey : p.keyOf specs group id groups = p.keyOf specs group id groups' := by
    rw [keyOf_eq, keyOf_eq, h.name, h.type]
  have htried : attempts specs group id groups = attempts specs group id groups' := by
    refine List.flatMap_congr fun spec hspec => ?_
    rw [Attempt.ofSpec, Attempt.ofSpec, h.fetch spec hspec]
  rw [report, report, hkey, htried, hevent]

end Report

/-! ### A run, seen from one raw entity -/

variable {p : Populator} {groups groups' : RawGroups} {specs : SpecGroups}

/-- What a run records for a raw entity. -/
def recordedAt (p : Populator) (groups : RawGroups) (specs : SpecGroups) (store : EntityStore)
    (group id : String) : List PopulateError :=
  (p.populate groups specs store).1.errors.filter fun e => (e.group, e.id) = (group, id)

/-- What a run does for a raw entity: one step, or none. -/
def stepsAt (p : Populator) (groups : RawGroups) (specs : SpecGroups) (group id : String) : List Step :=
  ((p.stepsBy groups specs).filter fun x => x.1 = (group, id)).map Prod.snd

theorem recordedAt_eq (store : EntityStore) (group id : String) :
    p.recordedAt groups specs store group id =
      (p.report? groups specs group id).toList.flatMap fun r => errorsAt group id r.causes := by
  rw [recordedAt, populate, PopulateOutcome.ofReports]
  refine filter_flatMap_reports fun r e he => ?_
  obtain ⟨cause, -, rfl⟩ := List.mem_map.1 he
  rfl

theorem stepsAt_eq (group id : String) :
    p.stepsAt groups specs group id =
      (p.report? groups specs group id).toList.flatMap fun r => r.step.toList := by
  have hsteps : p.stepsBy groups specs = (p.reports groups specs).flatMap fun r =>
      r.2.2.step.toList.map fun step => ((r.1, r.2.1), step) := by
    rw [stepsBy, List.filterMap_eq_flatMap_toList]
    congr 1
    funext r
    cases r.2.2.step <;> rfl
  rw [stepsAt, hsteps, filter_flatMap_reports]
  · rw [List.map_flatMap]
    congr 1
    funext r
    rw [List.map_map]
    exact List.map_id _
  · intro r x hx
    obtain ⟨step, -, rfl⟩ := List.mem_map.1 hx
    rfl

/-- Both runs record and do the same for a raw entity, whatever the stores are. -/
def SameAt (p : Populator) (specs : SpecGroups) (group id : String) (groups groups' : RawGroups) :
    Prop :=
  (∀ store store', p.recordedAt groups specs store group id =
    p.recordedAt groups' specs store' group id) ∧
  p.stepsAt groups specs group id = p.stepsAt groups' specs group id

/-- Where the report on a raw entity is the same, the runs record and do the same for it. -/
theorem sameAt_of_report {group id : String} (h : groups.entity? group id = groups'.entity? group id)
    (hreport : ∀ spec, specs.get? group = some spec →
      p.report spec group id groups = p.report spec group id groups') :
    p.SameAt specs group id groups groups' := by
  have hsame : p.report? groups specs group id = p.report? groups' specs group id := by
    rw [report?, report?, h]
    cases hspec : specs.get? group with
    | none => rfl
    | some spec => rw [Option.bind_some, Option.bind_some, hreport spec hspec]
  constructor
  · intro store store'
    rw [recordedAt_eq, recordedAt_eq, hsame]
  · rw [stepsAt_eq, stepsAt_eq, hsame]

/-! ### Whole runs -/

theorem flatMap_filter_of_eq_nil {α β : Type} {f : α → List β} {q : α → Bool}
    (h : ∀ a, q a = false → f a = []) (l : List α) : (l.filter q).flatMap f = l.flatMap f := by
  induction l with
  | nil => rfl
  | cons a rest ih =>
    rw [List.flatMap_cons, ← ih]
    cases hq : q a with
    | false => simp [hq, h a hq]
    | true => simp [hq]

/-- Groups without specifications have no raw entities that are populated. -/
theorem subjects_congr
    (h : ∀ group, (specs.get? group).isSome → groups.get? group = groups'.get? group) :
    subjects groups specs = subjects groups' specs := by
  have hentries : (groups.entries.filter fun e => (specs.get? e.1).isSome) =
      groups'.entries.filter fun e => (specs.get? e.1).isSome := by
    refine TextMap.sorted_ext (groups.sorted.filter _) (groups'.sorted.filter _) ?_
    rintro ⟨group, entities⟩
    simp only [List.mem_filter, ← TextMap.get?_eq_some_iff]
    refine and_congr_left fun hsome => ?_
    rw [h group hsome]
  rw [subjects_eq, subjects_eq, ← flatMap_filter_of_eq_nil ?_ groups.entries, hentries,
    flatMap_filter_of_eq_nil ?_ groups'.entries]
  all_goals
    intro e he
    rw [Option.isSome_eq_false_iff, Option.isNone_iff_eq_none] at he
    rw [he]
    rfl

theorem populate_congr (hsubjects : subjects groups specs = subjects groups' specs)
    (hreport : ∀ group id spec, specs.get? group = some spec →
      p.report spec group id groups = p.report spec group id groups') (store : EntityStore) :
    p.populate groups specs store = p.populate groups' specs store := by
  have hreports : p.reports groups specs = p.reports groups' specs := by
    rw [reports, reports, ← hsubjects]
    refine List.map_congr_left ?_
    rintro ⟨group, id, spec⟩ hmem
    simp only [hreport group id spec (mem_subjects_iff.1 hmem).1]
  rw [populate, populate, hreports]

end Populator

end NodeTelemetry
