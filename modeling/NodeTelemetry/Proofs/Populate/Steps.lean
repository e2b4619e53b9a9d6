import Mathlib.Data.List.Induction
import NodeTelemetry.Proofs.Populate.InPlace

/-!
# What a run adds to a store

The steps of a run come from its raw entities alone, at most one from each. Steps change no entity but by sets that are
added at its end, and they create entities behind those that exist, in the order in which their keys are first
used. So what a run makes of a store is what was there, extended, and then what is new.

## Main definitions

* `EntityStore.Built`: the stores that the operations of stores make.
* `Step.setsUnder`, `Step.newKeys`: what steps add to an entity, and the entities that they create.
* `Populator.stepsBy`: the steps of a run, with their raw entities.

## Main statements

* `Step.foldl_onEntities`: what steps make of a list of entities.
* `Populator.mem_stepsBy_iff`, `Populator.nodup_stepsBy`: which steps a run has.
* `Populator.populate_appends`: what a run makes of any store.
-/

namespace NodeTelemetry

/-! ### Stores -/

namespace EntityStore

/-- The stores that are made by looking entities up and adding sets to them. -/
inductive Built : EntityStore → Prop
  | empty : Built empty
  | entity {s s' : EntityStore} {name type : String} {place : Nat} (hs : Built s)
      (hentity : s.entity name type = .ok (s', place)) : Built s'
  | addSet {s s' : EntityStore} {name type : String} {place : Nat} (hs : Built s)
      (hentity : s.entity name type = .ok (s', place)) (set : MetricSet) :
      Built (s'.addSet place set)

theorem eq_ensure_of_entity {s s' : EntityStore} {name type : String} {place : Nat}
    (h : s.entity name type = .ok (s', place)) :
    ∃ key, EntityKey.ofNames name type = .ok key ∧ s' = s.ensure key := by
  cases hkey : EntityKey.ofNames name type with
  | error e => simp [EntityStore.entity, hkey, bind, Except.bind] at h
  | ok key =>
    obtain ⟨place', hentity, -⟩ := s.entity_eq_ok hkey
    rw [hentity] at h
    exact ⟨key, rfl, (Prod.mk.inj (Except.ok.inj h)).1.symm⟩

theorem Built.indexed {s : EntityStore} (h : s.Built) : s.Indexed := by
  induction h with
  | empty => exact indexed_empty
  | entity _ hentity ih =>
    obtain ⟨key, -, rfl⟩ := eq_ensure_of_entity hentity
    exact ih.ensure key
  | addSet _ hentity set ih =>
    obtain ⟨key, -, rfl⟩ := eq_ensure_of_entity hentity
    exact (ih.ensure key).addSet _ set

/-- A step for an entity with names that are not empty can be made by the operations of stores. -/
theorem Built.apply {s : EntityStore} (h : s.Built) {step : Step} {name type : String}
    (hkey : EntityKey.ofNames name type = .ok step.key) : (step.apply s).Built := by
  obtain ⟨place, hentity, hadd⟩ := s.entity_eq_ok hkey
  cases step with
  | ensure key => exact .entity h hentity
  | append key set =>
    have hbuilt := Built.addSet h hentity set
    rwa [hadd] at hbuilt

end EntityStore

/-! ### Steps one after the other -/

namespace Step

/-- The sets that steps add under a key, in order. -/
def setsUnder (steps : List Step) (key : EntityKey) : List MetricSet :=
  ((steps.flatMap appended).filter fun x => x.1 = key).map Prod.snd

/-- The keys of steps that no entity of a list has, each at its first use. -/
def newKeys (es : List Entity) (steps : List Step) : List EntityKey :=
  ((steps.map key).filter fun k => k ∉ es.map Entity.key).eraseDups

/-- An entity with the sets that steps add to it. -/
def extend (steps : List Step) (e : Entity) : Entity :=
  ⟨e.key, e.sets ++ setsUnder steps e.key⟩

theorem setsUnder_concat (steps : List Step) (step : Step) (k : EntityKey) :
    setsUnder (steps ++ [step]) k =
      setsUnder steps k ++ (step.appended.filter fun x => x.1 = k).map Prod.snd := by
  simp [setsUnder]

theorem key_eq_of_mem_appended {step : Step} {x : EntityKey × MetricSet} (h : x ∈ step.appended) :
    x.1 = step.key := by
  cases step with
  | ensure key => cases h
  | append key set => rw [List.mem_singleton.1 h, Step.key]

/-- Steps add nothing under a key that none of them is about. -/
theorem setsUnder_eq_nil {steps : List Step} {k : EntityKey} (h : k ∉ steps.map key) :
    setsUnder steps k = [] := by
  rw [setsUnder, List.map_eq_nil_iff, List.filter_eq_nil_iff]
  intro x hx
  obtain ⟨step, hstep, hx⟩ := List.mem_flatMap.1 hx
  rw [decide_eq_true_eq, key_eq_of_mem_appended hx]
  rintro rfl
  exact h (List.mem_map_of_mem hstep)

theorem mem_newKeys_iff {es : List Entity} {steps : List Step} {k : EntityKey} :
    k ∈ newKeys es steps ↔ k ∈ steps.map key ∧ k ∉ es.map Entity.key := by
  rw [newKeys, List.mem_eraseDups, List.mem_filter, decide_eq_true_eq]

theorem eraseDups_concat {α : Type} [BEq α] [LawfulBEq α] (l : List α) (a : α) :
    (l ++ [a]).eraseDups = if a ∈ l then l.eraseDups else l.eraseDups ++ [a] := by
  rw [List.eraseDups_append]
  by_cases h : a ∈ l
  · simp [List.removeAll, h]
  · simp [List.removeAll, h, List.eraseDups_cons]

/-- One more step uses one more key, unless an entity had its key or another step used it before. -/
theorem newKeys_concat (es : List Entity) (steps : List Step) (step : Step) :
    newKeys es (steps ++ [step]) =
      if step.key ∈ es.map Entity.key ∨ step.key ∈ steps.map key then newKeys es steps
      else newKeys es steps ++ [step.key] := by
  rw [newKeys, List.map_append, List.filter_append]
  by_cases hold : step.key ∈ es.map Entity.key
  · have hnone : ([step].map key).filter (fun k => k ∉ es.map Entity.key) = [] := by
      simpa using hold
    rw [if_pos (.inl hold), hnone, List.append_nil, newKeys]
  · have hone : ([step].map key).filter (fun k => k ∉ es.map Entity.key) = [step.key] := by
      simpa using hold
    rw [hone, eraseDups_concat]
    simp only [List.mem_filter, decide_eq_true_eq, hold, not_false_eq_true, and_true, false_or]
    rfl

/-- An entity without sets. -/
def ofKey (key : EntityKey) : Entity := ⟨key, []⟩

/-- The entities after steps: those that were there and behind them the new ones, each with the sets that the steps
add to it. -/
def result (es : List Entity) (steps : List Step) : List Entity :=
  (es ++ (newKeys es steps).map ofKey).map (extend steps)

theorem map_key_result (es : List Entity) (steps : List Step) :
    (result es steps).map Entity.key = es.map Entity.key ++ newKeys es steps := by
  have hkey : Entity.key ∘ extend steps = Entity.key := rfl
  have hnew : Entity.key ∘ ofKey = id := rfl
  rw [result, List.map_map, hkey, List.map_append, List.map_map, hnew, List.map_id]

/-- One more step changes the result as it changes any list of entities. -/
theorem result_concat (es : List Entity) (steps : List Step) (step : Step) :
    result es (steps ++ [step]) = onEntities (result es steps) step := by
  have hkeys : step.key ∈ (result es steps).map Entity.key ↔
      step.key ∈ es.map Entity.key ∨ step.key ∈ steps.map key := by
    rw [map_key_result, List.mem_append, mem_newKeys_iff]
    tauto
  have hentities : withKey (result es steps) step.key =
      (es ++ (newKeys es (steps ++ [step])).map ofKey).map (extend steps) := by
    rw [withKey, newKeys_concat]
    by_cases hold : step.key ∈ es.map Entity.key ∨ step.key ∈ steps.map key
    · rw [if_pos (hkeys.2 hold), if_pos hold, result]
    · have hfresh : extend steps (ofKey step.key) = ⟨step.key, []⟩ := by
        rw [extend, ofKey, setsUnder_eq_nil (not_or.1 hold).2, List.append_nil]
      rw [if_neg (mt hkeys.1 hold), if_neg hold]
      simp only [result, List.map_append, List.map_singleton, hfresh, List.append_assoc]
  cases step with
  | ensure key =>
    have hextend : extend (steps ++ [ensure key]) = extend steps := by
      funext e
      rw [extend, setsUnder_concat]
      simp [appended, extend]
    rw [result, hextend]
    exact hentities.symm
  | append key set =>
    have hextend : extend (steps ++ [append key set]) = Entity.withSet key set ∘ extend steps := by
      funext e
      rw [extend, setsUnder_concat, Function.comp, Entity.withSet]
      by_cases h : e.key = key
      · simp [extend, appended, h]
      · simp [extend, appended, h, Ne.symm h]
    rw [result, hextend, ← List.map_map, onEntities]
    exact congrArg _ hentities.symm

theorem foldl_onEntities (es : List Entity) (steps : List Step) :
    steps.foldl onEntities es = result es steps := by
  induction steps using List.reverseRecOn with
  | nil =>
    have hextend : extend [] = id := by
      funext e
      simp [extend, setsUnder]
    simp [result, newKeys, hextend]
  | append_singleton rest step ih =>
    rw [List.foldl_append, ih, result_concat]
    rfl

end Step

/-! ### The steps of a run -/

namespace Populator

/-- The steps of a run in order, each with the group and the raw ID of the raw entity that it is for. -/
def stepsBy (p : Populator) (groups : RawGroups) (specs : SpecGroups) :
    List ((String × String) × Step) :=
  (p.reports groups specs).filterMap fun r => r.2.2.step.map fun step => ((r.1, r.2.1), step)

variable {p : Populator} {groups : RawGroups} {specs : SpecGroups}

theorem map_snd_stepsBy (p : Populator) (groups : RawGroups) (specs : SpecGroups) :
    (p.stepsBy groups specs).map Prod.snd = PopulateOutcome.steps (p.reports groups specs) := by
  rw [stepsBy, List.map_filterMap, PopulateOutcome.steps]
  congr 1
  funext r
  cases r.2.2.step <;> rfl

/-- A run applies its steps in order. -/
theorem populate_eq (p : Populator) (groups : RawGroups) (specs : SpecGroups) (store : EntityStore) :
    p.populate groups specs store = (.ofReports (p.reports groups specs),
      ((p.stepsBy groups specs).map Prod.snd).foldl Step.apply store) := by
  rw [map_snd_stepsBy]
  rfl

/-- The steps of a run are those that its raw entities report. -/
theorem mem_stepsBy_iff {group id : String} {step : Step} :
    ((group, id), step) ∈ p.stepsBy groups specs ↔
      ∃ spec, specs.get? group = some spec ∧ (groups.entity? group id).isSome ∧
        (p.report spec group id groups).step = some step := by
  simp only [stepsBy, reports, List.mem_filterMap, List.mem_map, Option.map_eq_some_iff]
  constructor
  · rintro ⟨_, ⟨⟨g, i, spec⟩, hmem, rfl⟩, step', hstep, heq⟩
    obtain ⟨hplace, rfl⟩ := Prod.mk.inj heq
    obtain ⟨rfl, rfl⟩ := Prod.mk.inj hplace
    obtain ⟨hspec, hsome⟩ := mem_subjects_iff.1 hmem
    exact ⟨spec, hspec, hsome, hstep⟩
  · rintro ⟨spec, hspec, hsome, hstep⟩
    exact ⟨_, ⟨(group, id, spec), mem_subjects_iff.2 ⟨hspec, hsome⟩, rfl⟩, step, hstep, rfl⟩

/-- A set that a run appends is among the sets of the entity with its key. -/
theorem mem_sets_of_mem_stepsBy {store : EntityStore} (hstore : store.Indexed)
    {place : String × String} {key : EntityKey} {set : MetricSet}
    (h : (place, Step.append key set) ∈ p.stepsBy groups specs) :
    ∃ e ∈ (p.populate groups specs store).2.entities.toList, e.key = key ∧ set ∈ e.sets := by
  rw [populate_eq, ← (hstore.run _).mem_setsOf_iff, hstore.setsOf_run]
  refine List.mem_append_right _ (List.mem_map.2 ⟨(key, set), List.mem_filter.2 ⟨?_, ?_⟩, rfl⟩)
  · exact List.mem_flatMap.2 ⟨_, List.mem_map_of_mem h, List.mem_singleton_self _⟩
  · exact decide_eq_true rfl

theorem map_fst_filterMap_sublist {α β γ : Type} (f : α → Option β) (g : α → γ) (l : List α) :
    ((l.filterMap fun a => (f a).map fun b => (g a, b)).map Prod.fst).Sublist (l.map g) := by
  induction l with
  | nil => exact List.Sublist.slnil
  | cons a rest ih =>
    cases h : f a with
    | none => simpa [h] using ih.cons (g a)
    | some b => simpa [h] using ih.cons_cons (g a)

/-- No raw entity has two steps. -/
theorem nodup_stepsBy (p : Populator) (groups : RawGroups) (specs : SpecGroups) :
    ((p.stepsBy groups specs).map Prod.fst).Nodup := by
  have hsub := map_fst_filterMap_sublist (fun r : String × String × EntityReport => r.2.2.step)
    (fun r => (r.1, r.2.1)) (p.reports groups specs)
  rw [reports, List.map_map] at hsub
  exact hsub.nodup (nodup_subjects groups specs)

/-- A step is for an entity with names that are not empty. -/
theorem ofNames_of_step {spec : SpecGroup} {group id : String} {step : Step}
    (h : (p.report spec group id groups).step = some step) :
    EntityKey.ofNames step.key.name step.key.type = .ok step.key := by
  cases hkey : p.keyOf spec group id groups with
  | error cause => simp [report_of_keyOf_error hkey] at h
  | ok key =>
    have hstep : step.key = key := by
      cases htype : p.eventTyper p.cluster group id groups with
      | error e =>
        rw [report_of_eventTyper_error hkey htype] at h
        rw [← Option.some.inj h, Step.key]
      | ok eventType =>
        rw [report_of_eventTyper_ok hkey htype] at h
        rw [← Option.some.inj h]
        split <;> rfl
    obtain ⟨-, -, hname, htype⟩ := keyOf_eq_ok_iff.1 hkey
    rw [hstep]
    exact EntityKey.ofNames_of_named hname htype

/-- A run on a store that was made by the operations of stores gives one that they can make. -/
theorem built_populate {store : EntityStore} (h : store.Built) (p : Populator) (groups : RawGroups)
    (specs : SpecGroups) : (p.populate groups specs store).2.Built := by
  have hrun : ∀ (steps : List ((String × String) × Step)) (s : EntityStore), s.Built →
      (∀ x ∈ steps, EntityKey.ofNames x.2.key.name x.2.key.type = .ok x.2.key) →
      ((steps.map Prod.snd).foldl Step.apply s).Built := by
    intro steps
    induction steps with
    | nil => exact fun s hs _ => hs
    | cons x rest ih =>
      intro s hs hnames
      obtain ⟨hx, hrest⟩ := List.forall_mem_cons.1 hnames
      exact ih _ (hs.apply hx) hrest
  rw [populate_eq]
  refine hrun _ _ h ?_
  rintro ⟨⟨group, id⟩, step⟩ hmem
  obtain ⟨spec, -, -, hstep⟩ := mem_stepsBy_iff.1 hmem
  exact ofNames_of_step hstep

theorem populated_iff (p : Populator) (groups : RawGroups) (specs : SpecGroups) :
    (PopulateOutcome.ofReports (p.reports groups specs)).populated = true ↔
      ∃ key set, Step.append key set ∈ (p.stepsBy groups specs).map Prod.snd := by
  rw [map_snd_stepsBy, PopulateOutcome.ofReports, List.any_eq_true]
  constructor
  · rintro ⟨step, hmem, happend⟩
    cases step with
    | ensure key => simp [PopulateOutcome.isAppend] at happend
    | append key set => exact ⟨key, set, hmem⟩
  · rintro ⟨key, set, hmem⟩
    exact ⟨_, hmem, rfl⟩

/-- Populating a store only adds to it, and neither the outcome nor what is added depends on the store: each raw entity
makes at most one step, and the steps leave what was there in its place, with sets added at the end of
entities and new entities behind the others. -/
theorem populate_appends (p : Populator) (groups : RawGroups) (specs : SpecGroups) :
    let steps := (p.stepsBy groups specs).map Prod.snd
    ((p.stepsBy groups specs).map Prod.fst).Nodup ∧
    ∃ outcome : PopulateOutcome,
      (outcome.populated = true ↔ ∃ key set, Step.append key set ∈ steps) ∧
      ∀ store : EntityStore, store.Built →
        p.populateInPlace groups specs store = (outcome, steps.foldl Step.apply store) ∧
        p.populate groups specs store = (outcome, steps.foldl Step.apply store) ∧
        (p.populate groups specs store).2.Built ∧
        (p.populate groups specs store).2.entities.toList =
          (store.entities.toList ++ (Step.newKeys store.entities.toList steps).map Step.ofKey).map
            (Step.extend steps) := by
  intro steps
  refine ⟨p.nodup_stepsBy groups specs, .ofReports (p.reports groups specs),
    p.populated_iff groups specs, fun store hstore => ?_⟩
  refine ⟨?_, p.populate_eq groups specs store, built_populate hstore p groups specs, ?_⟩
  · rw [populateInPlace_eq, populate_eq]
  · rw [populate_eq, hstore.indexed.toList_run, Step.foldl_onEntities]
    rfl

/-- Raw pods of which two have a number of replicas, in a group beside one without specifications. -/
def podReplicas : RawGroups :=
  .ofList [("node", .ofList [("n1", .empty)]),
    ("pod", .ofList [("a", .ofList [("replicas", .scalar (.uint 2))]),
      ("b", .ofList [("replicas", .scalar (.str "two"))]),
      ("c", .ofList [("replicas", .scalar (.uint 3))])])]

/-- Specifications by which all raw pods are one entity. -/
def sharedPod : SpecGroups :=
  .ofList [("pod", ⟨some fun _ _ _ => .ok "web", some fun _ _ _ cluster => .ok cluster,
    [⟨"replicas", Fetch.raw "replicas", .gauge⟩]⟩)]

/-- A store with an entity that has a set. -/
def stockedStore : EntityStore :=
  .append .empty ⟨"db", "prod"⟩ (.ofEventType "K8sPodSample")

theorem populate_appends_sharedPod : stockedStore.Built ∧
    ((Catalog.populator "prod").populate podReplicas sharedPod stockedStore).1.populated = true ∧
    ((Catalog.populator "prod").populate podReplicas sharedPod stockedStore).2.entities.toList.map
      (fun e => (e.key.name, e.sets.length)) = [("db", 1), ("web", 2)] := by
  have hnames : EntityKey.ofNames "db" "prod" = .ok ⟨"db", "prod"⟩ := rfl
  have hbuilt : (Step.apply .empty (.append ⟨"db", "prod"⟩ (.ofEventType "K8sPodSample"))).Built :=
    EntityStore.Built.empty.apply hnames
  have hentities : stockedStore.entities.toList =
      [⟨⟨"db", "prod"⟩, [.ofEventType "K8sPodSample"]⟩] :=
    EntityStore.indexed_empty.toList_apply (.append ⟨"db", "prod"⟩ (.ofEventType "K8sPodSample"))
  obtain ⟨-, outcome, -, hruns⟩ :=
    populate_appends (Catalog.populator "prod") podReplicas sharedPod
  obtain ⟨-, -, -, hresult⟩ := hruns stockedStore hbuilt
  refine ⟨hbuilt, by decide +kernel, ?_⟩
  rw [hresult, hentities]
  decide +kernel

end Populator

end NodeTelemetry
