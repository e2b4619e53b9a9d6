import Mathlib.Control.Monad.Basic
import NodeTelemetry.Proofs.Entity.Requests
import NodeTelemetry.Proofs.Pass.Requests
import NodeTelemetry.Proofs.Populate.Recorded
import NodeTelemetry.Proofs.Populate.Steps

/-!
# What a pass reports

A pass with a kubelet collects kube-state-metrics on the leader and then the kubelet. Its report has one entry for
each of these collections, behind an entry for kube-state-metrics where this is not found at all. Its store is what
the collections make of an empty one, one after the other. There is no report without any metric.

## Main definitions

* `Populator.Writes`: a run writes a metric.
* `Collection`, `Pass.collections`: the sources that a pass collects, with what comes back from them.
* `Collection.Told`: an entry tells what became of a collection.
* `PassReport.Truthful`: a report tells what became of a pass.

## Main statements

* `Pass.result_stagesOf_eq`: the result of a pass from its collections.
* `Pass.run_reports_truthfully`: when a pass has a report, and that the report is true.
-/

namespace NodeTelemetry

/-! ### Sets in a store -/

namespace EntityStore

variable {s : EntityStore} {set : MetricSet}

theorem Indexed.holds_iff (h : s.Indexed) : s.Holds set ↔ ∃ key, set ∈ s.setsOf key := by
  constructor
  · rintro ⟨e, he, hset⟩
    exact ⟨e.key, h.mem_setsOf_iff.2 ⟨e, he, rfl, hset⟩⟩
  · rintro ⟨key, hset⟩
    obtain ⟨e, he, -, hset⟩ := h.mem_setsOf_iff.1 hset
    exact ⟨e, he, hset⟩

/-- What steps make of an empty store holds the sets that they append. -/
theorem holds_run_empty_iff {steps : List Step} :
    (steps.foldl Step.apply empty).Holds set ↔ ∃ key, Step.append key set ∈ steps := by
  rw [(indexed_empty.run steps).holds_iff]
  simp [indexed_empty.setsOf_run, setsOf_empty, Step.mem_appended_iff]

end EntityStore

/-! ### Runs that write -/

namespace Populator

/-- A write for some raw entity is accepted. The raw entity has specifications, a key and an event type. -/
def Writes (p : Populator) (groups : RawGroups) (specs : SpecGroups) : Prop :=
  ∃ group id spec key eventType, specs.get? group = some spec ∧ (groups.entity? group id).isSome ∧
    p.keyOf spec group id groups = .ok key ∧ p.eventTyper p.cluster group id groups = .ok eventType ∧
    HasAccepted spec group id groups

variable {p : Populator} {groups : RawGroups} {specs : SpecGroups}

/-- A run writes a metric where it appends a set. -/
theorem writes_iff : p.Writes groups specs ↔
    ∃ key set, Step.append key set ∈ PopulateOutcome.steps (p.reports groups specs) := by
  rw [← map_snd_stepsBy]
  simp only [List.mem_map, Prod.exists, exists_eq_right, mem_stepsBy_iff, report_step_append_iff,
    isAccepted_attempts_iff]
  constructor
  · rintro ⟨group, id, spec, key, eventType, hspec, hentity, hkey, htype, haccepted⟩
    exact ⟨key, _, group, id, spec, hspec, hentity, hkey, ⟨eventType, htype, rfl⟩, haccepted⟩
  · rintro ⟨key, set, group, id, spec, hspec, hentity, hkey, ⟨eventType, htype, -⟩, haccepted⟩
    exact ⟨group, id, spec, key, eventType, hspec, hentity, hkey, htype, haccepted⟩

/-- A run says that it populated the store where it writes a metric. -/
theorem populated_iff_writes (store : EntityStore) :
    (p.populate groups specs store).1.populated = true ↔ p.Writes groups specs := by
  rw [writes_iff, ← map_snd_stepsBy]
  exact p.populated_iff groups specs

/-- A run fills an empty store with a set where it writes a metric. -/
theorem exists_holds_populate_iff :
    (∃ set, (p.populate groups specs .empty).2.Holds set) ↔ p.Writes groups specs := by
  have hholds (set : MetricSet) : (p.populate groups specs .empty).2.Holds set ↔
      ∃ key, Step.append key set ∈ PopulateOutcome.steps (p.reports groups specs) :=
    EntityStore.holds_run_empty_iff
  simp only [hholds, writes_iff]
  exact exists_comm

end Populator

/-! ### Collections -/

/-- A source that is collected, with what comes back from it. -/
structure Collection where
  source : Source
  specs : SpecGroups
  result : Except GroupError SourceGroups

namespace Collection

variable {populator : Populator} {c : Collection}

/-- A metric is written from the collection. -/
def Writes (populator : Populator) (c : Collection) : Prop :=
  ∃ data, c.result = .ok data ∧ populator.Writes data.groups c.specs

/-- What a collection makes of a store. -/
def fill (populator : Populator) (store : EntityStore) (c : Collection) : EntityStore :=
  match c.result with
  | .ok data => (populator.populate data.groups c.specs store).2
  | .error _ => store

/-- What a pass makes of a collection. -/
def collected (populator : Populator) (store : EntityStore) (c : Collection) : Collected :=
  Pass.populateSource c.source populator c.specs c.result store

/-- The entry for a collection in a report. -/
def entry (populator : Populator) (c : Collection) : SourceReport :=
  (c.collected populator .empty).report

/-- An entry tells what became of a collection. -/
structure Told (populator : Populator) (c : Collection) (e : SourceReport) : Prop where
  source_eq : e.source = c.source
  populated_iff : e.populated = true ↔ c.Writes populator
  of_error : ∀ failure, c.result = .error failure →
    e.failure = some failure.message ∧ e.populated = false ∧ e.errors = 0
  of_ok : ∀ data, c.result = .ok data → e.failure = none ∧
    ∀ store, e.errors = data.errors.length + (populator.populate data.groups c.specs store).1.errors.length

theorem Told.of_failure {e : SourceReport} (h : c.Told populator e) (hfailure : e.failure ≠ none) :
    e.populated = false ∧ e.errors = 0 := by
  cases hresult : c.result with
  | error failure => exact (h.of_error failure hresult).2
  | ok data => exact absurd (h.of_ok data hresult).1 hfailure

theorem Told.of_not_failure {e : SourceReport} (h : c.Told populator e) (hfailure : e.failure = none) :
    ∃ data, c.result = .ok data ∧ ∀ store, e.errors =
      data.errors.length + (populator.populate data.groups c.specs store).1.errors.length := by
  cases hresult : c.result with
  | error failure => simp [(h.of_error failure hresult).1] at hfailure
  | ok data => exact ⟨data, rfl, (h.of_ok data hresult).2⟩

theorem told_entry (populator : Populator) (c : Collection) : c.Told populator (c.entry populator) := by
  obtain ⟨source, specs, result⟩ := c
  cases result with
  | error failure =>
    refine ⟨rfl, ?_, ?_, ?_⟩
    · simp [entry, collected, Pass.populateSource, SourceReport.failed, Writes]
    · rintro _ ⟨⟩
      exact ⟨rfl, rfl, rfl⟩
    · rintro _ ⟨⟩
  | ok data =>
    refine ⟨rfl, ?_, ?_, ?_⟩
    · simp only [Writes, Except.ok.injEq, exists_eq_left']
      exact Populator.populated_iff_writes .empty
    · rintro _ ⟨⟩
    · rintro _ ⟨⟩
      exact ⟨rfl, fun _ => rfl⟩

theorem fill_eq (populator : Populator) (store : EntityStore) (c : Collection) : c.fill populator store =
    (Pass.populateSteps populator c.specs c.result).foldl Step.apply store := by
  obtain ⟨source, specs, result⟩ := c
  cases result <;> rfl

@[simp] theorem store_collected (populator : Populator) (store : EntityStore) (c : Collection) :
    (c.collected populator store).store = c.fill populator store := by
  rw [collected, Pass.store_populateSource, fill_eq]

/-- The entry for a collection does not depend on the store. -/
@[simp] theorem report_collected (populator : Populator) (store : EntityStore) (c : Collection) :
    (c.collected populator store).report = c.entry populator :=
  Pass.report_populateSource store .empty

/-- A collection from which nothing is written leaves no set in a store. -/
theorem exists_holds_fill_iff : (∃ set, (c.fill populator .empty).Holds set) ↔ c.Writes populator := by
  rw [Writes, fill]
  cases c.result with
  | error e => simp [EntityStore.Holds, EntityStore.empty]
  | ok data => simpa using Populator.exists_holds_populate_iff

theorem indexed_fill {store : EntityStore} (h : store.Indexed) (c : Collection) :
    (c.fill populator store).Indexed := by
  rw [fill_eq]
  exact h.run _

theorem indexed_foldl_fill {store : EntityStore} (h : store.Indexed) (cs : List Collection) :
    (cs.foldl (fill populator) store).Indexed := by
  induction cs generalizing store with
  | nil => exact h
  | cons c rest ih => exact ih (indexed_fill h c)

/-- A collection adds the sets that it makes of an empty store behind those that are there. -/
theorem setsOf_fill {store : EntityStore} (h : store.Indexed) (c : Collection) (key : EntityKey) :
    (c.fill populator store).setsOf key = store.setsOf key ++ (c.fill populator .empty).setsOf key := by
  rw [fill_eq, fill_eq, h.setsOf_run, EntityStore.indexed_empty.setsOf_run, EntityStore.setsOf_empty, List.nil_append]

theorem setsOf_foldl_fill {store : EntityStore} (h : store.Indexed) (cs : List Collection) (key : EntityKey) :
    (cs.foldl (fill populator) store).setsOf key =
      store.setsOf key ++ cs.flatMap fun c => (c.fill populator .empty).setsOf key := by
  induction cs generalizing store with
  | nil => simp
  | cons c rest ih =>
    rw [List.foldl_cons, ih (indexed_fill h c), setsOf_fill h c, List.flatMap_cons, List.append_assoc]

/-- Collections fill an empty store with the sets that each of them makes of one. -/
theorem holds_foldl_fill_iff {cs : List Collection} {set : MetricSet} :
    (cs.foldl (fill populator) .empty).Holds set ↔ ∃ c ∈ cs, (c.fill populator .empty).Holds set := by
  rw [(indexed_foldl_fill EntityStore.indexed_empty cs).holds_iff]
  simp only [setsOf_foldl_fill EntityStore.indexed_empty, EntityStore.setsOf_empty, List.nil_append,
    List.mem_flatMap, (indexed_fill EntityStore.indexed_empty _).holds_iff]
  constructor
  · rintro ⟨key, c, hc, hset⟩
    exact ⟨c, hc, key, hset⟩
  · rintro ⟨c, hc, key, hset⟩
    exact ⟨key, c, hc, hset⟩

end Collection

/-! ### The collections of a pass -/

namespace Pass

/-- The collection of kube-state-metrics by a client. -/
def stateMetricsCollection (catalog : Catalog) (w : Surroundings) (client : SourceClient) : Collection where
  source := .stateMetrics
  specs := catalog.stateMetrics.specs
  result := (StateMetrics.collect client w catalog.stateMetrics.queries catalog.stateMetrics.specs.keys).run.value

/-- The collection of the kubelet by a client. -/
def kubeletCollection (catalog : Catalog) (config : PassConfig) (w : Surroundings) (client : SourceClient) :
    Collection where
  source := .kubelet
  specs := catalog.kubelet.specs
  result := (Kubelet.collect client w catalog.kubelet.queries config.timeout).run.value

/-- The collections of a pass with a client for the kubelet, in order: that of kube-state-metrics on the leader, and
that of the kubelet. -/
def collections (catalog : Catalog) (config : PassConfig) (w : Surroundings) (kubelet : SourceClient)
    (stateMetrics : Except DiscoveryError SourceClient) : List Collection :=
  (leadingClient? kubelet stateMetrics).toList.map (stateMetricsCollection catalog w) ++
    [kubeletCollection catalog config w kubelet]

/-- The entry for kube-state-metrics where it is not found. -/
def notFound (stateMetrics : Except DiscoveryError SourceClient) : List SourceReport :=
  match stateMetrics with
  | .error e => [.failed .stateMetrics e.message]
  | .ok _ => []

variable {catalog : Catalog} {config : PassConfig} {w : Surroundings} {kubelet : SourceClient}
  {stateMetrics : Except DiscoveryError SourceClient}

theorem leading_stagesOf : (stagesOf catalog config w kubelet stateMetrics).leading =
    (leadingClient? kubelet stateMetrics).map fun client =>
      (stateMetricsCollection catalog w client).collected (Catalog.populator config.clusterName) .empty := by
  rw [stagesOf, collectStateMetrics_eq]
  cases leadingClient? kubelet stateMetrics <;> rfl

theorem own_stagesOf : (stagesOf catalog config w kubelet stateMetrics).own =
    (kubeletCollection catalog config w kubelet).collected (Catalog.populator config.clusterName)
      (stagesOf catalog config w kubelet stateMetrics).before := rfl

/-- The entries of a report on a pass with a client for the kubelet. -/
def entries (catalog : Catalog) (config : PassConfig) (w : Surroundings) (kubelet : SourceClient)
    (stateMetrics : Except DiscoveryError SourceClient) : List SourceReport :=
  notFound stateMetrics ++ (collections catalog config w kubelet stateMetrics).map
    (Collection.entry (Catalog.populator config.clusterName))

/-- What the collections of a pass make of an empty store. -/
def filled (catalog : Catalog) (config : PassConfig) (w : Surroundings) (kubelet : SourceClient)
    (stateMetrics : Except DiscoveryError SourceClient) : EntityStore :=
  (collections catalog config w kubelet stateMetrics).foldl
    (Collection.fill (Catalog.populator config.clusterName)) .empty

/-- The result of a pass is the verdict on its collections. -/
theorem result_stagesOf_eq : (stagesOf catalog config w kubelet stateMetrics).result =
    verdict (role kubelet stateMetrics) (entries catalog config w kubelet stateMetrics)
      (filled catalog config w kubelet stateMetrics) := by
  have hreports (leading : Option Collected) (own : Collected) : reports stateMetrics leading own =
      notFound stateMetrics ++ ((leading.map Collected.report).toList ++ [own.report]) := by
    cases stateMetrics <;> rfl
  have hrole : (stagesOf catalog config w kubelet stateMetrics).role = role kubelet stateMetrics := rfl
  have hstateMetrics : (stagesOf catalog config w kubelet stateMetrics).stateMetrics = stateMetrics := rfl
  rw [Stages.result, hstateMetrics, hreports, hrole, own_stagesOf, Stages.before, leading_stagesOf, entries, filled,
    collections]
  cases leadingClient? kubelet stateMetrics <;> simp

/-! ### The entries of a report -/

section Entries

variable {c c' : Collection} {e : SourceReport}

theorem mem_collections_iff : c ∈ collections catalog config w kubelet stateMetrics ↔
    (∃ client, leadingClient? kubelet stateMetrics = some client ∧ c = stateMetricsCollection catalog w client) ∨
      c = kubeletCollection catalog config w kubelet := by
  simp [collections, eq_comm]

/-- No source is collected twice. -/
theorem collection_unique (hc : c ∈ collections catalog config w kubelet stateMetrics)
    (hc' : c' ∈ collections catalog config w kubelet stateMetrics) (h : c.source = c'.source) : c = c' := by
  rcases mem_collections_iff.1 hc with ⟨client, hclient, rfl⟩ | rfl <;>
    rcases mem_collections_iff.1 hc' with ⟨client', hclient', rfl⟩ | rfl
  · rw [Option.some.inj (hclient.symm.trans hclient')]
  · cases h
  · cases h
  · rfl

/-- Where kube-state-metrics is not found it is not collected. -/
theorem source_ne_of_mem_notFound (he : e ∈ notFound stateMetrics)
    (hc : c ∈ collections catalog config w kubelet stateMetrics) : c.source ≠ e.source := by
  cases stateMetrics with
  | ok client => cases he
  | error failure =>
    obtain rfl := List.mem_singleton.1 he
    obtain rfl := List.mem_singleton.1 hc
    exact Source.noConfusion

theorem failed_of_mem_notFound (he : e ∈ notFound stateMetrics) :
    e.failure ≠ none ∧ e.populated = false ∧ e.errors = 0 := by
  cases stateMetrics with
  | ok client => cases he
  | error failure =>
    obtain rfl := List.mem_singleton.1 he
    exact ⟨Option.some_ne_none _, rfl, rfl⟩

/-- An entry is the one for kube-state-metrics that is not found, or it tells what became of a collection. -/
theorem mem_entries_cases (he : e ∈ entries catalog config w kubelet stateMetrics) :
    e ∈ notFound stateMetrics ∨ ∃ c ∈ collections catalog config w kubelet stateMetrics,
      c.Told (Catalog.populator config.clusterName) e := by
  rcases List.mem_append.1 he with hmissing | hentry
  · exact .inl hmissing
  · obtain ⟨c, hc, rfl⟩ := List.mem_map.1 hentry
    exact .inr ⟨c, hc, c.told_entry _⟩

/-- The sources of the entries, of which the kubelet is always the last. -/
theorem map_source_entries : (entries catalog config w kubelet stateMetrics).map SourceReport.source =
    (notFound stateMetrics).map SourceReport.source ++
      ((leadingClient? kubelet stateMetrics).toList.map fun _ => .stateMetrics) ++ [.kubelet] := by
  have hsource : SourceReport.source ∘ Collection.entry (Catalog.populator config.clusterName) =
      Collection.source := funext fun c => (c.told_entry _).source_eq
  rw [entries, List.map_append, List.map_map, hsource, collections, List.map_append, List.map_map, List.append_assoc]
  rfl

/-- Kube-state-metrics has an entry where it is not found and where it is collected. -/
theorem map_source_entries_of_stateMetrics
    (h : (∃ e, stateMetrics = .error e) ∨ role kubelet stateMetrics = .leader) :
    (entries catalog config w kubelet stateMetrics).map SourceReport.source = [.stateMetrics, .kubelet] := by
  rw [map_source_entries, leadingClient?]
  cases stateMetrics with
  | error e => rfl
  | ok client =>
    rw [if_pos (h.resolve_left (by simp))]
    rfl

theorem map_source_entries_of_kubelet
    (h : ¬ ((∃ e, stateMetrics = .error e) ∨ role kubelet stateMetrics = .leader)) :
    (entries catalog config w kubelet stateMetrics).map SourceReport.source = [.kubelet] := by
  rw [map_source_entries, leadingClient?, if_neg (not_or.1 h).2]
  cases stateMetrics with
  | error e => exact absurd (.inl ⟨e, rfl⟩) h
  | ok client => rfl

/-- Some source is populated where something is written from a collection. -/
theorem any_populated_iff : (entries catalog config w kubelet stateMetrics).any SourceReport.populated = true ↔
    ∃ c ∈ collections catalog config w kubelet stateMetrics, c.Writes (Catalog.populator config.clusterName) := by
  have hnone : (notFound stateMetrics).any SourceReport.populated = false := by
    cases stateMetrics <;> rfl
  rw [entries, List.any_append, hnone, Bool.false_or, List.any_map, List.any_eq_true]
  simp only [Function.comp, (Collection.told_entry _ _).populated_iff]

end Entries

end Pass

/-! ### The report -/

/-- A report tells what became of a pass with a connection to kube-state-metrics and with collections. -/
structure PassReport.Truthful (report : PassReport) (populator : Populator)
    (stateMetrics : Except DiscoveryError SourceClient) (cs : List Collection) : Prop where
  /-- Kube-state-metrics has an entry where it is not found and where it is collected. -/
  sources_of_stateMetrics : (∃ e, stateMetrics = .error e) ∨ report.role = .leader →
    report.sources.map SourceReport.source = [.stateMetrics, .kubelet]
  sources_of_kubelet : ¬ ((∃ e, stateMetrics = .error e) ∨ report.role = .leader) →
    report.sources.map SourceReport.source = [.kubelet]
  told : ∃ entries, report.sources = Pass.notFound stateMetrics ++ entries ∧
    List.Forall₂ (Collection.Told populator) cs entries
  failed : ∀ e ∈ report.sources, e.failure ≠ none → e.populated = false ∧ e.errors = 0
  counted : ∀ e ∈ report.sources, e.failure = none → ∃ c ∈ cs, c.source = e.source ∧
    ∃ data, c.result = .ok data ∧ ∀ store, e.errors =
      data.errors.length + (populator.populate data.groups c.specs store).1.errors.length
  store_eq : report.store = cs.foldl (Collection.fill populator) .empty
  /-- The store has the sets that each collection makes of an empty store, one collection after the other. -/
  setsOf_store : ∀ key, report.store.setsOf key =
    cs.flatMap fun c => (c.fill populator .empty).setsOf key
  holds : ∃ set, report.store.Holds set
  unpopulated : ∀ e ∈ report.sources, e.populated = false → ∀ c ∈ cs, c.source = e.source →
    ∀ set, ¬ (c.fill populator .empty).Holds set

namespace Pass

section Result

variable {catalog : Catalog} {config : PassConfig} {w : Surroundings} {kubelet : SourceClient}
  {stateMetrics : Except DiscoveryError SourceClient}

theorem verdict_eq_ok_iff {role : Role} {sources : List SourceReport} {store : EntityStore} {report : PassReport} :
    verdict role sources store = .ok report ↔
      sources.any SourceReport.populated = true ∧ report = ⟨role, store, sources⟩ := by
  rw [verdict]
  split
  · next h => simp [h, eq_comm]
  · next h => simp [h]

theorem verdict_eq_error_iff {role : Role} {sources : List SourceReport} {store : EntityStore} {e : PassError} :
    verdict role sources store = .error e ↔
      ¬ sources.any SourceReport.populated = true ∧ e = .nothingPopulated := by
  rw [verdict]
  split
  · next h => simp [h]
  · next h => simp [h, eq_comm]

/-- The report of a pass is true. -/
theorem truthful_of_result {report : PassReport}
    (h : (stagesOf catalog config w kubelet stateMetrics).result = .ok report) :
    report.role = role kubelet stateMetrics ∧ report.Truthful (Catalog.populator config.clusterName)
      stateMetrics (collections catalog config w kubelet stateMetrics) := by
  rw [result_stagesOf_eq, verdict_eq_ok_iff, any_populated_iff] at h
  obtain ⟨⟨source, hsource, hwrites⟩, rfl⟩ := h
  refine ⟨rfl, map_source_entries_of_stateMetrics, map_source_entries_of_kubelet, ⟨_, rfl, ?_⟩, ?_, ?_, rfl,
    ?_, ?_, ?_⟩
  · rw [List.forall₂_map_right_iff, List.forall₂_same]
    exact fun c _ => c.told_entry _
  · intro e he hfailure
    rcases mem_entries_cases he with hmissing | ⟨c, -, htold⟩
    · exact (failed_of_mem_notFound hmissing).2
    · exact htold.of_failure hfailure
  · intro e he hfailure
    rcases mem_entries_cases he with hmissing | ⟨c, hc, htold⟩
    · exact absurd hfailure (failed_of_mem_notFound hmissing).1
    · exact ⟨c, hc, htold.source_eq.symm, htold.of_not_failure hfailure⟩
  · intro key
    rw [filled, Collection.setsOf_foldl_fill EntityStore.indexed_empty, EntityStore.setsOf_empty, List.nil_append]
  · obtain ⟨set, hset⟩ := Collection.exists_holds_fill_iff.2 hwrites
    exact ⟨set, Collection.holds_foldl_fill_iff.2 ⟨source, hsource, hset⟩⟩
  · intro e he hpopulated c hc hsource set hset
    rcases mem_entries_cases he with hmissing | ⟨c', hc', htold⟩
    · exact source_ne_of_mem_notFound hmissing hc hsource
    · obtain rfl := collection_unique hc hc' (hsource.trans htold.source_eq)
      have hwrites := Collection.exists_holds_fill_iff.1 ⟨set, hset⟩
      simp [htold.populated_iff.2 hwrites] at hpopulated

end Result

/-- A pass fails to find the kubelet where its connection to the kubelet fails, and then it requests nothing. Any other
pass requests what it needs for its role; it has a report if a metric is written from one of its collections, and this
report is true. -/
theorem run_reports_truthfully (catalog : Catalog) (config : PassConfig) (w : Surroundings) (now : Time.Instant)
    (cache : EndpointCache) :
    let pass := run catalog config w now cache
    let populator := Catalog.populator config.clusterName
    let stateMetrics := (stateMetricsConnection config w now cache).client
    (∀ e, pass.value.result = .error (.kubeletDiscovery e) ↔
      (kubeletConnection config w now cache).client = .error e) ∧
    (∀ e, (kubeletConnection config w now cache).client = .error e → pass.requests = []) ∧
    ∀ kubelet, (kubeletConnection config w now cache).client = .ok kubelet →
      let cs := collections catalog config w kubelet stateMetrics
      ((∃ report, pass.value.result = .ok report) ↔ ∃ c ∈ cs, c.Writes populator) ∧
      (pass.value.result = .error .nothingPopulated ↔ ¬ ∃ c ∈ cs, c.Writes populator) ∧
      pass.requests = requestsOf kubelet stateMetrics ∧
      ∀ report, pass.value.result = .ok report →
        report.role = role kubelet stateMetrics ∧ report.Truthful populator stateMetrics cs := by
  intro pass populator stateMetrics
  have hrequests := requests_run catalog config w now cache
  refine ⟨fun e => ⟨fun h => ?_, result_run_of_missing⟩, fun e he => ?_, fun kubelet hkubelet => ?_⟩
  · cases hclient : (kubeletConnection config w now cache).client with
    | error e' =>
      rw [result_run_of_missing hclient] at h
      cases h
      rfl
    | ok kubelet =>
      rw [result_run_of_found hclient, stages, result_stagesOf_eq, verdict_eq_error_iff] at h
      cases h.2
  · rw [he] at hrequests
    exact hrequests
  · intro cs
    rw [hkubelet] at hrequests
    have hresult : pass.value.result = (stagesOf catalog config w kubelet stateMetrics).result :=
      result_run_of_found hkubelet
    refine ⟨?_, ?_, hrequests, fun report hreport => truthful_of_result (hresult ▸ hreport)⟩
    · simp only [hresult, result_stagesOf_eq, verdict_eq_ok_iff, any_populated_iff, exists_and_left, exists_eq,
        and_true]
      rfl
    · rw [hresult, result_stagesOf_eq, verdict_eq_error_iff, any_populated_iff]
      simp only [and_true]
      rfl

/-- Surroundings of one node on which both sources run and answer. -/
def answering : Surroundings := surroundingsOf "10.0.0.1" 200

theorem kubelet_answering : (kubeletConnection .default answering ⟨0, 0⟩ .missing).client =
    .ok (.plain plainEndpoint) := by
  decide +kernel

theorem role_answering : role (.plain plainEndpoint)
    (stateMetricsConnection .default answering ⟨0, 0⟩ .missing).client = .leader := by
  decide +kernel

/-- The pass there is that of a leader, with four requests, and reports on both sources. -/
theorem run_reports_truthfully_answering :
    (run .standard .default answering ⟨0, 0⟩ .missing).requests.map Call.text =
      ["request http://kube-state-metrics.kube-system.svc.cluster.local:8080/metrics",
        "request http://10.0.0.1:10255/pods", "request http://10.0.0.1:10255/stats/summary",
        "request http://10.0.0.1:10255/metrics/cadvisor"] ∧
    ∃ report, (run .standard .default answering ⟨0, 0⟩ .missing).value.result = .ok report ∧
      report.role = .leader ∧ report.sources.map SourceReport.source = [.stateMetrics, .kubelet] ∧
      ∃ set, report.store.Holds set := by
  have hwrites : (kubeletCollection .standard .default answering (.plain plainEndpoint)).Writes
      (Catalog.populator PassConfig.default.clusterName) :=
    (Collection.told_entry _ _).populated_iff.1 (by decide +kernel)
  obtain ⟨-, -, hfound⟩ := run_reports_truthfully .standard .default answering ⟨0, 0⟩ .missing
  obtain ⟨hok, -, hrequests, htrue⟩ := hfound _ kubelet_answering
  obtain ⟨report, hreport⟩ := hok.2 ⟨_, mem_collections_iff.2 (.inr rfl), hwrites⟩
  obtain ⟨hrole, htruthful⟩ := htrue report hreport
  have hroleLeader : report.role = .leader := hrole.trans role_answering
  refine ⟨?_, report, hreport, hroleLeader, htruthful.sources_of_stateMetrics (.inr hroleLeader), htruthful.holds⟩
  rw [hrequests]
  decide +kernel

end Pass

end NodeTelemetry
