import NodeTelemetry.Pass
import NodeTelemetry.Proofs.EntityStore

/-!
# The stages of a pass

A pass in which the kubelet is found connects to kube-state-metrics, collects it into an empty store where the
node is the leader, and then collects the kubelet into the store that it has by then. `Pass.stages` names what
each stage gives. What a source adds to a store are the steps of its raw entities, which do not depend on the store.

## Main definitions

* `Pass.populateSteps`: what a source does to any store.
* `Pass.finish`: what a pass gives once it has connected to both sources.
* `Pass.Stages`, `Pass.stages`: what the stages of a pass give.
* `Pass.Stages.before`: the store before the kubelet is collected.
* `Pass.surroundingsOf`: small surroundings in which both sources can be found and the kubelet can be read.

## Main statements

* `Pass.value_run`: a pass connects to both sources and goes on with what it has then.
* `Pass.result_run_of_found`: the result of a pass from its stages.
* `Pass.Stages.setsOf_own`: the kubelet adds its metric sets behind those that are there.
-/

namespace NodeTelemetry.Pass

/-! ### What a source adds -/

section Source

variable {source : Source} {populator : Populator} {specs : SpecGroups}
  {result : Except GroupError SourceGroups}

/-- What a source does to a store, which is nothing where the source failed. -/
def populateSteps (populator : Populator) (specs : SpecGroups)
    (result : Except GroupError SourceGroups) : List Step :=
  match result with
  | .error _ => []
  | .ok data => PopulateOutcome.steps (populator.reports data.groups specs)

theorem store_populateSource (store : EntityStore) :
    (populateSource source populator specs result store).store =
      (populateSteps populator specs result).foldl Step.apply store := by
  cases result <;> rfl

/-- The report on a source does not depend on the store. -/
theorem report_populateSource (store store' : EntityStore) :
    (populateSource source populator specs result store).report =
      (populateSource source populator specs result store').report := by
  cases result <;> rfl

/-- A source that failed adds nothing and is not populated. -/
theorem populateSource_of_failure {store : EntityStore}
    (h : (populateSource source populator specs result store).report.failure ≠ none) :
    (populateSource source populator specs result store).store = store ∧
      (populateSource source populator specs result store).report.populated = false := by
  cases result with
  | error e => exact ⟨rfl, rfl⟩
  | ok data => exact absurd rfl h

end Source

/-! ### The connections -/

/-- The time and the limits of a pass. -/
def timing (config : PassConfig) (now : Time.Instant) : Timing :=
  ⟨config.timeout, config.cacheTtl, now⟩

/-- The connection of a pass to the kubelet. -/
def kubeletConnection (config : PassConfig) (w : Surroundings) (now : Time.Instant)
    (cache : EndpointCache) : Connection :=
  ((kubeletLocator config).connect w (timing config now) cache).value

/-- The connection of a pass to kube-state-metrics. -/
def stateMetricsConnection (config : PassConfig) (w : Surroundings) (now : Time.Instant)
    (cache : EndpointCache) : Connection :=
  ((stateMetricsLocator config).connect w (timing config now)
    (kubeletConnection config w now cache).cache).value

/-- What a pass gives once it has connected to both sources. -/
def finish (catalog : Catalog) (config : PassConfig) (w : Surroundings)
    (kubelet : Except DiscoveryError SourceClient) (stateMetrics : Connection) : PassRun :=
  match kubelet with
  | .error e =>
    ⟨.error (.kubeletDiscovery e), stateMetrics.cache, [connectionEvent .kubelet kubelet]⟩
  | .ok client =>
    let collected := (collect catalog config w client stateMetrics.client).value
    ⟨collected.1, stateMetrics.cache, connectionEvent .kubelet kubelet ::
      connectionEvent .stateMetrics stateMetrics.client ::
        roleEvent client stateMetrics.client :: collected.2⟩

/-- A pass connects to both sources and goes on with what it has then. -/
theorem value_run (catalog : Catalog) (config : PassConfig) (w : Surroundings) (now : Time.Instant)
    (cache : EndpointCache) : (run catalog config w now cache).value =
      finish catalog config w (kubeletConnection config w now cache).client
        (stateMetricsConnection config w now cache) := by
  simp only [run, Traced.value_bind, stateMetricsConnection, kubeletConnection, timing]
  generalize ((kubeletLocator config).connect w ⟨config.timeout, config.cacheTtl, now⟩ cache).value =
    kubelet
  obtain ⟨client, after⟩ := kubelet
  cases client <;> rfl

/-! ### The stages -/

/-- What the stages of a pass give. -/
structure Stages where
  role : Role
  /-- The connection to kube-state-metrics. -/
  stateMetrics : Except DiscoveryError SourceClient
  /-- The collection of kube-state-metrics, if there is one. -/
  leading : Option Collected
  /-- What the kubelet does to any store. -/
  steps : List Step
  /-- The collection of the kubelet. -/
  own : Collected

namespace Stages

/-- The store before the kubelet is collected. -/
def before (s : Stages) : EntityStore :=
  (s.leading.map Collected.store).getD .empty

/-- The keys and metric sets that the kubelet appends to the store, in order. -/
def appended (s : Stages) : List (EntityKey × MetricSet) :=
  s.steps.flatMap Step.appended

/-- The result of a pass with these stages. -/
def result (s : Stages) : Except PassError PassReport :=
  verdict s.role (reports s.stateMetrics s.leading s.own) s.own.store

end Stages

/-- The stages of a pass with a client for the kubelet and a connection to kube-state-metrics. -/
def stagesOf (catalog : Catalog) (config : PassConfig) (w : Surroundings) (kubelet : SourceClient)
    (stateMetrics : Except DiscoveryError SourceClient) : Stages :=
  let populator := Catalog.populator config.clusterName
  let leading := (collectStateMetrics catalog populator w kubelet stateMetrics .empty).value
  let store := (leading.map Collected.store).getD .empty
  let groups := (Kubelet.collect kubelet w catalog.kubelet.queries config.timeout).run.value
  { role := role kubelet stateMetrics
    stateMetrics := stateMetrics
    leading := leading
    steps := populateSteps populator catalog.kubelet.specs groups
    own := populateSource .kubelet populator catalog.kubelet.specs groups store }

/-- The stages of a pass whose kubelet has a client. -/
def stages (catalog : Catalog) (config : PassConfig) (w : Surroundings) (now : Time.Instant)
    (cache : EndpointCache) (kubelet : SourceClient) : Stages :=
  stagesOf catalog config w kubelet (stateMetricsConnection config w now cache).client

theorem collect_eq_stagesOf (catalog : Catalog) (config : PassConfig) (w : Surroundings)
    (kubelet : SourceClient) (stateMetrics : Except DiscoveryError SourceClient) :
    (collect catalog config w kubelet stateMetrics).value.1 =
      (stagesOf catalog config w kubelet stateMetrics).result := rfl

variable {catalog : Catalog} {config : PassConfig} {w : Surroundings} {now : Time.Instant}
  {cache : EndpointCache} {kubelet : SourceClient}

/-- The result of a pass in which the kubelet is found is that of its stages. -/
theorem result_run_of_found (h : (kubeletConnection config w now cache).client = .ok kubelet) :
    (run catalog config w now cache).value.result =
      (stages catalog config w now cache kubelet).result := by
  rw [stages, ← collect_eq_stagesOf, value_run, h]
  rfl

/-- The result of a pass in which the kubelet is not found is the failure to find it. -/
theorem result_run_of_missing {e : DiscoveryError}
    (h : (kubeletConnection config w now cache).client = .error e) :
    (run catalog config w now cache).value.result = .error (.kubeletDiscovery e) := by
  rw [value_run, h]
  rfl

/-! ### What is in the store -/

section Store

variable {stateMetrics : Except DiscoveryError SourceClient}

/-- Kube-state-metrics is not collected, or its collection starts with an empty store. -/
theorem leading_cases (catalog : Catalog) (config : PassConfig) (w : Surroundings)
    (kubelet : SourceClient) (stateMetrics : Except DiscoveryError SourceClient) :
    (stagesOf catalog config w kubelet stateMetrics).leading = none ∨
    ∃ result, (stagesOf catalog config w kubelet stateMetrics).leading =
      some (populateSource .stateMetrics (Catalog.populator config.clusterName)
        catalog.stateMetrics.specs result .empty) := by
  simp only [stagesOf, collectStateMetrics]
  split
  · exact .inl rfl
  · split
    · exact .inr ⟨_, rfl⟩
    · exact .inl rfl

/-- A follower does not collect kube-state-metrics. -/
theorem leading_eq_none_of_follower
    (h : (stagesOf catalog config w kubelet stateMetrics).role = .follower) :
    (stagesOf catalog config w kubelet stateMetrics).leading = none := by
  have hrole : (role kubelet stateMetrics).isLeader = false := by
    rw [show role kubelet stateMetrics = .follower from h]
    rfl
  simp only [stagesOf, collectStateMetrics]
  split
  · rfl
  · rw [if_neg (by simp [hrole])]
    rfl

theorem own_store : (stagesOf catalog config w kubelet stateMetrics).own.store =
    (stagesOf catalog config w kubelet stateMetrics).steps.foldl Step.apply
      (stagesOf catalog config w kubelet stateMetrics).before :=
  store_populateSource _

theorem indexed_before : (stagesOf catalog config w kubelet stateMetrics).before.Indexed := by
  rw [Stages.before]
  rcases leading_cases catalog config w kubelet stateMetrics with h | ⟨result, h⟩
  · rw [h]
    exact EntityStore.indexed_empty
  · rw [h]
    simp only [Option.map_some, Option.getD_some, store_populateSource]
    exact EntityStore.indexed_empty.run _

/-- The kubelet adds its metric sets behind those that are there, under whichever keys these are. -/
theorem setsOf_own (key : EntityKey) :
    (stagesOf catalog config w kubelet stateMetrics).own.store.setsOf key =
      (stagesOf catalog config w kubelet stateMetrics).before.setsOf key ++
        ((stagesOf catalog config w kubelet stateMetrics).appended.filter fun p =>
          p.1 = key).map Prod.snd := by
  rw [own_store, indexed_before.setsOf_run, Stages.appended]

end Store

/-! ### Passes without kube-state-metrics -/

namespace Stages

/-- Kube-state-metrics is not found, or its collection fails. -/
def StateMetricsFails (s : Stages) : Prop :=
  (∃ e, s.stateMetrics = .error e) ∨ ∃ c, s.leading = some c ∧ c.report.failure ≠ none

/-- Kube-state-metrics adds nothing to the store and no populated source. -/
structure IsQuiet (s : Stages) : Prop where
  before_eq : s.before = .empty
  not_populated : ∀ c, s.leading = some c → c.report.populated = false

/-- Without kube-state-metrics, the result is the kubelet's alone. -/
theorem IsQuiet.map_store_result {s : Stages} (h : s.IsQuiet) :
    s.result.map PassReport.store =
      if s.own.report.populated then .ok s.own.store else .error .nothingPopulated := by
  have hany : (reports s.stateMetrics s.leading s.own).any SourceReport.populated =
      s.own.report.populated := by
    have hleading : ((s.leading.map Collected.report).toList).any SourceReport.populated = false := by
      cases hl : s.leading with
      | none => rfl
      | some c => simp [h.not_populated c hl]
    simp only [reports, List.any_append, hleading]
    cases s.stateMetrics <;> simp [SourceReport.failed]
  simp only [result, verdict, hany]
  split <;> rfl

theorem isQuiet_of_leading_eq_none {s : Stages} (h : s.leading = none) : s.IsQuiet where
  before_eq := by rw [before, h]; rfl
  not_populated := by simp [h]

end Stages

theorem isQuiet_of_fails {stateMetrics : Except DiscoveryError SourceClient}
    (h : (stagesOf catalog config w kubelet stateMetrics).StateMetricsFails) :
    (stagesOf catalog config w kubelet stateMetrics).IsQuiet := by
  rcases h with ⟨e, he⟩ | ⟨c, hc, hfailure⟩
  · obtain rfl : stateMetrics = .error e := he
    exact Stages.isQuiet_of_leading_eq_none rfl
  · rcases leading_cases catalog config w kubelet stateMetrics with hl | ⟨result, hl⟩
    · exact Stages.isQuiet_of_leading_eq_none hl
    · obtain rfl := Option.some.inj (hc.symm.trans hl)
      obtain ⟨hstore, hpopulated⟩ := populateSource_of_failure hfailure
      refine ⟨?_, fun c' hc' => ?_⟩
      · rw [Stages.before, hc, Option.map_some, Option.getD_some, hstore]
      · obtain rfl := Option.some.inj (hc'.symm.trans hc)
        exact hpopulated

/-! ### Surroundings of one node -/

/-- A node whose kubelet listens without encryption. -/
def plainNode : Cluster.Node where
  metadata := ⟨some "node-a", none, .empty, [], none⟩
  addresses := [⟨"InternalIP", "10.0.0.1"⟩]
  kubeletPort := some 10255

/-- The endpoint of the kubelet of that node. -/
def plainEndpoint : Endpoint where
  url := ⟨"http", "", "", some (.ipv4 0x0A000001), some 10255, .segments [""], none, none⟩
  nodeIp := "10.0.0.1"
  auth := .none

/-- A pod on the node of an address. -/
def podOn (ip : String) : Cluster.Pod where
  metadata := .empty
  spec := none
  status := some ⟨some ip, none, none, none, none, [], []⟩

/-- Where the name service says that kube-state-metrics is. -/
def serviceUrl : Url where
  scheme := "http"
  username := ""
  password := ""
  host := some (.domain StateMetrics.qualifiedName)
  port := some 8080
  path := .segments ["metrics"]
  query := none
  fragment := none

/-- Surroundings of that node in which kube-state-metrics runs on the node of an address and its requests are
answered with a status. All documents of the kubelet but the series about containers can be had. -/
def surroundingsOf (ip : String) (status : Nat) : Surroundings where
  node _ := .found plainNode
  pods _ := .found [podOn ip]
  services _ := .failed .api
  srv _ := .found [⟨"kube-state-metrics", 8080⟩]
  secureClient := .ok ()
  network url :=
    let reply (status : Nat) (document : String) : Reply := .reply status document.toUTF8.toList
    if url = serviceUrl then reply status "kube_namespace_created\x7bnamespace=\"default\"\x7d 1\n"
    else match url.path with
      | .segments ["pods"] => reply 200 "\x7b\"items\": []\x7d"
      | .segments ["stats", "summary"] => reply 200 "\x7b\"node\": \x7b\"nodeName\": \"node-a\"\x7d\x7d"
      | _ => .dropped

end NodeTelemetry.Pass
