import NodeTelemetry.Proofs.Connection.Calls
import NodeTelemetry.Proofs.Pass.Agreement
import NodeTelemetry.Proofs.Pass.Stages

/-!
# What a pass requests of sources

Connecting to a source requests nothing of it. The kubelet is requested for its three documents, whatever
becomes of each of them, and kube-state-metrics for its series, where it is collected. A document is requested once, if
there is a URL for its path that can be requested at all.

## Main definitions

* `Traced.requests`: the requests among the calls of a computation.
* `SourceClient.requested`: the request for the document of a path.

## Main statements

* `Kubelet.requests_collect`, `StateMetrics.requests_collect`: the requests for the raw groups of a source.
* `Pass.requests_run`: the requests of a pass.
-/

namespace NodeTelemetry

/-! ### Requests among calls -/

namespace Traced

variable {α β : Type}

/-- The requests to sources among the calls of a computation. -/
def requests (x : Traced α) : List Call :=
  x.calls.filter Call.isRequest

@[simp] theorem requests_pure (a : α) : (pure a : Traced α).requests = [] := rfl

@[simp] theorem requests_bind (x : Traced α) (f : α → Traced β) :
    (x >>= f).requests = x.requests ++ (f x.value).requests := by
  rw [requests, calls_bind, List.filter_append]
  rfl

@[simp] theorem requests_map (f : α → β) (x : Traced α) : (f <$> x).requests = x.requests := by
  rw [requests, calls_map, requests]

/-- Questions to the API and the name service are no requests. -/
theorem CallsOnly.requests_eq_nil {x : Traced α} (h : x.CallsOnly Call.IsLookup) : x.requests = [] := by
  refine List.filter_eq_nil_iff.2 fun call hcall => ?_
  have hlookup := h call hcall
  cases call <;> first | exact hlookup.elim | exact Bool.false_ne_true

end Traced

namespace Lookup

variable {ε ε' α β : Type}

theorem requests_mapError (f : ε → ε') (x : Lookup ε α) : (x.mapError f).run.requests = x.run.requests :=
  Traced.requests_map _ _

/-- Where nothing is requested after a computation, the requests are its own, whether it fails or not. -/
theorem requests_bind_of_forall {x : Lookup ε α} {f : α → Lookup ε β} (h : ∀ a, (f a).run.requests = []) :
    (x >>= f).run.requests = x.run.requests := by
  rw [Traced.requests, calls_bind, List.filter_append]
  cases x.run.value with
  | error e => exact List.append_nil _
  | ok a =>
    have hnone : List.filter Call.isRequest (f a).run.calls = [] := h a
    simp only [hnone, List.append_nil]
    rfl

end Lookup

/-! ### Documents -/

namespace SourceClient

variable {c : SourceClient} {w : Surroundings} {path : String}

/-- The request for the document of a path, if there is a URL for it that can be requested. -/
def requested (c : SourceClient) (path : String) : List Call :=
  match c.requestUrl path with
  | .ok url => if isRequestable url then [.request url.withoutFragment] else []
  | .error _ => []

theorem requests_get : (c.get w path).run.requests = c.requested path := by
  rw [get, requested]
  cases c.requestUrl path with
  | error e => rfl
  | ok url =>
    rw [Lookup.ofExcept_ok_bind]
    simp only
    split
    · -- what is made of the reply requests nothing more
      rw [Lookup.requests_bind_of_forall]
      · rfl
      · intro reply
        cases reply with
        | dropped => rfl
        | reply status _ | broken status =>
          simp only
          split <;> rfl
    · rfl

theorem requests_text : (c.text w path).run.requests = c.requested path := by
  rw [text, Lookup.requests_bind_of_forall, requests_get]
  rintro ⟨url, body⟩
  cases body <;> rfl

theorem requests_json {α : Type} (read : Json → Option α) :
    (c.json read w path).run.requests = c.requested path := by
  rw [json, Lookup.requests_bind_of_forall, requests_get]
  rintro ⟨url, body⟩
  simp only
  split <;> rfl

end SourceClient

theorem requests_fetchFamilies {c : SourceClient} {w : Surroundings} {queries : List Query} {path : String} :
    (fetchFamilies c w queries path).run.requests = c.requested path := by
  rw [fetchFamilies, Lookup.requests_bind_of_forall fun _ => rfl, Lookup.requests_mapError,
    SourceClient.requests_text]

/-! ### Raw groups -/

/-- The series are requested, and nothing else. -/
theorem StateMetrics.requests_collect {c : SourceClient} {w : Surroundings} {queries : List Query}
    {labels : List String} : (collect c w queries labels).run.requests = c.requested metricsPath := by
  rw [collect, Lookup.requests_bind_of_forall, requests_fetchFamilies]
  intro families
  split <;> rfl

namespace Kubelet

variable {c : SourceClient} {w : Surroundings} {queries : List Query} {timeout : Time.Span}

/-- The API is asked for the labels of a node, not the kubelet. -/
theorem requests_completeNode (name : String) (data : SourceGroups) :
    (completeNode w timeout name data).requests = [] := by
  rw [completeNode]
  split
  · rfl
  · have hnode : (nodeLabels w timeout name).requests = [] := rfl
    rw [Traced.requests_bind, hnode]
    split <;> rfl

/-- All three documents are requested, whatever becomes of them. -/
theorem requests_collect : (collect c w queries timeout).run.requests =
    [podsPath, summaryPath, seriesPath].flatMap c.requested := by
  simp only [collect, ExceptT.run_mk, Traced.requests_bind, Lookup.requests_mapError, SourceClient.requests_json,
    requests_fetchFamilies, List.flatMap_cons, List.flatMap_nil]
  -- the node is only completed behind the three documents
  congr 3
  split
  · rfl
  · rfl
  · rw [Traced.requests_bind, requests_completeNode]
    rfl

end Kubelet

/-! ### Connections -/

/-- Neither the search for a source nor the client for it requests anything. -/
theorem Locator.requests_connect {l : Locator} {w : Surroundings} {t : Timing} {cache : EndpointCache}
    (hlocate : (l.locate w t.timeout).run.CallsOnly Call.IsLookup) : (l.connect w t cache).requests = [] := by
  have hopen (e : Endpoint) : (openClient w e).requests = [] := by
    rw [Traced.requests, calls_openClient]
    split <;> rfl
  rw [connect]
  simp only
  split
  · rw [Traced.requests_bind, hopen]
    rfl
  · rw [Traced.requests_bind, hlocate.requests_eq_nil]
    split
    · rfl
    · rw [Traced.requests_bind, hopen]
      rfl

namespace Pass

variable {catalog : Catalog} {config : PassConfig} {w : Surroundings}

/-- The client by which kube-state-metrics is collected: the leader has one. -/
def leadingClient? (kubelet : SourceClient) (stateMetrics : Except DiscoveryError SourceClient) :
    Option SourceClient :=
  if role kubelet stateMetrics = .leader then stateMetrics.toOption else none

/-- Kube-state-metrics is collected by the client of the leader, and otherwise not. -/
theorem collectStateMetrics_eq {kubelet : SourceClient} {stateMetrics : Except DiscoveryError SourceClient}
    (populator : Populator) (store : EntityStore) :
    collectStateMetrics catalog populator w kubelet stateMetrics store =
      match leadingClient? kubelet stateMetrics with
      | none => return none
      | some client => do
        let result ← (StateMetrics.collect client w catalog.stateMetrics.queries
          catalog.stateMetrics.specs.keys).run
        return some (populateSource .stateMetrics populator catalog.stateMetrics.specs result store) := by
  cases stateMetrics with
  | error e => rfl
  | ok client =>
    rw [collectStateMetrics, leadingClient?]
    cases role kubelet (.ok client) <;> rfl

/-- The requests of a pass with a client for the kubelet: the series of kube-state-metrics on the leader, and the
documents of the kubelet on every node. -/
def requestsOf (kubelet : SourceClient) (stateMetrics : Except DiscoveryError SourceClient) : List Call :=
  (leadingClient? kubelet stateMetrics).toList.flatMap (fun client => client.requested StateMetrics.metricsPath) ++
    [Kubelet.podsPath, Kubelet.summaryPath, Kubelet.seriesPath].flatMap kubelet.requested

theorem requests_collect {kubelet : SourceClient} {stateMetrics : Except DiscoveryError SourceClient} :
    (collect catalog config w kubelet stateMetrics).requests = requestsOf kubelet stateMetrics := by
  have hleading : (collectStateMetrics catalog (Catalog.populator config.clusterName) w kubelet stateMetrics
      .empty).requests = (leadingClient? kubelet stateMetrics).toList.flatMap
        fun client => client.requested StateMetrics.metricsPath := by
    rw [collectStateMetrics_eq]
    cases leadingClient? kubelet stateMetrics with
    | none => rfl
    | some client =>
      simp only [Traced.requests_bind, StateMetrics.requests_collect, Traced.requests_pure]
      rfl
  have hkubelet (store : EntityStore) : (collectKubelet catalog (Catalog.populator config.clusterName) w
      config.timeout kubelet store).requests =
        [Kubelet.podsPath, Kubelet.summaryPath, Kubelet.seriesPath].flatMap kubelet.requested := by
    rw [collectKubelet, Traced.requests_bind, Kubelet.requests_collect]
    exact List.append_nil _
  rw [collect, Traced.requests_bind, hleading, Traced.requests_bind, hkubelet]
  exact congrArg _ (List.append_nil _)

/-- A pass without a kubelet requests nothing, and any other what it needs for its role. -/
theorem requests_run (catalog : Catalog) (config : PassConfig) (w : Surroundings) (now : Time.Instant)
    (cache : EndpointCache) : (run catalog config w now cache).requests =
    match (kubeletConnection config w now cache).client with
    | .error _ => []
    | .ok kubelet => requestsOf kubelet (stateMetricsConnection config w now cache).client := by
  have hkubelet : ((kubeletLocator config).connect w (timing config now) cache).requests = [] :=
    Locator.requests_connect (Kubelet.callsOnly_locate _ _ w _)
  have hstateMetrics (c : EndpointCache) :
      ((stateMetricsLocator config).connect w (timing config now) c).requests = [] :=
    Locator.requests_connect (StateMetrics.callsOnly_locate w _ _)
  simp only [run, Traced.requests_bind, stateMetricsConnection, kubeletConnection]
  rw [← timing, hkubelet, hstateMetrics, List.nil_append, List.nil_append]
  generalize ((kubeletLocator config).connect w (timing config now) cache).value = kubelet
  obtain ⟨client, after⟩ := kubelet
  cases client with
  | error e => rfl
  | ok client =>
    simp only [Traced.requests_bind, requests_collect]
    exact List.append_nil _

end Pass

end NodeTelemetry
