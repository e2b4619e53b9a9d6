import NodeTelemetry.Proofs.Pass.Reports

/-!
# What a pass tells

The events of a pass agree with what happens in it. A pass that does not find the kubelet tells this and no more. Any
other pass tells of both connections and of its role, then of every collection in order, and of its end if it has a
result. A pass without a result has told of its collections all the same, so the events before the end do not show
how it ends.

## Main definitions

* `SourceReport.Announced`: the event for an entry of a report.

## Main statements

* `Collection.announced_entry`: a collection is announced by its entry.
* `Pass.events_run_of_found`: the events of a pass that finds the kubelet.
* `Pass.events_agree`: the events of every pass.
-/

namespace NodeTelemetry

/-- The event that tells of a source by its entry: why it failed, or whether it was populated, with its errors. -/
inductive SourceReport.Announced (e : SourceReport) : Event → Prop
  | failed {failure : String} (hfailure : e.failure = some failure) :
      e.Announced (.sourceFailed e.source failure)
  | populated (hfailure : e.failure = none) (hpopulated : e.populated = true) :
      e.Announced (.sourcePopulated e.source e.errors)
  | empty (hfailure : e.failure = none) (hpopulated : e.populated = false) :
      e.Announced (.sourceEmpty e.source e.errors)

/-- Whatever the store is, a collection is announced by its entry. -/
theorem Collection.announced_entry (populator : Populator) (store : EntityStore) (c : Collection) :
    (c.entry populator).Announced (c.collected populator store).event := by
  rw [← report_collected populator store c]
  obtain ⟨source, specs, result⟩ := c
  cases result with
  | error failure => exact .failed rfl
  | ok data =>
    simp only [collected, Pass.populateSource, Event.ofPopulation]
    by_cases h : (populator.populate data.groups specs store).1.populated = true
    · rw [if_pos h]
      exact .populated rfl h
    · rw [if_neg h]
      exact .empty rfl (Bool.not_eq_true _ ▸ h)

namespace Pass

variable {catalog : Catalog} {config : PassConfig} {w : Surroundings} {now : Time.Instant}
  {cache : EndpointCache} {kubelet : SourceClient} {stateMetrics : Except DiscoveryError SourceClient}

/-- What a pass tells of its collections, in order. -/
def Stages.told (s : Stages) : List Event :=
  (s.leading.map Collected.event).toList ++ [s.own.event]

theorem announced_told : List.Forall₂ SourceReport.Announced
    ((collections catalog config w kubelet stateMetrics).map
      (Collection.entry (Catalog.populator config.clusterName)))
    (stagesOf catalog config w kubelet stateMetrics).told := by
  rw [Stages.told, own_stagesOf, leading_stagesOf, collections]
  cases leadingClient? kubelet stateMetrics with
  | none => exact .cons (Collection.announced_entry _ _ _) .nil
  | some client =>
    exact .cons (Collection.announced_entry _ _ _) (.cons (Collection.announced_entry _ _ _) .nil)

/-- A pass collects kube-state-metrics before the kubelet as the leader, and the kubelet alone as a follower. -/
theorem map_source_collections :
    (collections catalog config w kubelet stateMetrics).map Collection.source =
      if role kubelet stateMetrics = .leader then [.stateMetrics, .kubelet] else [.kubelet] := by
  rw [collections, leadingClient?]
  cases stateMetrics with
  | error e => rfl
  | ok client =>
    split
    · rfl
    · rfl

theorem events_run_of_missing {e : DiscoveryError}
    (h : (kubeletConnection config w now cache).client = .error e) :
    (run catalog config w now cache).value.events = [.sourceDiscoveryFailed .kubelet e.message] := by
  rw [value_run, h]
  rfl

/-- The events of a pass that finds the kubelet: its connections, its role, its collections and its end. -/
theorem events_run_of_found (h : (kubeletConnection config w now cache).client = .ok kubelet) :
    (run catalog config w now cache).value.events =
      connectionEvent .kubelet (.ok kubelet) ::
        connectionEvent .stateMetrics (stateMetricsConnection config w now cache).client ::
          roleEvent kubelet (stateMetricsConnection config w now cache).client ::
            ((stages catalog config w now cache kubelet).told ++
              completionEvents (run catalog config w now cache).value.result) := by
  rw [result_run_of_found h, value_run, h]
  rfl

/-- The events of a pass agree with what happens in it. Without the kubelet there is one event. Otherwise there is one
for each connection, one for the role, one for each collection by what becomes of it, and one for the end of a pass
that has a report. -/
theorem events_agree (catalog : Catalog) (config : PassConfig) (w : Surroundings) (now : Time.Instant)
    (cache : EndpointCache) :
    let pass := (run catalog config w now cache).value
    let populator := Catalog.populator config.clusterName
    let stateMetrics := (stateMetricsConnection config w now cache).client
    (∀ e, (kubeletConnection config w now cache).client = .error e →
      pass.result = .error (.kubeletDiscovery e) ∧
        pass.events = [.sourceDiscoveryFailed .kubelet e.message]) ∧
    ∀ kubelet, (kubeletConnection config w now cache).client = .ok kubelet →
      let cs := collections catalog config w kubelet stateMetrics
      cs.map Collection.source =
        (if role kubelet stateMetrics = .leader then [.stateMetrics, .kubelet] else [.kubelet]) ∧
      ∃ second entries told last,
        pass.events = .sourceDiscovered .kubelet kubelet.endpoint.url.text kubelet.endpoint.nodeIp ::
          second :: .roleResolved (role kubelet stateMetrics) kubelet.endpoint.nodeIp
            (stateMetrics.toOption.map fun client => client.endpoint.nodeIp) :: (told ++ last) ∧
        (∀ client, stateMetrics = .ok client →
          second = .sourceDiscovered .stateMetrics client.endpoint.url.text client.endpoint.nodeIp) ∧
        (∀ e, stateMetrics = .error e → second = .sourceDiscoveryFailed .stateMetrics e.message) ∧
        List.Forall₂ (Collection.Told populator) cs entries ∧
        List.Forall₂ SourceReport.Announced entries told ∧
        (∀ report, pass.result = .ok report → report.role = role kubelet stateMetrics ∧
          report.sources = notFound stateMetrics ++ entries ∧
          last = [.passCompleted report.role report.store.size]) ∧
        ∀ e, pass.result = .error e → last = [] := by
  intro pass populator stateMetrics
  refine ⟨fun e he => ⟨result_run_of_missing he, events_run_of_missing he⟩, fun kubelet hkubelet => ?_⟩
  intro cs
  have hresult : pass.result = verdict (role kubelet stateMetrics)
      (entries catalog config w kubelet stateMetrics) (filled catalog config w kubelet stateMetrics) :=
    (result_run_of_found hkubelet).trans result_stagesOf_eq
  refine ⟨map_source_collections, connectionEvent .stateMetrics stateMetrics, cs.map (Collection.entry populator),
    (stages catalog config w now cache kubelet).told, completionEvents pass.result, ?_, ?_, ?_, ?_, ?_, ?_, ?_⟩
  · exact events_run_of_found hkubelet
  · intro client hclient
    rw [hclient]
    rfl
  · intro e he
    rw [he]
    rfl
  · rw [List.forall₂_map_right_iff, List.forall₂_same]
    exact fun c _ => c.told_entry populator
  · exact announced_told
  · intro report hreport
    rw [hreport]
    rw [hresult, verdict_eq_ok_iff] at hreport
    obtain ⟨-, rfl⟩ := hreport
    exact ⟨rfl, rfl, rfl⟩
  · intro e he
    rw [he]
    rfl

/-- A pass of a leader tells of both sources and of its end. -/
theorem events_agree_answering :
    ∃ report, (run .standard .default answering ⟨0, 0⟩ .missing).value.result = .ok report ∧
      (run .standard .default answering ⟨0, 0⟩ .missing).value.events.map Event.name =
        ["source_discovered", "source_discovered", "role_resolved", "source_populated",
          "source_populated", "pass_completed"] ∧
      (run .standard .default answering ⟨0, 0⟩ .missing).value.events.getLast? =
        some (.passCompleted .leader report.store.size) := by
  have hends : ((run .standard .default answering ⟨0, 0⟩ .missing).value.result.isOk,
      (run .standard .default answering ⟨0, 0⟩ .missing).value.events.map Event.name) =
      (true, ["source_discovered", "source_discovered", "role_resolved", "source_populated",
        "source_populated", "pass_completed"]) := by
    decide +kernel
  obtain ⟨hok, hnames⟩ := Prod.mk.inj hends
  obtain ⟨-, hfound⟩ := events_agree .standard .default answering ⟨0, 0⟩ .missing
  obtain ⟨-, second, entries, told, last, hevents, -, -, -, -, hcompleted, -⟩ := hfound _ kubelet_answering
  cases hresult : (run .standard .default answering ⟨0, 0⟩ .missing).value.result with
  | error e =>
    rw [hresult] at hok
    cases hok
  | ok report =>
    obtain ⟨hrole, -, rfl⟩ := hcompleted report hresult
    refine ⟨report, rfl, hnames, ?_⟩
    rw [hevents, ← role_answering, ← hrole, ← List.cons_append, ← List.cons_append, ← List.cons_append,
      List.getLast?_concat]

end Pass

end NodeTelemetry
