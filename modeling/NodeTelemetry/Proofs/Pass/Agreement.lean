import NodeTelemetry.Pass
import NodeTelemetry.Proofs.Url.Leaf

/-!
# Surroundings that agree on the kubelet

Surroundings may differ in everything that only matters for kube-state-metrics: the name service, the services and
pods of the cluster, and what comes back from any URL at which some client may ask for the series of
kube-state-metrics. No document of the kubelet has such a URL, so the kubelet is found and read in the same way.

## Main definitions

* `StateMetrics.IsSeriesUrl`: where the series of kube-state-metrics may be asked for.
* `Surroundings.AgreeOnKubelet`: surroundings that differ in nothing else.

## Main statements

* `AgreeOnKubelet.get_eq`: requests for the documents of the kubelet have the same replies.
* `AgreeOnKubelet.collect_eq`, `AgreeOnKubelet.connect_eq`: the kubelet is read and found in the same way.
-/

namespace NodeTelemetry

/-- Where some client may ask for the series of kube-state-metrics. -/
def StateMetrics.IsSeriesUrl (url : Url) : Prop :=
  ∃ (c : SourceClient) (u : Url), c.requestUrl metricsPath = .ok u ∧ url = u.withoutFragment

theorem Lookup.ofExcept_ok_bind {ε α β : Type} (a : α) (f : α → Lookup ε β) :
    (Lookup.ofExcept (.ok a) >>= f) = f a := rfl

namespace Surroundings

/-- Surroundings that differ in nothing but what matters for kube-state-metrics alone. -/
structure AgreeOnKubelet (w w' : Surroundings) : Prop where
  node : w.node = w'.node
  secureClient : w.secureClient = w'.secureClient
  network : ∀ url, ¬ StateMetrics.IsSeriesUrl url → w.network url = w'.network url

namespace AgreeOnKubelet

variable {w w' : Surroundings}

/-! ### Requests -/

/-- A URL that can be requested and does not end like the series is not where the series are asked for. -/
theorem not_isSeriesUrl {u : Url} {last : String} (hleaf : u.leaf? = some last)
    (hne : last ≠ "metrics") (hrequest : SourceClient.isRequestable u = true) :
    ¬ StateMetrics.IsSeriesUrl u.withoutFragment := by
  rintro ⟨c, u', hu', heq⟩
  have hpath : u.path = u'.path := (congrArg Url.path heq :)
  have hscheme : u.scheme = u'.scheme := (congrArg Url.scheme heq :)
  have hmetrics : SourceClient.PathLeaf StateMetrics.metricsPath "metrics" := by decide
  rcases SourceClient.leaf?_requestUrl hmetrics hu' with h | h
  · rw [Url.leaf?, ← hpath, ← Url.leaf?, hleaf] at h
    exact hne (Option.some.inj h)
  · rw [SourceClient.isRequestable, hscheme, h] at hrequest
    exact absurd hrequest (by decide)

/-- A path that does not end like the series has the same reply. -/
theorem get_eq (h : w.AgreeOnKubelet w') (c : SourceClient) {path last : String}
    (hleaf : SourceClient.PathLeaf path last) (hne : last ≠ "metrics") :
    c.get w path = c.get w' path := by
  have same : ∀ u, c.requestUrl path = .ok u → SourceClient.isRequestable u = true →
      w.request u.withoutFragment = w'.request u.withoutFragment := by
    intro u hu hrequest
    rcases SourceClient.leaf?_requestUrl hleaf hu with hlast | hfile
    · rw [request, request, h.network _ (not_isSeriesUrl hlast hne hrequest)]
    · rw [SourceClient.isRequestable, hfile] at hrequest
      exact absurd hrequest (by decide)
  rw [SourceClient.get, SourceClient.get]
  cases hu : c.requestUrl path with
  | error e => rfl
  | ok u =>
    rw [Lookup.ofExcept_ok_bind, Lookup.ofExcept_ok_bind]
    split
    · next hrequest => rw [same u hu hrequest]
    · rfl

theorem text_eq (h : w.AgreeOnKubelet w') (c : SourceClient) {path last : String}
    (hleaf : SourceClient.PathLeaf path last) (hne : last ≠ "metrics") :
    c.text w path = c.text w' path := by
  rw [SourceClient.text, SourceClient.text, h.get_eq c hleaf hne]

theorem json_eq {α : Type} (read : Json → Option α) (h : w.AgreeOnKubelet w') (c : SourceClient)
    {path last : String} (hleaf : SourceClient.PathLeaf path last) (hne : last ≠ "metrics") :
    c.json read w path = c.json read w' path := by
  rw [SourceClient.json, SourceClient.json, h.get_eq c hleaf hne]

/-! ### The kubelet -/

/-- The kubelet is read in the same way. -/
theorem collect_eq (h : w.AgreeOnKubelet w') (c : SourceClient) (queries : List Query)
    (timeout : Time.Span) :
    Kubelet.collect c w queries timeout = Kubelet.collect c w' queries timeout := by
  have hpods := h.json_eq Kubelet.readPods? c
    (show SourceClient.PathLeaf Kubelet.podsPath "pods" by decide) (by decide)
  have hsummary := h.json_eq Kubelet.Summary.read? c
    (show SourceClient.PathLeaf Kubelet.summaryPath "summary" by decide) (by decide)
  have hseries := h.text_eq c
    (show SourceClient.PathLeaf Kubelet.seriesPath "cadvisor" by decide) (by decide)
  have hnode : ∀ name data, Kubelet.completeNode w timeout name data =
      Kubelet.completeNode w' timeout name data := by
    intro name data
    simp only [Kubelet.completeNode, Kubelet.nodeLabels, findNode, h.node]
  simp only [Kubelet.collect, fetchFamilies, hpods, hsummary, hseries, hnode]

theorem openClient_eq (h : w.AgreeOnKubelet w') (e : Endpoint) :
    Locator.openClient w e = Locator.openClient w' e := by
  simp only [Locator.openClient, SourceClient.connect, openSecureClient, h.secureClient]

/-- The kubelet is found in the same way. -/
theorem connect_eq (h : w.AgreeOnKubelet w') (name : String) (url : Option String) (t : Timing)
    (cache : EndpointCache) :
    (Kubelet.locator name url).connect w t cache = (Kubelet.locator name url).connect w' t cache := by
  have hlocate : (Kubelet.locator name url).locate w = (Kubelet.locator name url).locate w' := by
    funext timeout
    simp only [Kubelet.locator, findNode, h.node]
  simp only [Locator.connect, hlocate, h.openClient_eq]

end AgreeOnKubelet

end Surroundings

end NodeTelemetry
