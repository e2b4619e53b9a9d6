import Mathlib.Control.Monad.Basic
import NodeTelemetry.Proofs.Connection.Visits

/-!
# Passes with and without a cache

An endpoint comes into the cache only from a search, and a search in surroundings that do not change finds the same
endpoint again. So an entry that can be read always holds what a search would find (`Locator.Cached`), at any
age, and a pass that uses it has the result of a pass without a cache. Entries that are too old, can not be
read or were never written only make the search necessary.

## Main definitions

* `Locator.fresh`: the client for a source without a cache.
* `Pass.uncached`: the result of a pass without a cache.
* `Pass.runs`: passes one after the other, each with the cache that the one before left.
* `Locator.Cached`: what can be read from the cache is what a search finds.

## Main statements

* `Locator.client_connect`, `Locator.cached_connect`: one connection gives the fresh client and keeps the invariant.
* `Pass.result_runs_eq_uncached`: passes that start without entries all have the result of a pass without a cache.
-/

namespace NodeTelemetry

/-! ### Connections -/

namespace Locator

/-- The client for a source that is searched for. -/
def fresh (l : Locator) (w : Surroundings) (timeout : Time.Span) :
    Except DiscoveryError SourceClient :=
  match (l.locate w timeout).run.value with
  | .error e => .error e
  | .ok endpoint => (openClient w endpoint).value

/-- What can be read from the cache for a source is what a search finds. -/
def Cached (l : Locator) (w : Surroundings) (timeout : Time.Span) (cache : EndpointCache) : Prop :=
  ∀ entry, cache.entry? l.source = some entry →
    (l.locate w timeout).run.value = .ok entry.endpoint

/-- The URLs that a search finds for the cache are read back from their texts. -/
def FindsReadable (l : Locator) (w : Surroundings) (timeout : Time.Span) : Prop :=
  l.hasOverride = false → ∀ e, (l.locate w timeout).run.value = .ok e →
    Url.parse e.url.text = .ok e.url

variable {l l' : Locator} {w : Surroundings} {t : Timing} {cache : EndpointCache}

theorem cached_of_isEmpty (h : cache.IsEmpty) : l.Cached w t.timeout cache := by
  intro entry hentry
  rw [h.entry?_eq_none] at hentry
  cases hentry

/-- An endpoint that still counts is what a search finds. -/
theorem Cached.live? {ttl : Time.Lifetime} {now : Time.Instant} {endpoint : Endpoint}
    (h : l.Cached w t.timeout cache) (hlive : cache.live? ttl now l.source = some endpoint) :
    (l.locate w t.timeout).run.value = .ok endpoint := by
  obtain ⟨entry, hentry, rfl⟩ := Option.map_eq_some_iff.1 hlive
  exact h entry (Option.filter_eq_some_iff.1 hentry).1

/-- What a connection does: it uses an endpoint that still counts, or it searches and fails, or it searches and keeps
what it finds. -/
theorem connect_cases (l : Locator) (w : Surroundings) (t : Timing) (cache : EndpointCache) :
    (∃ endpoint, cache.live? t.ttl t.now l.source = some endpoint ∧
      (l.connect w t cache).value = ⟨(openClient w endpoint).value, cache⟩) ∨
    (∃ e, (l.locate w t.timeout).run.value = .error e ∧
      (l.connect w t cache).value = ⟨.error e, cache⟩) ∨
    (∃ endpoint, (l.locate w t.timeout).run.value = .ok endpoint ∧
      (l.connect w t cache).value = ⟨(openClient w endpoint).value,
        if l.hasOverride then cache else cache.keep l.source ⟨endpoint, t.now⟩⟩) := by
  cases hknown : (Visit.mk l w t).known? cache with
  | some endpoint =>
    have hlive := Visit.live?_of_known hknown
    rw [Visit.live?, Visit.source] at hlive
    exact .inl ⟨endpoint, hlive, congrArg Traced.value (Visit.connect_of_known hknown)⟩
  | none =>
    refine .inr ?_
    cases hsearch : (Visit.mk l w t).search.value with
    | error e =>
      exact .inl ⟨e, hsearch, congrArg Traced.value (Visit.connect_of_failed hknown hsearch)⟩
    | ok endpoint =>
      exact .inr ⟨endpoint, hsearch, congrArg Traced.value (Visit.connect_of_found hknown hsearch)⟩

/-- A connection through the cache gives the client that a search gives. -/
theorem client_connect (h : l.Cached w t.timeout cache) :
    (l.connect w t cache).value.client = l.fresh w t.timeout := by
  rw [fresh]
  rcases l.connect_cases w t cache with ⟨endpoint, hlive, hvalue⟩ | ⟨e, hlocate, hvalue⟩ |
    ⟨endpoint, hlocate, hvalue⟩
  · rw [hvalue, h.live? hlive]
  · rw [hvalue, hlocate]
  · rw [hvalue, hlocate]

/-- A connection keeps what can be read for any source in agreement with a search. -/
theorem cached_connect (hfinds : l.FindsReadable w t.timeout) (hsource : l'.source = l.source → l' = l)
    (h : l'.Cached w t.timeout cache) :
    l'.Cached w t.timeout (l.connect w t cache).value.cache := by
  rcases l.connect_cases w t cache with ⟨endpoint, -, hvalue⟩ | ⟨e, -, hvalue⟩ |
    ⟨endpoint, hlocate, hvalue⟩
  · rw [hvalue]
    exact h
  · rw [hvalue]
    exact h
  · cases hoverride : l.hasOverride with
    | true =>
      rw [hvalue, hoverride]
      exact h
    | false =>
      have hcache : (l.connect w t cache).value.cache = cache.keep l.source ⟨endpoint, t.now⟩ := by
        rw [hvalue, hoverride]
        rfl
      rw [hcache]
      intro entry hentry
      rcases EndpointCache.entry?_keep (e := ⟨endpoint, t.now⟩)
        (hfinds hoverride endpoint hlocate) hentry with hold | ⟨hs, hnew⟩
      · exact h entry hold
      · rw [hsource hs, hlocate, hnew]

/-- A connection changes nothing that can be read for another source. -/
theorem entry?_connect_of_ne {s : Source} (hs : s ≠ l.source) :
    (l.connect w t cache).value.cache.entry? s = cache.entry? s := by
  have hcontent : (l.connect w t cache).value.cache.content? s = cache.content? s :=
    Visit.content?_connect_of_ne (v := ⟨l, w, t⟩) hs
  rw [EndpointCache.entry?, hcontent, EndpointCache.entry?]

end Locator

/-! ### Passes -/

namespace Pass

/-- The result of a pass without a cache. -/
def uncached (catalog : Catalog) (config : PassConfig) (w : Surroundings) :
    Except PassError PassReport :=
  match (kubeletLocator config).fresh w config.timeout with
  | .error e => .error (.kubeletDiscovery e)
  | .ok client =>
    (collect catalog config w client ((stateMetricsLocator config).fresh w config.timeout)).value.1

/-- Passes one after the other at the given times, each with the cache that the one before left. -/
def runs (catalog : Catalog) (config : PassConfig) (w : Surroundings) :
    List Time.Instant → EndpointCache → List PassRun
  | [], _ => []
  | now :: rest, cache =>
    let r := (run catalog config w now cache).value
    r :: runs catalog config w rest r.cache

/-- What can be read from the cache for both sources is what a search finds. -/
structure Coherent (config : PassConfig) (w : Surroundings) (cache : EndpointCache) : Prop where
  kubelet : (kubeletLocator config).Cached w config.timeout cache
  stateMetrics : (stateMetricsLocator config).Cached w config.timeout cache

/-- The URLs that a search for either source finds are read back from their texts. -/
structure FindsReadable (config : PassConfig) (w : Surroundings) : Prop where
  kubelet : (kubeletLocator config).FindsReadable w config.timeout
  stateMetrics : (stateMetricsLocator config).FindsReadable w config.timeout

variable {config : PassConfig} {w : Surroundings} {now : Time.Instant} {cache : EndpointCache}

theorem coherent_of_isEmpty (h : cache.IsEmpty) : Coherent config w cache :=
  ⟨Locator.cached_of_isEmpty (t := timing config ⟨0, 0⟩) h,
    Locator.cached_of_isEmpty (t := timing config ⟨0, 0⟩) h⟩

theorem source_ne : (stateMetricsLocator config).source ≠ (kubeletLocator config).source := by
  intro h
  cases h

/-- The connection to the kubelet keeps the cache coherent. -/
theorem coherent_kubeletConnection (hfinds : FindsReadable config w)
    (h : Coherent config w cache) : Coherent config w (kubeletConnection config w now cache).cache where
  kubelet := Locator.cached_connect hfinds.kubelet (fun _ => rfl) h.kubelet
  stateMetrics := Locator.cached_connect hfinds.kubelet (fun hs => absurd hs source_ne) h.stateMetrics

/-- The connection to kube-state-metrics keeps the cache coherent. -/
theorem coherent_stateMetricsConnection (hfinds : FindsReadable config w)
    (h : Coherent config w cache) :
    Coherent config w (stateMetricsConnection config w now cache).cache where
  kubelet := Locator.cached_connect hfinds.stateMetrics (fun hs => absurd hs.symm source_ne)
    (coherent_kubeletConnection hfinds h).kubelet
  stateMetrics := Locator.cached_connect hfinds.stateMetrics (fun _ => rfl)
    (coherent_kubeletConnection hfinds h).stateMetrics

/-- The cache after a pass is the one after both connections. -/
theorem cache_run (catalog : Catalog) (config : PassConfig) (w : Surroundings) (now : Time.Instant)
    (cache : EndpointCache) : (run catalog config w now cache).value.cache =
      (stateMetricsConnection config w now cache).cache := by
  rw [value_run]
  cases (kubeletConnection config w now cache).client <;> rfl

/-- A pass with a coherent cache has the result of a pass without one. -/
theorem result_run_eq_uncached (catalog : Catalog) (hfinds : FindsReadable config w)
    (h : Coherent config w cache) :
    (run catalog config w now cache).value.result = uncached catalog config w := by
  have hkubelet : (kubeletConnection config w now cache).client =
      (kubeletLocator config).fresh w config.timeout :=
    Locator.client_connect h.kubelet
  have hstateMetrics : (stateMetricsConnection config w now cache).client =
      (stateMetricsLocator config).fresh w config.timeout :=
    Locator.client_connect (coherent_kubeletConnection hfinds h).stateMetrics
  rw [uncached, ← hkubelet, ← hstateMetrics]
  cases hclient : (kubeletConnection config w now cache).client with
  | error e => exact result_run_of_missing hclient
  | ok client => exact result_run_of_found hclient

/-- The cache is transparent. Passes one after the other in surroundings that do not change, at any times and
with any limit on the age of entries, all have the result of a pass without a cache, if they start without
entries. -/
theorem result_runs_eq_uncached (catalog : Catalog) (config : PassConfig) (w : Surroundings)
    (hfinds : FindsReadable config w) (times : List Time.Instant) {cache : EndpointCache}
    (hempty : cache.IsEmpty) :
    (runs catalog config w times cache).map PassRun.result =
      List.replicate times.length (uncached catalog config w) := by
  have hcoherent : Coherent config w cache := coherent_of_isEmpty hempty
  clear hempty
  induction times generalizing cache with
  | nil => rfl
  | cons now rest ih =>
    rw [runs, List.map_cons, List.length_cons, List.replicate_succ,
      result_run_eq_uncached catalog hfinds hcoherent]
    congr 1
    refine ih ?_
    rw [cache_run]
    exact coherent_stateMetricsConnection hfinds hcoherent

/-- A pass whose entries count for an hour and half a second. -/
def hourly : PassConfig := { PassConfig.default with cacheNanos := 500000000 }

theorem findsReadable_surroundingsOf : FindsReadable hourly (surroundingsOf "10.0.0.1" 200) where
  kubelet := by
    have hlocate : ((kubeletLocator hourly).locate (surroundingsOf "10.0.0.1" 200) hourly.timeout).run.value =
        .ok plainEndpoint := by
      decide +kernel
    intro _ e he
    rw [hlocate] at he
    obtain rfl := Except.ok.inj he
    decide +kernel
  stateMetrics := by
    have hlocate : ((stateMetricsLocator hourly).locate (surroundingsOf "10.0.0.1" 200)
        hourly.timeout).run.value =
          .ok ⟨{ serviceUrl with path := .segments [""] }, "10.0.0.1", .none⟩ := by
      decide +kernel
    intro _ e he
    rw [hlocate] at he
    obtain rfl := Except.ok.inj he
    decide +kernel

/-- Both sources fill the store of every pass. The second pass uses the entries in their last nanosecond, the third
finds them too old, and the fourth uses those that the third wrote. -/
theorem result_runs_surroundingsOf :
    FindsReadable hourly (surroundingsOf "10.0.0.1" 200) ∧ EndpointCache.missing.IsEmpty ∧
    (uncached .standard hourly (surroundingsOf "10.0.0.1" 200)).isOk = true ∧
    (runs .standard hourly (surroundingsOf "10.0.0.1" 200)
        [⟨0, 0⟩, ⟨3600, 500000000⟩, ⟨3600, 500000001⟩, ⟨7000, 0⟩] .missing).map PassRun.result =
      List.replicate 4 (uncached .standard hourly (surroundingsOf "10.0.0.1" 200)) :=
  have hempty : EndpointCache.missing.IsEmpty := fun source => by cases source <;> rfl
  ⟨findsReadable_surroundingsOf, hempty, by decide +kernel,
    result_runs_eq_uncached .standard hourly _ findsReadable_surroundingsOf _ hempty⟩

end Pass

end NodeTelemetry
