import NodeTelemetry.Proofs.Pass.Reports
import NodeTelemetry.Proofs.Pass.Transparency

/-!
# Given endpoints

An endpoint that is given passes the cache by in both directions: the connection neither reads an entry nor keeps one.
What a connection to the other source sees of the cache is not changed by it, so each source is connected to as if it
were alone, and what is given for one source does not matter to the other.

## Main definitions

* `Locator.searched`: a connection that passes the cache by.
* `Pass.locator`, `Pass.connection`, `PassConfig.Gives`, `PassConfig.withoutUrl`: a pass by source.

## Main statements

* `Locator.connect_of_override`: a given endpoint passes the cache by.
* `Pass.connection_alone`: a source is connected to as if it were alone.
* `Pass.given_endpoints_bypass_cache`: what given endpoints do to a pass.
-/

namespace NodeTelemetry

/-! ### Connections that pass the cache by -/

namespace Locator

/-- The client for a source that is searched for, whatever the cache has. -/
def searched (l : Locator) (w : Surroundings) (timeout : Time.Span) :
    Traced (Except DiscoveryError SourceClient) := do
  match ← (l.locate w timeout).run with
  | .error e => return .error e
  | .ok endpoint => openClient w endpoint

theorem connect_of_override {l : Locator} (h : l.hasOverride = true) (w : Surroundings) (t : Timing)
    (c : EndpointCache) :
    l.connect w t c = (fun client => ⟨client, c⟩) <$> l.searched w t.timeout := by
  rw [connect, h, searched]
  apply Traced.ext
  · simp only [if_true, Traced.value_bind, Traced.value_map]
    cases (l.locate w t.timeout).run.value <;> rfl
  · simp only [if_true, Traced.calls_bind, Traced.calls_map]
    cases (l.locate w t.timeout).run.value with
    | error e => rfl
    | ok endpoint => exact congrArg _ (List.append_nil _)

end Locator

/-! ### A pass by source -/

/-- The endpoint that is given for a source, if there is one. -/
def PassConfig.url? (config : PassConfig) : Source → Option String
  | .kubelet => config.kubeletUrl
  | .stateMetrics => config.stateMetricsUrl

/-- The same without an endpoint for a source. -/
def PassConfig.withoutUrl (config : PassConfig) : Source → PassConfig
  | .kubelet => { config with kubeletUrl := none }
  | .stateMetrics => { config with stateMetricsUrl := none }

/-- An endpoint is given for the source: the text is not empty. -/
def PassConfig.Gives (config : PassConfig) (s : Source) : Prop :=
  ∃ url, config.url? s = some url ∧ url ≠ ""

theorem Locator.isSome_given?_iff {url : Option String} :
    (given? url).isSome = true ↔ ∃ text, url = some text ∧ text ≠ "" := by
  cases url with
  | none => simp [given?]
  | some text => simp [given?, Option.filter]

namespace Pass

/-- How a source is found in a pass. -/
def locator (config : PassConfig) : Source → Locator
  | .kubelet => kubeletLocator config
  | .stateMetrics => stateMetricsLocator config

/-- The connection of a pass to a source. -/
def connection (config : PassConfig) (w : Surroundings) (now : Time.Instant) (cache : EndpointCache) :
    Source → Connection
  | .kubelet => kubeletConnection config w now cache
  | .stateMetrics => stateMetricsConnection config w now cache

/-- The visit to a source that a pass makes. -/
def visit (config : PassConfig) (w : Surroundings) (now : Time.Instant) (s : Source) : Visit :=
  ⟨locator config s, w, timing config now⟩

variable {catalog : Catalog} {config : PassConfig} {w : Surroundings} {now : Time.Instant}
  {cache : EndpointCache} {s : Source}

theorem hasOverride_iff : (locator config s).hasOverride = true ↔ config.Gives s := by
  cases s with
  | kubelet => exact Locator.isSome_given?_iff
  | stateMetrics => exact Locator.isSome_given?_iff

/-- What is given for one source does not matter for how the other is found. -/
theorem locator_withoutUrl_of_ne {other : Source} (h : other ≠ s) :
    locator (config.withoutUrl s) other = locator config other := by
  cases s <;> cases other <;> first | exact absurd rfl h | rfl

theorem locator_withoutUrl_of_empty (h : config.url? s = some "") :
    locator (config.withoutUrl s) s = locator config s := by
  cases s with
  | kubelet =>
    have hurl : config.kubeletUrl = some "" := h
    change Kubelet.locator _ none = Kubelet.locator _ config.kubeletUrl
    rw [hurl]
    rfl
  | stateMetrics =>
    have hurl : config.stateMetricsUrl = some "" := h
    change StateMetrics.locator none = StateMetrics.locator config.stateMetricsUrl
    rw [hurl]
    rfl

/-- A pass connects to each source as if it were alone. -/
theorem connection_alone (catalog : Catalog) (config : PassConfig) (w : Surroundings) (now : Time.Instant)
    (cache : EndpointCache) (s : Source) :
    (connection config w now cache s).client = ((visit config w now s).connect cache).value.client ∧
      (run catalog config w now cache).value.cache.slot s =
        ((visit config w now s).connect cache).value.cache.slot s := by
  rw [cache_run]
  cases s with
  | kubelet =>
    -- the connection to kube-state-metrics comes later, and leaves the place of the kubelet alone
    have hlater : EndpointCache.AgreeOn .kubelet (stateMetricsConnection config w now cache).cache
        (kubeletConnection config w now cache).cache :=
      (visit config w now .stateMetrics).agreeOn_connect Source.noConfusion
    exact ⟨rfl, hlater.slot_eq⟩
  | stateMetrics =>
    have hearlier : EndpointCache.AgreeOn .stateMetrics (kubeletConnection config w now cache).cache cache :=
      (visit config w now .kubelet).agreeOn_connect Source.noConfusion
    obtain ⟨hclient, hcache⟩ := (visit config w now .stateMetrics).connect_congr hearlier
    exact ⟨hclient, hcache.slot_eq⟩

/-- Passes with both endpoints given differ in nothing but the cache, which each of them leaves as it is. -/
theorem run_of_given (hgiven : ∀ s, config.Gives s) (catalog : Catalog) (w : Surroundings)
    (now now' : Time.Instant) (cache cache' : EndpointCache) :
    run catalog config w now cache =
      (fun r => { r with cache := cache }) <$> run catalog config w now' cache' := by
  have hkubelet : (kubeletLocator config).hasOverride = true := hasOverride_iff.2 (hgiven .kubelet)
  have hstateMetrics : (stateMetricsLocator config).hasOverride = true :=
    hasOverride_iff.2 (hgiven .stateMetrics)
  simp only [run, Locator.connect_of_override hkubelet, Locator.connect_of_override hstateMetrics]
  generalize (kubeletLocator config).searched w config.timeout = kubelet
  generalize (stateMetricsLocator config).searched w config.timeout = stateMetrics
  -- the kubelet alone decides whether the second connection is made
  obtain ⟨client, calls⟩ := kubelet
  cases client with
  | error e =>
    apply Traced.ext
    · rfl
    · simp only [Traced.calls_bind, Traced.calls_map, Traced.value_map, Traced.calls_pure]
  | ok client =>
    apply Traced.ext
    · rfl
    · simp only [Traced.calls_bind, Traced.calls_map, Traced.value_map, Traced.calls_pure]

/-- A given endpoint is used whatever the time is and whatever the cache has, and the entry of its source stays. -/
theorem connection_of_given (hgiven : config.Gives s) (catalog : Catalog) (w : Surroundings)
    (now : Time.Instant) (cache : EndpointCache) :
    (connection config w now cache s).client = ((locator config s).searched w config.timeout).value ∧
      (run catalog config w now cache).value.cache.slot s = cache.slot s := by
  have hconnect : (visit config w now s).connect cache =
      (fun client => ⟨client, cache⟩) <$> (locator config s).searched w config.timeout :=
    Locator.connect_of_override (hasOverride_iff.2 hgiven) w (timing config now) cache
  obtain ⟨hclient, hslot⟩ := connection_alone catalog config w now cache s
  rw [hclient, hslot, hconnect]
  exact ⟨rfl, rfl⟩

/-- The connection to a source and its entry afterwards do not depend on what is given for the other source. -/
theorem connection_withoutUrl {other : Source} (hother : other ≠ s) (catalog : Catalog) (config : PassConfig)
    (w : Surroundings) (now : Time.Instant) (cache : EndpointCache) :
    (connection config w now cache other).client =
        (connection (config.withoutUrl s) w now cache other).client ∧
      (run catalog config w now cache).value.cache.slot other =
        (run catalog (config.withoutUrl s) w now cache).value.cache.slot other := by
  have hvisit : visit (config.withoutUrl s) w now other = visit config w now other := by
    rw [visit, visit, locator_withoutUrl_of_ne hother]
    cases s <;> rfl
  obtain ⟨hclient, hslot⟩ := connection_alone catalog config w now cache other
  obtain ⟨hclient', hslot'⟩ := connection_alone catalog (config.withoutUrl s) w now cache other
  rw [hvisit] at hclient' hslot'
  exact ⟨hclient.trans hclient'.symm, hslot.trans hslot'.symm⟩

theorem run_withoutUrl_of_empty (h : config.url? s = some "") (catalog : Catalog) (w : Surroundings)
    (now : Time.Instant) (cache : EndpointCache) :
    run catalog config w now cache = run catalog (config.withoutUrl s) w now cache := by
  have hlocator : ∀ source, locator (config.withoutUrl s) source = locator config source := by
    intro source
    by_cases hsource : source = s
    · rw [hsource, locator_withoutUrl_of_empty h]
    · exact locator_withoutUrl_of_ne hsource
  have hkubelet : kubeletLocator (config.withoutUrl s) = kubeletLocator config := hlocator .kubelet
  have hstateMetrics : stateMetricsLocator (config.withoutUrl s) = stateMetricsLocator config :=
    hlocator .stateMetrics
  rw [run, run, hkubelet, hstateMetrics]
  cases s <;> rfl

/-- Given endpoints pass the cache by. With both given, a pass gives the same at any time and with any cache, and
leaves the cache as it is. With one given, its client depends on neither, and its entry stays, while the other source
is connected to and kept as in a pass without it. An empty text gives no endpoint. -/
theorem given_endpoints_bypass_cache (catalog : Catalog) (config : PassConfig) (w : Surroundings) :
    ((∀ s, config.Gives s) → ∀ now now' cache cache',
      let pass := run catalog config w now cache
      let pass' := run catalog config w now' cache'
      pass.value.result = pass'.value.result ∧ pass.value.events = pass'.value.events ∧
        pass.calls = pass'.calls ∧ pass.value.cache = cache ∧ pass'.value.cache = cache') ∧
    (∀ s, config.Gives s → ∀ now cache,
      (∀ now' cache', (connection config w now cache s).client =
        (connection config w now' cache' s).client) ∧
      (run catalog config w now cache).value.cache.slot s = cache.slot s ∧
      ∀ other, other ≠ s →
        (connection config w now cache other).client =
          (connection (config.withoutUrl s) w now cache other).client ∧
        (run catalog config w now cache).value.cache.slot other =
          (run catalog (config.withoutUrl s) w now cache).value.cache.slot other) ∧
    ∀ s, config.url? s = some "" → ∀ now cache,
      run catalog config w now cache = run catalog (config.withoutUrl s) w now cache := by
  refine ⟨fun hgiven now now' cache cache' => ?_, fun s hgiven now cache => ?_, fun s hempty now cache => ?_⟩
  · intro pass pass'
    have hpass : pass = (fun r => { r with cache := cache }) <$> pass' :=
      run_of_given hgiven catalog w now now' cache cache'
    have hpass' : pass' = (fun r => { r with cache := cache' }) <$> pass :=
      run_of_given hgiven catalog w now' now cache' cache
    refine ⟨?_, ?_, ?_, ?_, ?_⟩
    · rw [hpass, Traced.value_map]
    · rw [hpass, Traced.value_map]
    · rw [hpass, Traced.calls_map]
    · rw [hpass, Traced.value_map]
    · rw [hpass', Traced.value_map]
  · obtain ⟨hclient, hslot⟩ := connection_of_given hgiven catalog w now cache
    refine ⟨fun now' cache' => ?_, hslot, fun other hother => ?_⟩
    · rw [hclient, (connection_of_given hgiven catalog w now' cache').1]
    · exact connection_withoutUrl hother catalog config w now cache
  · exact run_withoutUrl_of_empty hempty catalog w now cache

/-- A pass for which both endpoints are given. -/
def givenBoth : PassConfig :=
  { PassConfig.default with
    kubeletUrl := some "10.0.0.1:10255"
    stateMetricsUrl := some "http://kube-state-metrics.kube-system.svc.cluster.local:8080" }

/-- A pass for which the endpoint of the kubelet is given, and an empty text for the other. -/
def givenKubelet : PassConfig := { givenBoth with stateMetricsUrl := some "" }

/-- A cache in which no file can be read as an entry. -/
def corrupt : EndpointCache := .directory true (.file "here") (.file "there")

/-- Files that can not be read do not matter to given endpoints and stay. The entry of a source without one is
written anew. -/
theorem given_endpoints_bypass_cache_corrupt :
    (∀ s, givenBoth.Gives s) ∧ givenKubelet.Gives .kubelet ∧
    (run .standard givenBoth answering ⟨0, 0⟩ corrupt).value.result =
      (run .standard givenBoth answering ⟨60, 0⟩ .missing).value.result ∧
    (run .standard givenBoth answering ⟨0, 0⟩ corrupt).value.cache = corrupt ∧
    (run .standard givenKubelet answering ⟨0, 0⟩ corrupt).value.cache.slot .kubelet = .file "here" ∧
    (run .standard givenKubelet answering ⟨0, 0⟩ corrupt).value.cache.slot .stateMetrics ≠ .file "there" ∧
    run .standard givenKubelet answering ⟨0, 0⟩ corrupt =
      run .standard { givenKubelet with stateMetricsUrl := none } answering ⟨0, 0⟩ corrupt := by
  have hboth : ∀ s, givenBoth.Gives s := by
    intro s
    cases s with
    | kubelet => exact ⟨_, rfl, by decide⟩
    | stateMetrics => exact ⟨_, rfl, by decide⟩
  have hkubelet : givenKubelet.Gives .kubelet := ⟨_, rfl, by decide⟩
  obtain ⟨hsame, -, -⟩ := given_endpoints_bypass_cache .standard givenBoth answering
  obtain ⟨-, hone, hempty⟩ := given_endpoints_bypass_cache .standard givenKubelet answering
  obtain ⟨hresult, -, -, hcache, -⟩ := hsame hboth ⟨0, 0⟩ ⟨60, 0⟩ corrupt .missing
  obtain ⟨-, hslot, -⟩ := hone .kubelet hkubelet ⟨0, 0⟩ corrupt
  exact ⟨hboth, hkubelet, hresult, hcache, hslot, by decide +kernel, hempty .stateMetrics rfl ⟨0, 0⟩ corrupt⟩

end Pass

end NodeTelemetry
