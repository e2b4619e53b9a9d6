import Mathlib.Control.Monad.Basic
import NodeTelemetry.Proofs.EndpointCache.Writes
import NodeTelemetry.Proofs.Location
import NodeTelemetry.Proofs.Pass.Stages

/-!
# Visits that share a cache

A visit is one connection to a source, at some time and in some surroundings. Visits one after the other share a cache:
each finds what the visits before it left. What one visit does follows from what the cache gives it (`Visit.known?`)
and from what a search would find (`Visit.search`); what a run of visits does to an entry follows by induction.

## Main definitions

* `Visit`: one connection.
* `EndpointCache.afterVisits`: the cache after a run of visits.

## Main statements

* `Visit.connect_of_known`, `Visit.connect_of_failed`, `Visit.connect_of_found`: what a visit does.
* `Visit.connect_congr`, `Visit.agreeOn_connect`: what a visit sees of the cache, and what it changes.
* `EndpointCache.entry?_afterVisits`: an entry stays while it counts.
* `Visit.run_without_override`: what visits without a given endpoint do.
-/

namespace NodeTelemetry

theorem EndpointCache.live?_of_isLive {c : EndpointCache} {s : Source} {entry : CacheEntry} {ttl : Time.Lifetime}
    {now : Time.Instant} (hentry : c.entry? s = some entry) (hlive : entry.isLive ttl now = true) :
    c.live? ttl now s = some entry.endpoint := by
  simp [live?, hentry, Option.filter, hlive]

/-! ### One visit -/

/-- A connection to a source: how the source is found, in which surroundings, and when. -/
structure Visit where
  locator : Locator
  surroundings : Surroundings
  timing : Timing

namespace Visit

/-- The source that is visited. -/
def source (v : Visit) : Source := v.locator.source

/-- The connection, through a cache. -/
def connect (v : Visit) (c : EndpointCache) : Traced Connection :=
  v.locator.connect v.surroundings v.timing c

/-- The search for the source, which a visit makes if it has to. -/
def search (v : Visit) : Traced (Except DiscoveryError Endpoint) :=
  (v.locator.locate v.surroundings v.timing.timeout).run

/-- The client for an endpoint. -/
def client (v : Visit) (e : Endpoint) : Traced (Except DiscoveryError SourceClient) :=
  Locator.openClient v.surroundings e

/-- The endpoint of the source that still counts. -/
def live? (v : Visit) (c : EndpointCache) : Option Endpoint :=
  c.live? v.timing.ttl v.timing.now v.source

/-- The endpoint that a visit takes from the cache: none if the endpoint is given. -/
def known? (v : Visit) (c : EndpointCache) : Option Endpoint :=
  if v.locator.hasOverride then none else v.live? c

/-- The entry for an endpoint that a visit finds. -/
def entry (v : Visit) (e : Endpoint) : CacheEntry := ⟨e, v.timing.now⟩

/-- The cache after a visit that finds an endpoint. -/
def kept (v : Visit) (c : EndpointCache) (e : Endpoint) : EndpointCache :=
  if v.locator.hasOverride then c else c.keep v.source (v.entry e)

variable {v : Visit} {c : EndpointCache} {e : Endpoint}

theorem known?_of_not_override (h : v.locator.hasOverride = false) : v.known? c = v.live? c := by
  simp [known?, h]

theorem live?_of_known (h : v.known? c = some e) : v.live? c = some e := by
  rw [known?] at h
  split at h
  · cases h
  · exact h

/-- A visit that knows an endpoint uses it, makes no search and leaves the cache as it is. -/
theorem connect_of_known (h : v.known? c = some e) :
    v.connect c = ⟨⟨(v.client e).value, c⟩, (v.client e).calls⟩ := by
  simp only [known?, live?, source] at h
  rw [connect, Locator.connect]
  simp only [h]
  exact Traced.ext rfl (List.append_nil _)

/-- A visit whose search fails gives that failure and leaves the cache as it is. -/
theorem connect_of_failed {failure : DiscoveryError} (h : v.known? c = none)
    (hsearch : v.search.value = .error failure) :
    v.connect c = ⟨⟨.error failure, c⟩, v.search.calls⟩ := by
  simp only [known?, live?, source] at h
  rw [search] at hsearch
  rw [connect, Locator.connect]
  simp only [h]
  refine Traced.ext ?_ ?_
  · rw [Traced.value_bind, hsearch]
    rfl
  · rw [Traced.calls_bind, hsearch]
    exact List.append_nil _

/-- A visit whose search finds an endpoint uses it and keeps it. -/
theorem connect_of_found (h : v.known? c = none) (hsearch : v.search.value = .ok e) :
    v.connect c = ⟨⟨(v.client e).value, v.kept c e⟩, v.search.calls ++ (v.client e).calls⟩ := by
  simp only [known?, live?, source] at h
  rw [search] at hsearch
  rw [connect, Locator.connect]
  simp only [h]
  refine Traced.ext ?_ ?_
  · rw [Traced.value_bind, hsearch]
    rfl
  · rw [Traced.calls_bind, hsearch]
    exact congrArg _ (List.append_nil _)

/-- What a visit leaves in the cache is what was there, or what it keeps of an endpoint that it searched for. -/
theorem cache_connect_cases (v : Visit) (c : EndpointCache) :
    (v.connect c).value.cache = c ∨
      ∃ e, v.known? c = none ∧ v.search.value = .ok e ∧ (v.connect c).value.cache = v.kept c e := by
  cases hknown : v.known? c with
  | some e => exact .inl (by rw [connect_of_known hknown])
  | none =>
    cases hsearch : v.search.value with
    | error failure => exact .inl (by rw [connect_of_failed hknown hsearch])
    | ok e => exact .inr ⟨e, rfl, rfl, by rw [connect_of_found hknown hsearch]⟩

/-- A visit leaves the cache as it looks to any other source. -/
theorem agreeOn_connect {s : Source} (hs : s ≠ v.source) :
    EndpointCache.AgreeOn s (v.connect c).value.cache c := by
  rcases v.cache_connect_cases c with hcache | ⟨e, -, -, hcache⟩
  · rw [hcache]
    exact ⟨rfl, rfl⟩
  · rw [hcache, kept]
    split
    · exact ⟨rfl, rfl⟩
    · exact EndpointCache.agreeOn_keep_of_ne hs _

theorem content?_connect_of_ne {s : Source} (hs : s ≠ v.source) :
    (v.connect c).value.cache.content? s = c.content? s :=
  (agreeOn_connect hs).content?_eq

/-- On caches that look alike to its source a visit does the same, and they look alike afterwards. -/
theorem connect_congr {c' : EndpointCache} (h : EndpointCache.AgreeOn v.source c c') :
    (v.connect c).value.client = (v.connect c').value.client ∧
      EndpointCache.AgreeOn v.source (v.connect c).value.cache (v.connect c').value.cache := by
  have hlive : v.live? c = v.live? c' := EndpointCache.live?_congr h.content?_eq _ _
  have hknown : v.known? c = v.known? c' := by
    rw [known?, known?, hlive]
  cases hc : v.known? c with
  | some e =>
    rw [connect_of_known hc, connect_of_known (hknown ▸ hc)]
    exact ⟨rfl, h⟩
  | none =>
    have hc' : v.known? c' = none := hknown ▸ hc
    cases hsearch : v.search.value with
    | error failure =>
      rw [connect_of_failed hc hsearch, connect_of_failed hc' hsearch]
      exact ⟨rfl, h⟩
    | ok e =>
      rw [connect_of_found hc hsearch, connect_of_found hc' hsearch]
      refine ⟨rfl, ?_⟩
      -- an endpoint that is given is not kept
      by_cases hoverride : v.locator.hasOverride = true
      · simp only [kept, if_pos hoverride, h]
      · simp only [kept, if_neg hoverride, h.keep]

/-- An entry of another source stays, and so does one that still counts when its source is visited. -/
theorem entry?_connect {s : Source} {entry : CacheEntry} (hentry : c.entry? s = some entry)
    (hlive : v.source = s → entry.isLive v.timing.ttl v.timing.now = true) :
    (v.connect c).value.cache.entry? s = some entry := by
  by_cases hs : s = v.source
  · subst hs
    rcases v.cache_connect_cases c with hcache | ⟨e, hknown, -, hcache⟩
    · rw [hcache, hentry]
    · -- nothing is known only if the endpoint is given, and then nothing is kept
      have hcount := EndpointCache.live?_of_isLive hentry (hlive rfl)
      rw [known?] at hknown
      split at hknown
      · next hoverride => rw [hcache, kept, if_pos hoverride, hentry]
      · rw [live?, hcount] at hknown
        cases hknown
  · rw [EndpointCache.entry?, content?_connect_of_ne hs, ← EndpointCache.entry?, hentry]

end Visit

/-! ### Runs of visits -/

namespace EndpointCache

/-- The cache after visits one after the other. -/
def afterVisits (c : EndpointCache) (visits : List Visit) : EndpointCache :=
  visits.foldl (fun c v => (v.connect c).value.cache) c

theorem afterVisits_append (c : EndpointCache) (first second : List Visit) :
    c.afterVisits (first ++ second) = (c.afterVisits first).afterVisits second :=
  List.foldl_append

theorem afterVisits_cons (c : EndpointCache) (v : Visit) (rest : List Visit) :
    c.afterVisits (v :: rest) = (v.connect c).value.cache.afterVisits rest := rfl

/-- An entry stays as long as it counts at every visit of its source. -/
theorem entry?_afterVisits {c : EndpointCache} {s : Source} {entry : CacheEntry} {visits : List Visit}
    (hentry : c.entry? s = some entry)
    (hlive : ∀ v ∈ visits, v.source = s → entry.isLive v.timing.ttl v.timing.now = true) :
    EndpointCache.entry? (c.afterVisits visits) s = some entry := by
  induction visits generalizing c with
  | nil => exact hentry
  | cons v rest ih =>
    obtain ⟨hv, hrest⟩ := List.forall_mem_cons.1 hlive
    exact ih (Visit.entry?_connect hentry hv) hrest

end EndpointCache

namespace Visit

variable {v : Visit} {c : EndpointCache} {e : Endpoint}

/-- An entry that still counts at a visit counted at every visit before it. -/
theorem isLive_of_later {t u w : Time.Instant} {e : Endpoint} {ttl : Time.Lifetime} (ht : t.IsReading)
    (hu : u.IsReading) (hw : w.IsReading) (hle : 0 ≤ w.since u)
    (hage : w.since t ≤ ttl.nanos) :
    (CacheEntry.mk e t).isLive ttl u = true := by
  have hsum := Time.Instant.since_add_since hw.plain hu.plain ht.plain
  refine decide_eq_true ?_
  change u.since t ≤ _
  omega

/-- An endpoint that was written is used by every visit of the source until its time is over, whatever visits are made
in between. -/
theorem connect_after_write {w : Visit} {between : List Visit} {after : EndpointCache}
    (hwrite : c.write v.source (v.entry e) = .ok after) (hurl : Url.parse e.url.text = .ok e.url)
    (hv : v.timing.now.IsReading) (hw : w.timing.now.IsReading) (hs : w.source = v.source)
    (hsearch : w.locator.hasOverride = false)
    (hage : w.timing.now.since v.timing.now ≤ w.timing.ttl.nanos)
    (hbetween : ∀ u ∈ between, u.timing.ttl = w.timing.ttl ∧ u.timing.now.IsReading ∧
      0 ≤ w.timing.now.since u.timing.now) :
    w.connect (after.afterVisits between) =
      ⟨⟨(w.client e).value, after.afterVisits between⟩, (w.client e).calls⟩ := by
  have hentry : EndpointCache.entry? (after.afterVisits between) v.source = some (v.entry e) := by
    have hwritten := EndpointCache.entry?_of_write hwrite hurl hv.toIsProper
    refine EndpointCache.entry?_afterVisits hwritten fun u hu _ => ?_
    obtain ⟨httl, hclock, hle⟩ := hbetween u hu
    rw [httl]
    exact isLive_of_later hv hclock hw hle hage
  refine connect_of_known ?_
  rw [known?_of_not_override hsearch, live?, hs]
  exact EndpointCache.live?_of_isLive hentry (decide_eq_true hage)

/-- What visits without a given endpoint do that share a cache, at times that do not decrease. A visit searches for its
source once if there is no entry that still counts, and not at all if there is one. A search that fails leaves the
cache as it is, and an entry that can not be written is no failure. An endpoint that is found and written is used by
all visits of the source until its time is over, and what can be read of the other source never changes. -/
theorem run_without_override (c : EndpointCache) (visits : List Visit) (ttl : Time.Lifetime)
    (hsearch : ∀ v ∈ visits, v.locator.hasOverride = false)
    (httl : ∀ v ∈ visits, v.timing.ttl = ttl)
    (hclock : ∀ v ∈ visits, v.timing.now.IsReading)
    (hsorted : visits.Pairwise fun v w => 0 ≤ w.timing.now.since v.timing.now)
    (before : List Visit) (v : Visit) (later : List Visit) (hvisits : visits = before ++ v :: later) :
    let current := c.afterVisits before
    (∀ e, v.live? current = some e →
      v.connect current = ⟨⟨(v.client e).value, current⟩, (v.client e).calls⟩) ∧
    (∀ failure, v.live? current = none → v.search.value = .error failure →
      v.connect current = ⟨⟨.error failure, current⟩, v.search.calls⟩) ∧
    (∀ e, v.live? current = none → v.search.value = .ok e →
      (v.connect current).value.client = (v.client e).value ∧
      (v.connect current).calls = v.search.calls ++ (v.client e).calls ∧
      (∀ cause, current.write v.source (v.entry e) = .error cause → (v.connect current).value.cache = current) ∧
      (∀ after, current.write v.source (v.entry e) = .ok after → (v.connect current).value.cache = after ∧
        (Url.parse e.url.text = .ok e.url → ∀ (between : List Visit) (w : Visit) (rest : List Visit),
          later = between ++ w :: rest → w.source = v.source →
          w.timing.now.since v.timing.now ≤ ttl.nanos →
          w.connect (c.afterVisits (before ++ v :: between)) =
            ⟨⟨(w.client e).value, c.afterVisits (before ++ v :: between)⟩, (w.client e).calls⟩))) ∧
    (∀ s, s ≠ v.source → ∀ ttl now,
      (v.connect current).value.cache.live? ttl now s = current.live? ttl now s) := by
  intro current
  have hmem : ∀ u ∈ v :: later, u ∈ visits := fun u hu => hvisits ▸ List.mem_append_right before hu
  have hv := hmem v (.head _)
  have hknown := known?_of_not_override (c := current) (hsearch v hv)
  refine ⟨fun e hlive => ?_, fun failure hlive hfailure => ?_, fun e hlive hfound => ?_,
    fun s hs ttl now => ?_⟩
  · exact connect_of_known (hknown.trans hlive)
  · exact connect_of_failed (hknown.trans hlive) hfailure
  · have hconnect := connect_of_found (hknown.trans hlive) hfound
    have hkept : v.kept current e = current.keep v.source (v.entry e) := by simp [kept, hsearch v hv]
    refine ⟨by rw [hconnect], by rw [hconnect], fun cause hwrite => ?_, fun after hwrite => ?_⟩
    · rw [hconnect, hkept, EndpointCache.keep, hwrite]
    · have hcache : (v.connect current).value.cache = after := by
        rw [hconnect, hkept, EndpointCache.keep, hwrite]
      refine ⟨hcache, fun hurl between w rest hlater hs hage => ?_⟩
      have hw := hmem w (by simp [hlater])
      have hle : ∀ u ∈ between, 0 ≤ w.timing.now.since u.timing.now := by
        rw [hvisits, hlater] at hsorted
        have htail := (List.pairwise_cons.1 (List.pairwise_append.1 hsorted).2.1).2
        exact fun u hu => (List.pairwise_append.1 htail).2.2 u hu w (.head _)
      rw [EndpointCache.afterVisits_append, EndpointCache.afterVisits_cons, hcache]
      refine connect_after_write hwrite hurl (hclock v hv) (hclock w hw) hs (hsearch w hw)
        (by rwa [httl w hw]) fun u hu => ?_
      have hu' := hmem u (by simp [hlater, hu])
      exact ⟨(httl u hu').trans (httl w hw).symm, hclock u hu', hle u hu⟩
  · exact EndpointCache.live?_congr (content?_connect_of_ne hs) _ now

/-- How long the entries of these visits count: an hour and half a second. -/
def anHour : Time.Lifetime := ⟨3600500000000⟩

/-- A visit to the kubelet of a node. -/
def toKubelet (w : Surroundings) (now : Time.Instant) : Visit :=
  ⟨Kubelet.locator "node" none, w, .ofSeconds 5, anHour, now⟩

/-- A visit to kube-state-metrics where nothing answers. -/
def toNobody : Visit :=
  ⟨StateMetrics.locator none, .unreachable, .ofSeconds 5, anHour, ⟨10, 5⟩⟩

/-- A visit that finds the kubelet. -/
def atFirst : Visit := toKubelet (Pass.surroundingsOf "10.0.0.1" 500) ⟨0, 0⟩

/-- A visit to the kubelet at the end of that time, where nothing answers any more. -/
def anHourLater : Visit := toKubelet .unreachable ⟨3600, 500000000⟩

/-- The kubelet that was found is still used in the last nanosecond. -/
theorem run_without_override_anHourLater :
    (∀ v ∈ [atFirst, toNobody, anHourLater], v.locator.hasOverride = false) ∧
    (∀ v ∈ [atFirst, toNobody, anHourLater], v.timing.ttl = anHour) ∧
    (∀ v ∈ [atFirst, toNobody, anHourLater], v.timing.now.IsReading) ∧
    ([atFirst, toNobody, anHourLater].Pairwise fun v w => 0 ≤ w.timing.now.since v.timing.now) ∧
    (anHourLater.connect (EndpointCache.missing.afterVisits [atFirst, toNobody])).value.client =
      .ok (.plain Pass.plainEndpoint) := by
  have hsearch : ∀ v ∈ [atFirst, toNobody, anHourLater], v.locator.hasOverride = false := by decide
  have httl : ∀ v ∈ [atFirst, toNobody, anHourLater], v.timing.ttl = anHour := by decide
  have hclock : ∀ v ∈ [atFirst, toNobody, anHourLater], v.timing.now.IsReading := by
    simp only [Time.Instant.isReading_iff]
    decide
  have hsorted : [atFirst, toNobody, anHourLater].Pairwise fun v w => 0 ≤ w.timing.now.since v.timing.now := by decide
  have hfound : atFirst.search.value = .ok Pass.plainEndpoint := by decide +kernel
  have hwrite : EndpointCache.missing.write .kubelet (atFirst.entry Pass.plainEndpoint) =
      .ok (EndpointCache.missing.setSlot .kubelet (.file (atFirst.entry Pass.plainEndpoint).text)) := by
    simp only [EndpointCache.write, EndpointCache.slot]
  have hnone : atFirst.live? .missing = none := rfl
  obtain ⟨-, -, hrun, -⟩ := run_without_override .missing [atFirst, toNobody, anHourLater] anHour hsearch httl
    hclock hsorted [] atFirst [toNobody, anHourLater] rfl
  have hwritten := (hrun Pass.plainEndpoint hnone hfound).2.2.2 _ hwrite
  have hused := hwritten.2 (by decide +kernel) [toNobody] anHourLater [] rfl rfl (by decide)
  refine ⟨hsearch, httl, hclock, hsorted, ?_⟩
  rw [List.nil_append] at hused
  rw [hused]
  rfl

end Visit

end NodeTelemetry
