import NodeTelemetry.Proofs.Connection.Calls
import NodeTelemetry.Proofs.Connection.Visits
import NodeTelemetry.Proofs.Url.Scheme

/-!
# Where credentials go

The token of the service account is bound to encrypted endpoints of the kubelet. That is decided where an endpoint is
found, by its port or by the scheme of the URL that is given, and it stays so when the endpoint goes through the
cache, since a URL keeps its scheme when it is written and read. So it holds of all endpoints that visits find, keep
or read, and of the clients that are made for them.

## Main definitions

* `Endpoint.IsBound`: the endpoints of a source to which credentials are bound as they should be.
* `EndpointCache.IsBound`: caches with entries for such endpoints alone.
* `Visit.endpoint?`: the endpoint that a visit gets.

## Main statements

* `Kubelet.isBound_of_locate`, `StateMetrics.isBound_of_locate`: endpoints that are found.
* `EndpointCache.isBound_afterVisits`: the cache after a run of visits.
* `Visit.credentials_bound`: what visits find and keep, and the clients that they make.
-/

namespace NodeTelemetry

/-! ### Endpoints -/

/-- Credentials go to encrypted endpoints alone, to all such endpoints of the kubelet, and to no endpoint of
kube-state-metrics, which is asked without encryption. -/
structure Endpoint.IsBound (s : Source) (e : Endpoint) : Prop where
  encrypted : e.auth = .serviceAccount → e.url.scheme = "https"
  kubelet : s = .kubelet → e.url.scheme = "https" → e.auth = .serviceAccount
  stateMetrics : s = .stateMetrics → e.url.scheme = "http" ∧ e.auth = .none

theorem mapError_eq_ok_iff {ε ε' α : Type} {x : Except ε α} {f : ε → ε'} {a : α} :
    x.mapError f = .ok a ↔ x = .ok a := by
  cases x <;> simp [Except.mapError]

theorem map_eq_ok_iff {ε α β : Type} {x : Except ε α} {f : α → β} {b : β} :
    x.map f = .ok b ↔ ∃ a, x = .ok a ∧ f a = b := by
  cases x <;> simp [Except.map]

/-- The URL of a host and a port has the scheme for which it is made. -/
theorem Locator.scheme_urlOf {scheme host : String} {port : Nat} {u : Url} (hscheme : Url.IsWebScheme scheme)
    (h : urlOf scheme host port = .ok u) : u.scheme = scheme := by
  have hparse := mapError_eq_ok_iff.1 h
  have htext : scheme ++ "://" ++ host ++ ":" ++ toString port ++ "/" =
      scheme ++ ":" ++ ("//" ++ host ++ ":" ++ toString port ++ "/") := by
    rw [show "://" = ":" ++ "//" by decide]
    simp only [String.append_assoc]
  rw [htext] at hparse
  exact Url.scheme_parse hscheme hparse

namespace Kubelet

variable {name ip : String} {node : Cluster.Node} {url : Url} {auth : EndpointAuth}

/-- The endpoint that a node implies is encrypted and wants credentials, or neither. -/
theorem nodeEndpoint_cases (h : nodeEndpoint name ip node = .ok (url, auth)) :
    auth = .serviceAccount ∧ url.scheme = "https" ∨ auth = .none ∧ url.scheme = "http" := by
  rw [nodeEndpoint] at h
  split at h
  · cases h
  · next port _ =>
    obtain ⟨found, hurl, heq⟩ := map_eq_ok_iff.1 h
    obtain ⟨rfl, rfl⟩ := Prod.mk.inj heq
    cases hsecure : port == securePort with
    | true =>
      rw [hsecure] at hurl
      exact .inl ⟨rfl, Locator.scheme_urlOf (.inr rfl) hurl⟩
    | false =>
      rw [hsecure] at hurl
      exact .inr ⟨rfl, Locator.scheme_urlOf (.inl rfl) hurl⟩

theorem auth_of_givenEndpoint {text : String} (h : givenEndpoint text = .ok (url, auth)) :
    auth = if url.scheme = "https" then .serviceAccount else .none := by
  obtain ⟨found, -, heq⟩ := map_eq_ok_iff.1 h
  obtain ⟨rfl, rfl⟩ := Prod.mk.inj heq
  rfl

/-- Credentials are bound to a kubelet that is found as they should be, and one that goes into the cache has a scheme of
the web. -/
theorem isBound_of_locate {override : Option String} {w : Surroundings} {timeout : Time.Span} {e : Endpoint}
    (h : ((locator name override).locate w timeout).run.value = .ok e) :
    e.IsBound .kubelet ∧ ((locator name override).hasOverride = false → Url.IsWebScheme e.url.scheme) := by
  obtain ⟨node, -, h⟩ := Lookup.exists_of_value_bind_eq_ok h
  obtain ⟨ip, -, h⟩ := Lookup.exists_of_value_bind_eq_ok h
  obtain ⟨⟨url, auth⟩, hlocated, h⟩ := Lookup.exists_of_value_bind_eq_ok h
  obtain rfl := Except.ok.inj h
  change located name ip (Locator.given? override) node = .ok (url, auth) at hlocated
  change _ ∧ ((Locator.given? override).isSome = false → _)
  cases hgiven : Locator.given? override with
  | some text =>
    rw [hgiven, located] at hlocated
    have hauth := auth_of_givenEndpoint (mapError_eq_ok_iff.1 hlocated)
    refine ⟨⟨fun hsecret => ?_, fun _ hsecure => ?_, fun hs => Source.noConfusion hs⟩, by simp⟩
    · by_contra hplain
      change auth = .serviceAccount at hsecret
      rw [hauth, if_neg hplain] at hsecret
      cases hsecret
    · change auth = .serviceAccount
      rw [hauth, if_pos hsecure]
  | none =>
    rw [hgiven, located] at hlocated
    rcases nodeEndpoint_cases (mapError_eq_ok_iff.1 hlocated) with ⟨rfl, hscheme⟩ | ⟨rfl, hscheme⟩
    · exact ⟨⟨fun _ => hscheme, fun _ _ => rfl, fun hs => Source.noConfusion hs⟩, fun _ => .inr hscheme⟩
    · refine ⟨⟨fun hsecret => EndpointAuth.noConfusion hsecret, fun _ hsecure => ?_,
        fun hs => Source.noConfusion hs⟩, fun _ => .inl hscheme⟩
      change url.scheme = "https" at hsecure
      rw [hscheme] at hsecure
      simp at hsecure

end Kubelet

namespace StateMetrics

theorem scheme_overPlainHttp {url plain : Url} (h : overPlainHttp url = .ok plain) : plain.scheme = "http" := by
  rw [overPlainHttp] at h
  split at h
  · next hscheme =>
    obtain rfl := Except.ok.inj h
    exact hscheme
  · split at h
    · next changed hchanged =>
      obtain rfl := Except.ok.inj h
      rw [Url.withScheme] at hchanged
      split at hchanged
      · obtain rfl := Option.some.inj hchanged
        rfl
      · cases hchanged
    · cases h

/-- Kube-state-metrics is always asked without encryption and without credentials. -/
theorem isBound_of_locate {override : Option String} {w : Surroundings} {timeout : Time.Span} {e : Endpoint}
    (h : ((locator override).locate w timeout).run.value = .ok e) :
    e.IsBound .stateMetrics ∧ Url.IsWebScheme e.url.scheme := by
  have hplain : e.url.scheme = "http" ∧ e.auth = .none := by
    simp only [locator] at h
    split at h
    all_goals
      obtain ⟨url, -, h⟩ := Lookup.exists_of_value_bind_eq_ok h
      obtain ⟨plain, hurl, h⟩ := Lookup.exists_of_value_bind_eq_ok h
      obtain ⟨ip, -, h⟩ := Lookup.exists_of_value_bind_eq_ok h
      obtain rfl := Except.ok.inj h
      exact ⟨scheme_overPlainHttp (mapError_eq_ok_iff.1 hurl), rfl⟩
  refine ⟨⟨fun hsecret => ?_, fun hs => Source.noConfusion hs, fun _ => hplain⟩, .inl hplain.1⟩
  rw [hplain.2] at hsecret
  cases hsecret

end StateMetrics

/-! ### Entries -/

theorem Endpoint.IsBound.of_eq {s : Source} {e e' : Endpoint} (h : e.IsBound s)
    (hscheme : e'.url.scheme = e.url.scheme) (hauth : e'.auth = e.auth) : e'.IsBound s where
  encrypted hsecret := hscheme ▸ h.encrypted (hauth ▸ hsecret)
  kubelet hs hsecure := hauth ▸ h.kubelet hs (hscheme ▸ hsecure)
  stateMetrics hs := by
    rw [hscheme, hauth]
    exact h.stateMetrics hs

/-- The document of an endpoint gives the URL that is read from its text, with the rest of the endpoint. -/
theorem Endpoint.read?_json_eq (e : Endpoint) :
    read? e.json = (Url.parse e.url.text).toOption.map fun url => { e with url := url } := by
  have hauth : readAuth? (.str e.auth.name) = some e.auth := e.auth.ofName?_name
  cases hurl : Url.parse e.url.text <;>
    simp [read?, json, Json.strictRecord, Json.required, Json.defaulted, Json.asText?, readUrl?, hauth, hurl,
      Except.toOption, TextMap.lookup_cons_ite]

/-- What is read from the text of an entry authenticates as the entry does, and has the URL that is read. -/
theorem CacheEntry.endpoint_of_read?_text {e entry : CacheEntry} (h : read? e.text = some entry) :
    entry.endpoint.auth = e.endpoint.auth ∧ Url.parse e.endpoint.url.text = .ok entry.endpoint.url := by
  have hparts : ofJson? e.json = (Endpoint.read? e.endpoint.json).bind fun endpoint =>
      (Time.Instant.read? (e.writtenAt.text "Z")).map fun time => ⟨endpoint, time⟩ := by
    cases htime : Time.Instant.read? (e.writtenAt.text "Z") <;>
      simp [ofJson?, json, Json.strictRecord, Json.required, Json.asText?, htime, TextMap.lookup_cons_ite]
  rw [read?, text, Json.read?_text e.readsBack_json, Option.bind_some, hparts, Endpoint.read?_json_eq] at h
  obtain ⟨endpoint, hendpoint, htime⟩ := Option.bind_eq_some_iff.1 h
  obtain ⟨time, -, rfl⟩ := Option.map_eq_some_iff.1 htime
  obtain ⟨url, hurl, rfl⟩ := Option.map_eq_some_iff.1 hendpoint
  cases hparse : Url.parse e.endpoint.url.text with
  | error failure =>
    rw [hparse] at hurl
    cases hurl
  | ok found =>
    rw [hparse] at hurl
    exact ⟨rfl, congrArg _ (Option.some.inj hurl)⟩

namespace EndpointCache

/-- All files hold entries for endpoints of the web to which credentials are bound as they should be. -/
def IsBound (c : EndpointCache) : Prop :=
  ∀ s content, c.content? s = some content → ∃ entry : CacheEntry, content = entry.text ∧
    entry.endpoint.IsBound s ∧ Url.IsWebScheme entry.endpoint.url.scheme

variable {c : EndpointCache} {s : Source}

theorem isBound_of_isEmpty (h : c.IsEmpty) : c.IsBound := by
  intro s content hcontent
  rw [h s] at hcontent
  cases hcontent

/-- An entry that is read is for an endpoint to which credentials are bound as they should be, whatever its age. -/
theorem IsBound.entry? {entry : CacheEntry} (h : c.IsBound) (hentry : c.entry? s = some entry) :
    entry.endpoint.IsBound s := by
  obtain ⟨content, hcontent, hread⟩ := Option.bind_eq_some_iff.1 hentry
  obtain ⟨written, rfl, hbound, hscheme⟩ := h s content hcontent
  obtain ⟨hauth, hurl⟩ := CacheEntry.endpoint_of_read?_text hread
  exact hbound.of_eq (Url.scheme_parse_text hscheme hurl) hauth

theorem IsBound.keep {source : Source} {entry : CacheEntry} (h : c.IsBound)
    (hbound : entry.endpoint.IsBound source) (hscheme : Url.IsWebScheme entry.endpoint.url.scheme) :
    (c.keep source entry).IsBound := by
  intro s content hcontent
  rcases c.content?_keep source s entry with hold | ⟨rfl, hnew⟩
  · exact h s content (hold ▸ hcontent)
  · rw [hnew] at hcontent
    exact ⟨entry, (Option.some.inj hcontent).symm, hbound, hscheme⟩

end EndpointCache

/-! ### Visits -/

namespace Visit

/-- A visit to one of the two sources, with any given endpoint or none. -/
def IsStandard (v : Visit) : Prop :=
  (∃ name url, v.locator = Kubelet.locator name url) ∨ ∃ url, v.locator = StateMetrics.locator url

/-- The endpoint that a visit gets, from the cache or from a search. -/
def endpoint? (v : Visit) (c : EndpointCache) : Option Endpoint :=
  (v.known? c).or v.search.value.toOption

variable {v : Visit} {c : EndpointCache} {e : Endpoint}

theorem isBound_of_search (hv : v.IsStandard) (h : v.search.value = .ok e) :
    e.IsBound v.source ∧ (v.locator.hasOverride = false → Url.IsWebScheme e.url.scheme) := by
  rw [search] at h
  rw [source]
  rcases hv with ⟨name, url, hlocator⟩ | ⟨url, hlocator⟩
  · rw [hlocator] at h ⊢
    exact Kubelet.isBound_of_locate h
  · rw [hlocator] at h ⊢
    exact ⟨(StateMetrics.isBound_of_locate h).1, fun _ => (StateMetrics.isBound_of_locate h).2⟩

/-- A visit gets an endpoint to which credentials are bound as they should be. -/
theorem isBound_of_endpoint? (hv : v.IsStandard) (hc : c.IsBound) (h : v.endpoint? c = some e) :
    e.IsBound v.source := by
  rw [endpoint?, Option.or_eq_some_iff] at h
  rcases h with hknown | ⟨-, hfound⟩
  · rw [known?] at hknown
    split at hknown
    · cases hknown
    · obtain ⟨entry, hentry, rfl⟩ := Option.map_eq_some_iff.1 hknown
      exact hc.entry? (Option.filter_eq_some_iff.1 hentry).1
  · cases hsearch : v.search.value with
    | error failure =>
      rw [hsearch] at hfound
      cases hfound
    | ok found =>
      rw [hsearch] at hfound
      obtain rfl := Option.some.inj hfound
      exact (isBound_of_search hv hsearch).1

/-- A visit keeps the cache bound. -/
theorem isBound_connect (hv : v.IsStandard) (hc : c.IsBound) : (v.connect c).value.cache.IsBound := by
  rcases v.cache_connect_cases c with hcache | ⟨e, -, hsearch, hcache⟩
  · rw [hcache]
    exact hc
  · obtain ⟨hbound, hscheme⟩ := isBound_of_search hv hsearch
    rw [hcache, kept]
    split
    · exact hc
    · next hoverride => exact hc.keep hbound (hscheme (Bool.eq_false_iff.2 hoverride))

/-- A visit makes the client of the endpoint that it gets, and no client if it gets none. -/
theorem client_connect (v : Visit) (c : EndpointCache) :
    (∃ e, v.endpoint? c = some e ∧ (v.connect c).value.client = (v.client e).value ∧
      (v.connect c).calls = (if (v.known? c).isSome then [] else v.search.calls) ++ (v.client e).calls) ∨
    (v.endpoint? c = none ∧ (∃ failure, (v.connect c).value.client = .error failure) ∧
      (v.connect c).calls = v.search.calls) := by
  rw [endpoint?]
  cases hknown : v.known? c with
  | some e =>
    rw [connect_of_known hknown]
    exact .inl ⟨e, rfl, rfl, rfl⟩
  | none =>
    cases hsearch : v.search.value with
    | error failure =>
      rw [connect_of_failed hknown hsearch]
      exact .inr ⟨rfl, ⟨failure, rfl⟩, rfl⟩
    | ok e =>
      rw [connect_of_found hknown hsearch]
      exact .inl ⟨e, rfl, rfl, rfl⟩

/-- A search does not take credentials into use. -/
theorem secureClient_not_mem_search (hv : v.IsStandard) : .secureClient ∉ v.search.calls := by
  have hlookups : v.search.CallsOnly Call.IsLookup := by
    rw [search]
    rcases hv with ⟨name, url, hlocator⟩ | ⟨url, hlocator⟩
    · rw [hlocator]
      exact Kubelet.callsOnly_locate name url _ _
    · rw [hlocator]
      exact StateMetrics.callsOnly_locate _ _ url
  exact fun hmem => hlookups _ hmem

/-- The credentials are taken into use once for an endpoint that wants them, and for no other. -/
theorem count_secureClient (hv : v.IsStandard) (h : v.endpoint? c = some e) :
    (v.connect c).calls.count .secureClient = if e.auth = .serviceAccount then 1 else 0 := by
  have hsearch : v.search.calls.count .secureClient = 0 := List.count_eq_zero.2 (secureClient_not_mem_search hv)
  rcases client_connect v c with ⟨e', he', -, hcalls⟩ | ⟨hnone, -⟩
  · obtain rfl := Option.some.inj (h.symm.trans he')
    rw [hcalls, client, Locator.calls_openClient, List.count_append]
    split <;> split <;> simp [hsearch]
  · rw [h] at hnone
    cases hnone

end Visit

/-- A run of visits keeps the cache bound. -/
theorem EndpointCache.isBound_afterVisits {c : EndpointCache} {visits : List Visit} (hc : c.IsBound)
    (hvisits : ∀ v ∈ visits, v.IsStandard) : (c.afterVisits visits).IsBound := by
  induction visits generalizing c with
  | nil => exact hc
  | cons v rest ih =>
    obtain ⟨hv, hrest⟩ := List.forall_mem_cons.1 hvisits
    exact ih (Visit.isBound_connect hv hc) hrest

namespace Visit

/-- Credentials are bound as they should be to everything that visits write, read and find and to the clients that they
make, if the cache is empty at first. A client authenticates, and the credentials are taken into use, exactly for an
endpoint that wants them. -/
theorem credentials_bound (c : EndpointCache) (hempty : c.IsEmpty) (visits : List Visit)
    (hvisits : ∀ v ∈ visits, v.IsStandard) :
    (∀ s content, (c.afterVisits visits).content? s = some content →
      ∃ entry : CacheEntry, content = entry.text ∧ entry.endpoint.IsBound s) ∧
    (∀ s entry, EndpointCache.entry? (c.afterVisits visits) s = some entry → entry.endpoint.IsBound s) ∧
    ∀ before v later, visits = before ++ v :: later →
      (∀ e, v.search.value = .ok e → e.IsBound v.source) ∧
      (∀ e, v.endpoint? (c.afterVisits before) = some e → e.IsBound v.source ∧
        (v.connect (c.afterVisits before)).calls.count .secureClient = if e.auth = .serviceAccount then 1 else 0) ∧
      (v.endpoint? (c.afterVisits before) = none → .secureClient ∉ (v.connect (c.afterVisits before)).calls) ∧
      ∀ client, (v.connect (c.afterVisits before)).value.client = .ok client →
        v.endpoint? (c.afterVisits before) = some client.endpoint ∧
        (client.authenticated = true ↔ client.endpoint.auth = .serviceAccount) := by
  have hc := EndpointCache.isBound_of_isEmpty hempty
  have hbound := EndpointCache.isBound_afterVisits hc hvisits
  refine ⟨fun s content hcontent => ?_, fun s entry => hbound.entry?, fun before v later hsplit => ?_⟩
  · obtain ⟨entry, htext, hentry, -⟩ := hbound s content hcontent
    exact ⟨entry, htext, hentry⟩
  · have hv : v.IsStandard := hvisits v (by simp [hsplit])
    have hbefore : (c.afterVisits before).IsBound :=
      EndpointCache.isBound_afterVisits hc fun u hu => hvisits u (by simp [hsplit, hu])
    refine ⟨fun e he => (isBound_of_search hv he).1,
      fun e he => ⟨isBound_of_endpoint? hv hbefore he, count_secureClient hv he⟩, fun hnone => ?_,
      fun made hmade => ?_⟩
    · rcases client_connect v (c.afterVisits before) with ⟨e, he, -⟩ | ⟨-, -, hcalls⟩
      · rw [hnone] at he
        cases he
      · rw [hcalls]
        exact secureClient_not_mem_search hv
    · rcases client_connect v (c.afterVisits before) with ⟨e, he, hclient, -⟩ | ⟨-, ⟨failure, hclient⟩, -⟩
      · rw [hclient] at hmade
        obtain rfl := Locator.endpoint_of_openClient hmade
        exact ⟨he, Locator.authenticated_openClient hmade⟩
      · rw [hclient] at hmade
        cases hmade

/-- A visit to a kubelet that listens on the port for encrypted requests. -/
def toSecureKubelet : Visit :=
  toKubelet { Pass.surroundingsOf "10.0.0.1" 500 with
    node := fun _ => .found { Pass.plainNode with kubeletPort := some Kubelet.securePort } } ⟨0, 0⟩

/-- A visit to kube-state-metrics at a given endpoint, which is encrypted. -/
def toGivenService : Visit :=
  ⟨StateMetrics.locator (some "https://metrics.local:8443"), .unreachable, .ofSeconds 5, .ofSeconds 3600, ⟨10, 5⟩⟩

/-- The credentials are taken into use for the kubelet with the encrypted port. -/
theorem credentials_bound_toSecureKubelet :
    EndpointCache.missing.IsEmpty ∧ (∀ v ∈ [toSecureKubelet, toGivenService, anHourLater], v.IsStandard) ∧
    (toSecureKubelet.connect .missing).calls.count .secureClient = 1 := by
  have hempty : EndpointCache.missing.IsEmpty := fun source => by cases source <;> rfl
  have hstandard : ∀ v ∈ [toSecureKubelet, toGivenService, anHourLater], v.IsStandard := by
    simp only [List.forall_mem_cons, List.not_mem_nil, false_imp_iff, implies_true, and_true]
    exact ⟨.inl ⟨_, _, rfl⟩, .inr ⟨_, rfl⟩, .inl ⟨_, _, rfl⟩⟩
  obtain ⟨-, -, hrun⟩ := credentials_bound .missing hempty [toSecureKubelet, toGivenService, anHourLater] hstandard
  obtain ⟨-, hcount, -⟩ := hrun [] toSecureKubelet [toGivenService, anHourLater] rfl
  have hfound : toSecureKubelet.endpoint? .missing = some { Pass.plainEndpoint with
      url := { Pass.plainEndpoint.url with scheme := "https", port := some 10250 }, auth := .serviceAccount } := by
    decide +kernel
  exact ⟨hempty, hstandard, (hcount _ hfound).2⟩

end Visit

end NodeTelemetry
