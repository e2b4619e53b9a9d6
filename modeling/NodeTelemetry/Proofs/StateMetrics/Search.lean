import NodeTelemetry.Proofs.Connection.Credentials
import NodeTelemetry.Proofs.StateMetrics.HostAddress
import NodeTelemetry.Proofs.StateMetrics.Services

/-!
# The search for kube-state-metrics

Which questions the search asks, in which order, and what becomes of it, for all answers and for all endpoints that are
given. A given endpoint replaces the name service and the services. Otherwise the services are asked for exactly if the
name service does not help. The pods come last, and only if there is a URL.

## Main definitions

* `EndsAtNode`: a search that has a URL and then asks for the pods.

## Main statements

* `value_dnsUrl_eq_ok_iff`: when the name service helps.
* `run_searchUrl_of_ok`, `run_searchUrl_of_error`: the search for a URL when the name service helps and when not.
* `locate_in_order`: the whole search.
-/

namespace NodeTelemetry.StateMetrics

variable (w : Surroundings) (timeout : Time.Span)

/-! ### The name service -/

/-- The URL of the service in the cluster on a port. -/
def clusterUrl (port : UInt16) : Url :=
  ⟨"http", "", "", some (.domain qualifiedName), Url.portOf "http" port.toNat, .segments [""], none, none⟩

/-- The first record gives a URL, whatever its port is. -/
theorem recordUrl_cons (record : SrvRecord) (rest : List SrvRecord) :
    recordUrl (record :: rest) = .ok (clusterUrl record.port) := by
  have hread : Url.readHost "http" qualifiedName.toList = .ok (.domain qualifiedName) := by decide +kernel
  have hport : record.port.toNat ≤ 65535 := Nat.le_of_lt_succ record.port.toNat_lt
  have hname : ∀ c ∈ qualifiedName.toList, Url.isHostChar c = true ∧ c ≠ ':' :=
    List.all_iff_forall_prop.1 (by decide)
  have hcounts : ∀ c ∈ qualifiedName.toList, Url.counts c = true := List.all_iff_forall_prop.1 (by decide)
  exact Locator.urlOf_eq (.inl rfl) (.name hname) hcounts hport hread

theorem value_dnsUrl : (dnsUrl w timeout).run.value =
    ((w.srv srvName).bounded (.dns srvName) (.timeout "SRV lookup" timeout)).bind recordUrl :=
  Lookup.value_bounded_bind _ _ _ _ _

/-- The name service helps exactly if it knows a record. -/
theorem value_dnsUrl_eq_ok_iff {u : Url} : (dnsUrl w timeout).run.value = .ok u ↔
    ∃ record rest, w.srv srvName = .found (record :: rest) ∧ u = clusterUrl record.port := by
  rw [value_dnsUrl]
  cases w.srv srvName with
  | found records =>
    cases records with
    | nil => simp [Answer.bounded, Except.bind, recordUrl]
    | cons record rest =>
      simp [Answer.bounded, Except.bind, recordUrl_cons, eq_comm]
  | failed reason => simp [Answer.bounded, Except.bind]
  | stalled => simp [Answer.bounded, Except.bind]

/-! ### URLs that are found -/

theorem scheme_of_serviceUrl {services : List Cluster.Service} {u : Url} (h : serviceUrl services = .ok u) :
    u.scheme = "http" := by
  rw [serviceUrl] at h
  split at h
  · cases h
  · split at h
    · cases h
    · split at h
      · exact Locator.scheme_urlOf (.inl rfl) h
      · cases h

theorem scheme_of_apiUrl {u : Url} (h : (apiUrl w timeout).run.value = .ok u) : u.scheme = "http" := by
  rw [value_apiUrl] at h
  cases hservices : w.services selector with
  | found services =>
    rw [hservices] at h
    exact scheme_of_serviceUrl h
  | failed e =>
    rw [hservices] at h
    cases h
  | stalled =>
    rw [hservices] at h
    cases h

theorem overPlainHttp_of_scheme {u : Url} (h : u.scheme = "http") : overPlainHttp u = .ok u := by
  rw [overPlainHttp, if_pos h]

/-! ### The node -/

theorem calls_nodeIp : (nodeIp w timeout).run.calls = [.pods selector] :=
  Lookup.calls_bounded_bind _ _ _ _ _

/-- The search behind a URL: it has to be usable over plain HTTP, and then the pods are asked for. -/
def atNode (u : Url) : Lookup DiscoveryError Endpoint := do
  let u ← Lookup.ofExcept ((overPlainHttp u).mapError DiscoveryError.step)
  let ip ← (nodeIp w timeout).mapError DiscoveryError.step
  return ⟨u, ip, .none⟩

/-- A search that has made some calls for a URL and then asks for the pods. -/
structure EndsAtNode (run : Traced (Except DiscoveryError Endpoint)) (calls : List Call) (u : Url) : Prop where
  calls_eq : run.calls = calls ++ [.pods selector]
  value_eq : run.value = ((nodeIp w timeout).run.value.map fun ip => ⟨u, ip, .none⟩).mapError .step

variable {w timeout}

theorem atNode_of_ok {u plain : Url} (h : overPlainHttp u = .ok plain) :
    EndsAtNode w timeout (atNode w timeout u).run [] plain := by
  have husable : (Lookup.ofExcept ((overPlainHttp u).mapError DiscoveryError.step)).run.value = .ok plain := by
    rw [h]
    rfl
  have hcalls : ((nodeIp w timeout).mapError DiscoveryError.step).run.calls = [.pods selector] :=
    (Traced.calls_map _ _).trans (calls_nodeIp w timeout)
  rw [atNode, Lookup.run_bind_of_ok husable]
  constructor
  · rw [Lookup.calls_bind, hcalls]
    cases ((nodeIp w timeout).mapError DiscoveryError.step).run.value <;> rfl
  · rw [Lookup.value_bind, Lookup.value_mapError]
    cases (nodeIp w timeout).run.value <;> rfl

theorem atNode_of_error {u : Url} {e : LocateError} (h : overPlainHttp u = .error e) :
    (atNode w timeout u).run = ⟨.error (.step e), []⟩ := by
  rw [atNode, h]
  rfl

theorem EndsAtNode.after {x : Lookup DiscoveryError Url} {u plain : Url} {calls : List Call}
    (hx : x.run = ⟨.ok u, calls⟩) (h : overPlainHttp u = .ok plain) :
    EndsAtNode w timeout (x >>= atNode w timeout).run calls plain := by
  have hend : EndsAtNode w timeout (atNode w timeout u).run [] plain := atNode_of_ok h
  have hok : x.run.value = .ok u := congrArg Traced.value hx
  have hcalls : x.run.calls = calls := congrArg Traced.calls hx
  rw [Lookup.run_bind_of_ok hok, hcalls]
  exact ⟨congrArg (calls ++ ·) hend.calls_eq, hend.value_eq⟩

/-! ### The search -/

theorem calls_dnsUrl : (dnsUrl w timeout).run.calls = [.srv srvName] :=
  Lookup.calls_bounded_bind _ _ _ _ _

theorem calls_apiUrl : (apiUrl w timeout).run.calls = [.services selector] :=
  Lookup.calls_bounded_bind _ _ _ _ _

theorem run_searchUrl_of_ok {u : Url} (h : (dnsUrl w timeout).run.value = .ok u) :
    (searchUrl w timeout).run = ⟨.ok u, [.srv srvName]⟩ := by
  refine Traced.ext ?_ ?_
  · simp only [searchUrl, ExceptT.run_mk, Traced.value_bind, h, Traced.value_pure]
  · simp only [searchUrl, ExceptT.run_mk, Traced.calls_bind, h, calls_dnsUrl, Traced.calls_pure, List.append_nil]

theorem run_searchUrl_of_error {e : LocateError} (h : (dnsUrl w timeout).run.value = .error e) :
    (searchUrl w timeout).run =
      ⟨(apiUrl w timeout).run.value.mapError fun e' => .exhausted [(.dns, e), (.services, e')],
        [.srv srvName, .services selector]⟩ := by
  refine Traced.ext ?_ ?_
  · simp only [searchUrl, ExceptT.run_mk, Traced.value_bind, h]
    cases (apiUrl w timeout).run.value <;> rfl
  · simp only [searchUrl, ExceptT.run_mk, Traced.calls_bind, h, calls_dnsUrl, calls_apiUrl]
    cases (apiUrl w timeout).run.value <;> rfl

theorem locate_given {url : Option String} {text : String} (h : Locator.given? url = some text) :
    (locator url).locate w timeout =
      Lookup.ofExcept ((Locator.ofText text).mapError DiscoveryError.step) >>= atNode w timeout := by
  rw [locator]
  simp only [h]
  rfl

theorem locate_search {url : Option String} (h : Locator.given? url = none) :
    (locator url).locate w timeout = searchUrl w timeout >>= atNode w timeout := by
  rw [locator]
  simp only [h]
  rfl

/-- The questions of the search and what becomes of it. With a given endpoint only the pods are asked for, and only if
it can be used over plain HTTP; a text that is no URL fails as such. Otherwise the name service is asked once, and the
services once if it does not help, which it does not without a record; the pods are asked for once and at the end if
either helps, and if neither does, both failures are reported in this order. Without an address of a node the search
fails. -/
theorem locate_in_order (w : Surroundings) (timeout : Time.Span) (url : Option String) :
    (∀ text, Locator.given? url = some text →
      (∀ e, Locator.ofText text = .error e →
        ((locator url).locate w timeout).run = ⟨.error (.step e), []⟩) ∧
      (∀ u e, Locator.ofText text = .ok u → overPlainHttp u = .error e →
        ((locator url).locate w timeout).run = ⟨.error (.step e), []⟩) ∧
      ∀ u plain, Locator.ofText text = .ok u → overPlainHttp u = .ok plain →
        EndsAtNode w timeout ((locator url).locate w timeout).run [] plain) ∧
    (Locator.given? url = none →
      (∀ u, (dnsUrl w timeout).run.value = .ok u →
        EndsAtNode w timeout ((locator url).locate w timeout).run [.srv srvName] u) ∧
      ∀ e, (dnsUrl w timeout).run.value = .error e →
        (∀ u, (apiUrl w timeout).run.value = .ok u →
          EndsAtNode w timeout ((locator url).locate w timeout).run [.srv srvName, .services selector] u) ∧
        ∀ e', (apiUrl w timeout).run.value = .error e' →
          ((locator url).locate w timeout).run =
            ⟨.error (.exhausted [(.dns, e), (.services, e')]), [.srv srvName, .services selector]⟩) ∧
    ((∃ u, (dnsUrl w timeout).run.value = .ok u) ↔
      ∃ record rest, w.srv srvName = .found (record :: rest)) ∧
    ((∀ pods, w.pods selector = .found pods → hostIps pods = []) →
      ∃ e, ((locator url).locate w timeout).run.value = .error e) := by
  refine ⟨fun text hgiven => ?_, fun hnone => ?_, ?_, fun hpods => ?_⟩
  -- a given endpoint
  · rw [locate_given hgiven]
    refine ⟨fun e htext => ?_, fun u e htext herror => ?_, fun u plain htext hplain => ?_⟩
    · exact Lookup.run_bind_of_error (by rw [htext]; rfl) _
    · rw [htext, Lookup.run_bind_of_ok rfl, atNode_of_error herror]
      rfl
    · rw [htext]
      exact .after rfl hplain
  -- the name service, and the services behind it
  · rw [locate_search hnone]
    refine ⟨fun u hdns => ?_, fun e hdns => ⟨fun u hservices => ?_, fun e' hservices => ?_⟩⟩
    · obtain ⟨record, rest, -, rfl⟩ := (value_dnsUrl_eq_ok_iff w timeout).1 hdns
      exact .after (run_searchUrl_of_ok hdns) (overPlainHttp_of_scheme rfl)
    · have hrun : (searchUrl w timeout).run = ⟨.ok u, [.srv srvName, .services selector]⟩ := by
        rw [run_searchUrl_of_error hdns, hservices]
        rfl
      exact .after hrun (overPlainHttp_of_scheme (scheme_of_apiUrl w timeout hservices))
    · have hrun := run_searchUrl_of_error hdns
      rw [hservices] at hrun
      rw [Lookup.run_bind_of_error (congrArg Traced.value hrun), hrun]
  · simp only [value_dnsUrl_eq_ok_iff]
    constructor
    · rintro ⟨u, record, rest, hfound, -⟩
      exact ⟨record, rest, hfound⟩
    · rintro ⟨record, rest, hfound⟩
      exact ⟨_, record, rest, hfound, rfl⟩
  -- whatever is found has the smallest address of a node, so there is one
  · cases hvalue : ((locator url).locate w timeout).run.value with
    | error e => exact ⟨e, rfl⟩
    | ok e =>
      obtain ⟨pods, hfound, hsmallest⟩ := isSmallest_of_locate hvalue
      have hmem := hsmallest.mem
      rw [hpods pods hfound] at hmem
      cases hmem

/-- Surroundings in which the name service is too late and a service is known. -/
def lateNames : Surroundings :=
  { knowing [serviceAt "10.96.0.20" [⟨some "http-metrics", some "TCP", 8080⟩]] with
    srv := fun _ => .stalled
    pods := fun _ => .found [Pass.podOn "10.0.0.2"] }

/-- All three questions are asked, and the endpoint is the one of the service. -/
theorem locate_in_order_lateNames :
    ((locator none).locate lateNames (.ofSeconds 5)).run.calls =
        [.srv srvName, .services selector, .pods selector] ∧
      ((locator none).locate lateNames (.ofSeconds 5)).run.value =
        .ok ⟨⟨"http", "", "", some (.ipv4 174063636), some 8080, .segments [""], none, none⟩, "10.0.0.2", .none⟩ := by
  have hdns : (dnsUrl lateNames (.ofSeconds 5)).run.value = .error (.timeout "SRV lookup" (.ofSeconds 5)) := rfl
  have hservices : (apiUrl lateNames (.ofSeconds 5)).run.value =
      .ok ⟨"http", "", "", some (.ipv4 174063636), some 8080, .segments [""], none, none⟩ := by
    decide +kernel
  obtain ⟨-, hsearch, -⟩ := locate_in_order lateNames (.ofSeconds 5) none
  have hend := ((hsearch rfl).2 _ hdns).1 _ hservices
  exact ⟨hend.calls_eq, hend.value_eq⟩

end NodeTelemetry.StateMetrics
