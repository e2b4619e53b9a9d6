import NodeTelemetry.Proofs.Connection.Calls
import NodeTelemetry.Proofs.Url.Authority

/-!
# The service that is asked for metrics

Of the services with its label, kube-state-metrics is looked for at the first one that has an address and a port for
metrics. The address is any text that is not empty. So it may be the mark of a headless service, which has none, and
then the URL names a host that the mark spells.

## Main definitions

* `IsMetricsPort`: the port of a service for metrics.
* `Offers`: the address and the port for metrics of a service.
* `Qualifies`: a service that has both.

## Main statements

* `servicePort?_eq_some_iff`, `serviceTarget?_eq_some_iff`: what is taken from a service.
* `serviceUrl_of_isFirst`: the first service that qualifies decides.
* `apiUrl_services`: the URL that services imply, or why there is none.
* `apiUrl_headless`: a headless service before one with an address.
-/

namespace NodeTelemetry.StateMetrics

open Cluster (Service ServicePort)

variable {ports : List ServicePort} {p : ServicePort} {service : Service} {services : List Service} {ip : String}

/-! ### Ports -/

/-- The port of a service for metrics: the first one of that name, and in a service without such a port the first one
for TCP. -/
inductive IsMetricsPort (ports : List ServicePort) (p : ServicePort) : Prop
  | named (h : IsFirst (fun q => q.name = some portName) ports p)
  | tcp (hunnamed : ∀ q ∈ ports, q.name ≠ some portName) (h : IsFirst (fun q => q.protocol = some "TCP") ports p)

theorem servicePort?_eq_some_iff : servicePort? ports = some p ↔ IsMetricsPort ports p := by
  rw [servicePort?]
  cases hname : ports.find? fun q => q.name = some portName with
  | some named =>
    have hfirst := find?_decide_eq_some_iff.1 hname
    constructor
    · intro h
      obtain rfl := Option.some.inj h
      exact .named hfirst
    · rintro (h | ⟨hunnamed, -⟩)
      · exact hname.symm.trans (find?_decide_eq_some_iff.2 h)
      · have hnamed := List.find?_some hname
        exact absurd (of_decide_eq_true hnamed) (hunnamed named (List.mem_of_find?_eq_some hname))
  | none =>
    have hunnamed : ∀ q ∈ ports, q.name ≠ some portName := by
      simpa using List.find?_eq_none.1 hname
    constructor
    · intro h
      exact .tcp hunnamed (find?_decide_eq_some_iff.1 h)
    · rintro (h | ⟨-, h⟩)
      · rw [find?_decide_eq_some_iff.2 h] at hname
        cases hname
      · exact find?_decide_eq_some_iff.2 h

theorem servicePort?_eq_none_iff :
    servicePort? ports = none ↔ ∀ q ∈ ports, ¬ (q.name = some portName ∨ q.protocol = some "TCP") := by
  have hnone : servicePort? ports = none ↔ (ports.find? fun q => q.name = some portName) = none ∧
      (ports.find? fun q => q.protocol = some "TCP") = none := by
    rw [servicePort?]
    cases ports.find? fun q => q.name = some portName <;> simp
  simp only [hnone, List.find?_eq_none, decide_eq_true_eq, not_or, forall_and]

/-! ### Services -/

/-- The address and the port for metrics of a service. The mark of a headless service is taken for an address. -/
def Offers (service : Service) (ip : String) (p : ServicePort) : Prop :=
  ∃ spec, service.spec = some spec ∧ spec.clusterIp = some ip ∧ ip ≠ "" ∧ IsMetricsPort spec.ports p

/-- Whether a service has an address and a port for metrics. -/
def Qualifies (service : Service) : Prop :=
  ∃ spec ip, service.spec = some spec ∧ spec.clusterIp = some ip ∧ ip ≠ "" ∧
    ∃ q ∈ spec.ports, q.name = some portName ∨ q.protocol = some "TCP"

theorem serviceTarget?_eq_some_iff {target : String × Int32} :
    serviceTarget? service = some target ↔ ∃ p, Offers service target.1 p ∧ p.port = target.2 := by
  obtain ⟨ip, port⟩ := target
  rw [serviceTarget?, Option.bind_eq_bind, Option.bind_eq_some_iff]
  constructor
  · rintro ⟨spec, hspec, h⟩
    simp only at h
    split at h
    · cases h
    · next hne =>
      obtain ⟨p, hp, heq⟩ := Option.map_eq_some_iff.1 h
      obtain ⟨rfl, rfl⟩ := Prod.mk.inj heq
      cases hip : spec.clusterIp with
      | none => simp [hip] at hne
      | some ip =>
        rw [hip] at hne
        exact ⟨p, ⟨spec, hspec, hip, hne, servicePort?_eq_some_iff.1 hp⟩, rfl⟩
  · rintro ⟨p, ⟨spec, hspec, hip, hne, hp⟩, rfl⟩
    refine ⟨spec, hspec, ?_⟩
    rw [hip, Option.getD_some, if_neg hne, servicePort?_eq_some_iff.2 hp]
    rfl

theorem qualifies_iff_offers : Qualifies service ↔ ∃ ip p, Offers service ip p := by
  constructor
  · rintro ⟨spec, ip, hspec, hip, hne, q, hq, hport⟩
    cases hp : servicePort? spec.ports with
    | none => exact absurd hport (servicePort?_eq_none_iff.1 hp q hq)
    | some p => exact ⟨ip, p, spec, hspec, hip, hne, servicePort?_eq_some_iff.1 hp⟩
  · rintro ⟨ip, p, spec, hspec, hip, hne, hp⟩
    refine ⟨spec, ip, hspec, hip, hne, p, ?_⟩
    cases hp with
    | named h =>
      obtain ⟨before, after, hports, hname, -⟩ := h
      exact ⟨by simp [hports], .inl hname⟩
    | tcp _ h =>
      obtain ⟨before, after, hports, hprotocol, -⟩ := h
      exact ⟨by simp [hports], .inr hprotocol⟩

theorem serviceTarget?_eq_none_iff : serviceTarget? service = none ↔ ¬ Qualifies service := by
  rw [qualifies_iff_offers, Option.eq_none_iff_forall_ne_some]
  constructor
  · rintro h ⟨ip, p, hoffers⟩
    exact h (ip, p.port) (serviceTarget?_eq_some_iff.2 ⟨p, hoffers, rfl⟩)
  · rintro h target htarget
    obtain ⟨p, hoffers, -⟩ := serviceTarget?_eq_some_iff.1 htarget
    exact h ⟨_, p, hoffers⟩

/-! ### URLs -/

/-- The URL of an address and of the port of a service, if the number is one of a port. -/
def portUrl (ip : String) (p : ServicePort) : Except LocateError Url :=
  if 0 ≤ p.port.toInt ∧ p.port.toInt ≤ 65535 then Locator.urlOf "http" ip p.port.toInt.toNat
  else .error (.noPort selector)

/-- The first service that qualifies decides, and none after it is looked at. -/
theorem serviceUrl_of_isFirst (hfirst : IsFirst Qualifies services service) (hoffers : Offers service ip p) :
    serviceUrl services = portUrl ip p := by
  obtain ⟨before, after, hsplit, -, hbefore⟩ := hfirst
  have hfind : services.findSome? serviceTarget? = some (ip, p.port) :=
    List.findSome?_eq_some_iff.2 ⟨before, service, after, hsplit,
      serviceTarget?_eq_some_iff.2 ⟨p, hoffers, rfl⟩, fun s hs => serviceTarget?_eq_none_iff.2 (hbefore s hs)⟩
  have hne : services.isEmpty = false := by simp [hsplit]
  rw [serviceUrl, hne, if_neg Bool.false_ne_true, hfind]
  rfl

theorem serviceUrl_of_forall_not (hne : services ≠ []) (h : ∀ s ∈ services, ¬ Qualifies s) :
    serviceUrl services = .error (.noPort selector) := by
  have hfind : services.findSome? serviceTarget? = none :=
    List.findSome?_eq_none_iff.2 fun s hs => serviceTarget?_eq_none_iff.2 (h s hs)
  rw [serviceUrl, if_neg (by simpa using hne), hfind]

theorem value_apiUrl (w : Surroundings) (timeout : Time.Span) : (apiUrl w timeout).run.value =
    ((w.services selector).bounded .api (.timeout "service lookup" timeout)).bind serviceUrl :=
  Lookup.value_bounded_bind _ _ _ _ _

/-- The mark of a headless service is read as a name. -/
theorem portUrl_none (hlow : 0 ≤ p.port.toInt) (hport : p.port.toInt ≤ 65535) : portUrl "None" p =
    .ok ⟨"http", "", "", some (.domain "none"), Url.portOf "http" p.port.toInt.toNat, .segments [""], none, none⟩ := by
  have hread : Url.readHost "http" "None".toList = .ok (.domain "none") := by decide +kernel
  have hname : ∀ c ∈ "None".toList, Url.isHostChar c = true ∧ c ≠ ':' := List.all_iff_forall_prop.1 (by decide)
  have hcounts : ∀ c ∈ "None".toList, Url.counts c = true := List.all_iff_forall_prop.1 (by decide)
  rw [portUrl, if_pos ⟨hlow, hport⟩]
  exact Locator.urlOf_eq (.inl rfl) (.name hname) hcounts (Int.toNat_le.2 hport) hread

/-- The URL that the services imply is that of the first service with an address and a port for metrics, and there is
none if no service has both. A headless service counts as one with an address: where it is the first, its mark is the
host. -/
theorem apiUrl_services {w : Surroundings} (h : w.services selector = .found services) (timeout : Time.Span) :
    (services = [] → (apiUrl w timeout).run.value = .error (.noService selector)) ∧
    (services ≠ [] → (∀ s ∈ services, ¬ Qualifies s) →
      (apiUrl w timeout).run.value = .error (.noPort selector)) ∧
    (∀ url, (apiUrl w timeout).run.value = .ok url →
      ∃ s ip p, IsFirst Qualifies services s ∧ Offers s ip p ∧ portUrl ip p = .ok url) ∧
    ∀ s p, IsFirst Qualifies services s → Offers s "None" p → 0 ≤ p.port.toInt → p.port.toInt ≤ 65535 →
      (apiUrl w timeout).run.value = .ok ⟨"http", "", "", some (.domain "none"),
        Url.portOf "http" p.port.toInt.toNat, .segments [""], none, none⟩ := by
  have hvalue : (apiUrl w timeout).run.value = serviceUrl services := by
    rw [value_apiUrl, h]
    rfl
  rw [hvalue]
  refine ⟨?_, serviceUrl_of_forall_not, fun url hurl => ?_, fun s p hfirst hoffers hlow hport => ?_⟩
  · rintro rfl
    rfl
  · -- a URL comes from a target, and the first target belongs to the first service that qualifies
    cases hfind : services.findSome? serviceTarget? with
    | none =>
      rw [serviceUrl, hfind] at hurl
      split at hurl <;> cases hurl
    | some target =>
      obtain ⟨before, s, after, hsplit, htarget, hbefore⟩ := List.findSome?_eq_some_iff.1 hfind
      obtain ⟨p, hoffers, -⟩ := serviceTarget?_eq_some_iff.1 htarget
      have hfirst : IsFirst Qualifies services s :=
        ⟨before, after, hsplit, qualifies_iff_offers.2 ⟨_, p, hoffers⟩,
          fun b hb => serviceTarget?_eq_none_iff.1 (hbefore b hb)⟩
      exact ⟨s, _, p, hfirst, hoffers, (serviceUrl_of_isFirst hfirst hoffers).symm.trans hurl⟩
  · rw [serviceUrl_of_isFirst hfirst hoffers, portUrl_none hlow hport]

def serviceAt (ip : String) (ports : List ServicePort) : Service :=
  ⟨.empty, some ⟨some ip, ports⟩⟩

def knowing (services : List Service) : Surroundings :=
  { Surroundings.unreachable with services := fun _ => .found services }

/-- The named port of the first service with a port for metrics is taken. -/
theorem apiUrl_services_named :
    let services := [⟨.empty, none⟩, serviceAt "10.96.0.10" [⟨none, some "UDP", 53⟩],
      serviceAt "10.96.0.20" [⟨some "web", some "TCP", 80⟩, ⟨some "http-metrics", some "TCP", 8080⟩]]
    (knowing services).services selector = .found services ∧
      ∃ s ip p, IsFirst Qualifies services s ∧ Offers s ip p ∧ portUrl ip p =
        .ok ⟨"http", "", "", some (.ipv4 174063636), some 8080, .segments [""], none, none⟩ := by
  intro services
  have hservices : (knowing services).services selector = .found services := rfl
  obtain ⟨-, -, hfound, -⟩ := apiUrl_services hservices (.ofSeconds 5)
  exact ⟨hservices, hfound _ (by decide +kernel)⟩

/-- A headless service is asked before one with an address. -/
theorem apiUrl_headless :
    let port : ServicePort := ⟨some "http-metrics", some "TCP", 8080⟩
    let urlOf (services : List Service) : Except LocateError String :=
      ((apiUrl (knowing services) (.ofSeconds 5)).run.value).map Url.text
    urlOf [serviceAt "None" [port], serviceAt "10.96.0.20" [port]] = .ok "http://none:8080/" ∧
      urlOf [serviceAt "10.96.0.20" [port]] = .ok "http://10.96.0.20:8080/" := by
  decide +kernel

end NodeTelemetry.StateMetrics
