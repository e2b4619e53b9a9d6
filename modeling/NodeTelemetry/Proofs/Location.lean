import NodeTelemetry.Connection
import NodeTelemetry.Kubelet.Location
import NodeTelemetry.Proofs.StateMetrics.HostAddress

/-!
# What a search finds

A search that succeeds has succeeded in each of its steps. So the address of an endpoint that is found is the
internal address of the node for the kubelet, and the smallest address of the pods for kube-state-metrics.

## Main definitions

* `IsFirst`: the first member of a list with a property.

## Main statements

* `Lookup.exists_of_value_bind_eq_ok`: a computation after another succeeds only if both do.
* `Kubelet.internalIp_of_locate`, `StateMetrics.isSmallest_of_locate`: the address of an endpoint that is found.
-/

namespace NodeTelemetry

/-! ### First members -/

/-- The first member of a list that has a property. -/
def IsFirst {α : Type} (p : α → Prop) (l : List α) (a : α) : Prop :=
  ∃ before after, l = before ++ a :: after ∧ p a ∧ ∀ b ∈ before, ¬ p b

section IsFirst

variable {α β : Type} {l : List α} {a : α}

theorem find?_eq_some_iff_isFirst {p : α → Bool} : l.find? p = some a ↔ IsFirst (fun b => p b = true) l a := by
  rw [List.find?_eq_some_iff_append]
  constructor
  · rintro ⟨ha, before, after, hsplit, hbefore⟩
    exact ⟨before, after, hsplit, ha, fun b hb => by simpa using hbefore b hb⟩
  · rintro ⟨before, after, hsplit, ha, hbefore⟩
    exact ⟨ha, before, after, hsplit, fun b hb => by simpa using hbefore b hb⟩

theorem find?_decide_eq_some_iff {p : α → Prop} [DecidablePred p] :
    l.find? (fun b => decide (p b)) = some a ↔ IsFirst p l a := by
  rw [find?_eq_some_iff_isFirst]
  simp only [decide_eq_true_eq]

theorem IsFirst.congr {p q : α → Prop} (h : ∀ b, p b ↔ q b) (hfirst : IsFirst p l a) : IsFirst q l a := by
  obtain ⟨before, after, hsplit, ha, hbefore⟩ := hfirst
  exact ⟨before, after, hsplit, (h a).1 ha, fun b hb hq => hbefore b hb ((h b).2 hq)⟩

end IsFirst

namespace Lookup

variable {ε ε' α β : Type}

/-- A computation after another succeeds only if both do. -/
theorem exists_of_value_bind_eq_ok {x : Lookup ε α} {f : α → Lookup ε β} {b : β}
    (h : (x >>= f).run.value = .ok b) : ∃ a, x.run.value = .ok a ∧ (f a).run.value = .ok b := by
  have hbind : (x >>= f).run.value = (ExceptT.bindCont f x.run.value).value := rfl
  rw [hbind] at h
  cases hx : x.run.value with
  | error e =>
    rw [hx] at h
    cases h
  | ok a =>
    rw [hx] at h
    exact ⟨a, rfl, h⟩

/-- A computation with another kind of failure succeeds only if it does. -/
theorem value_of_value_mapError_eq_ok {f : ε → ε'} {x : Lookup ε α} {a : α}
    (h : (x.mapError f).run.value = .ok a) : x.run.value = .ok a := by
  have hmap : (x.mapError f).run.value = x.run.value.mapError f := rfl
  rw [hmap] at h
  cases hx : x.run.value with
  | error e =>
    rw [hx] at h
    cases h
  | ok b =>
    rw [hx] at h
    exact congrArg _ (Except.ok.inj h)

end Lookup

/-- A client is bound to the endpoint for which it was made. -/
theorem Locator.endpoint_of_openClient {w : Surroundings} {e : Endpoint} {c : SourceClient}
    (h : (openClient w e).value = .ok c) : c.endpoint = e := by
  have hconnect : (SourceClient.connect w e).run.value = .ok c :=
    Lookup.value_of_value_mapError_eq_ok h
  rw [SourceClient.connect] at hconnect
  cases hauth : e.auth with
  | none =>
    rw [hauth] at hconnect
    obtain rfl := Except.ok.inj hconnect
    rfl
  | serviceAccount =>
    rw [hauth] at hconnect
    obtain ⟨_, -, hpure⟩ := Lookup.exists_of_value_bind_eq_ok hconnect
    obtain rfl := Except.ok.inj hpure
    rfl

/-- The kubelet is found only with the internal address of its node. -/
theorem Kubelet.internalIp_of_locate {name : String} {url : Option String} {w : Surroundings}
    {timeout : Time.Span} {e : Endpoint}
    (h : ((locator name url).locate w timeout).run.value = .ok e) :
    ∃ node, w.node name = .found node ∧ internalIp name node = .ok e.nodeIp := by
  obtain ⟨node, hnode, h⟩ := Lookup.exists_of_value_bind_eq_ok h
  obtain ⟨ip, hip, h⟩ := Lookup.exists_of_value_bind_eq_ok h
  obtain ⟨located, -, h⟩ := Lookup.exists_of_value_bind_eq_ok h
  obtain rfl := Except.ok.inj h
  have hbounded := Lookup.value_of_value_mapError_eq_ok hnode
  refine ⟨node, ?_, ?_⟩
  · change (Answer.bounded _ _ (w.node name) : Except LocateError Cluster.Node) = .ok node at hbounded
    cases hw : w.node name with
    | found node' =>
      rw [hw] at hbounded
      exact congrArg _ (Except.ok.inj hbounded)
    | failed e =>
      rw [hw] at hbounded
      cases hbounded
    | stalled =>
      rw [hw] at hbounded
      cases hbounded
  · change (internalIp name node).mapError _ = .ok ip at hip
    cases hinternal : internalIp name node with
    | error e =>
      rw [hinternal] at hip
      cases hip
    | ok ip' =>
      rw [hinternal] at hip
      exact congrArg _ (Except.ok.inj hip)

/-- Kube-state-metrics is found only with the smallest address of its pods. -/
theorem StateMetrics.isSmallest_of_locate {url : Option String} {w : Surroundings}
    {timeout : Time.Span} {e : Endpoint}
    (h : ((locator url).locate w timeout).run.value = .ok e) :
    ∃ pods, w.pods selector = .found pods ∧ IsSmallest e.nodeIp (hostIps pods) := by
  -- whether or not the URL is given, the address comes from the pods
  have hip : (nodeIp w timeout).run.value = .ok e.nodeIp := by
    simp only [locator] at h
    split at h
    all_goals
      obtain ⟨_, -, h⟩ := Lookup.exists_of_value_bind_eq_ok h
      obtain ⟨_, -, h⟩ := Lookup.exists_of_value_bind_eq_ok h
      obtain ⟨ip, hip, h⟩ := Lookup.exists_of_value_bind_eq_ok h
      obtain rfl := Except.ok.inj h
      exact Lookup.value_of_value_mapError_eq_ok hip
  obtain ⟨pods, hpods, hnode⟩ := exists_pods_of_value_nodeIp hip
  exact ⟨pods, hpods, podNode_eq_ok_iff.1 hnode⟩

end NodeTelemetry
