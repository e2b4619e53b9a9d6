import NodeTelemetry.Proofs.Location

/-!
# The calls of a connection

Which calls a computation makes follows from its parts: a computation after another makes only calls that both may make.
A search for a source asks the API and the name service and nothing else, and a client takes the credentials
of the service account into use exactly if its endpoint wants them.

## Main definitions

* `Traced.CallsOnly`: all calls of a computation are of a kind.
* `Call.IsLookup`: the questions of a search.

## Main statements

* `Kubelet.callsOnly_locate`, `StateMetrics.callsOnly_locate`: the calls of a search.
* `Locator.calls_openClient`: the calls for a client.
-/

namespace NodeTelemetry

/-- A question to the API or to the name service. -/
def Call.IsLookup : Call → Prop
  | node _ | pods _ | services _ | srv _ => True
  | secureClient | request _ => False

/-- All calls of a computation are of a kind. -/
def Traced.CallsOnly {α : Type} (p : Call → Prop) (x : Traced α) : Prop :=
  ∀ call ∈ x.calls, p call

section CallsOnly

variable {p : Call → Prop} {ε ε' α β : Type}

theorem Traced.callsOnly_pure (a : α) : (pure a : Traced α).CallsOnly p := by
  simp [CallsOnly]

theorem Traced.callsOnly_answer {call : Call} (h : p call) (a : α) : (Traced.answer call a).CallsOnly p := by
  simpa [CallsOnly] using h

theorem Traced.CallsOnly.map {x : Traced α} (h : x.CallsOnly p) (f : α → β) : (f <$> x).CallsOnly p := by
  rw [CallsOnly, calls_map]
  exact h

theorem Traced.CallsOnly.bind {x : Traced α} {f : α → Traced β} (hx : x.CallsOnly p)
    (hf : ∀ a, (f a).CallsOnly p) : (x >>= f).CallsOnly p := by
  rw [CallsOnly, calls_bind]
  exact List.forall_mem_append.2 ⟨hx, hf _⟩

namespace Lookup

/-- What becomes of a computation after another, which is made only if the first succeeds. -/
theorem value_bind (x : Lookup ε α) (f : α → Lookup ε β) :
    (x >>= f).run.value = x.run.value.bind fun a => (f a).run.value := by
  have hbind : (x >>= f).run.value = (ExceptT.bindCont f x.run.value).value := rfl
  rw [hbind]
  cases x.run.value <;> rfl

theorem value_ofExcept (a : Except ε α) : (Lookup.ofExcept a).run.value = a := rfl

theorem value_mapError (f : ε → ε') (x : Lookup ε α) : (x.mapError f).run.value = x.run.value.mapError f := rfl

theorem value_bounded (wrap : ε → LocateError) (operation : String) (timeout : Time.Span)
    (answer : Traced (Answer ε α)) : (Locator.bounded wrap operation timeout answer).run.value =
      answer.value.bounded wrap (.timeout operation timeout) := rfl

/-- The calls of a computation after another, which is made only if the first succeeds. -/
theorem calls_bind (x : Lookup ε α) (f : α → Lookup ε β) : (x >>= f).run.calls =
    x.run.calls ++ match x.run.value with
      | .ok a => (f a).run.calls
      | .error _ => [] := by
  have hbind : (x >>= f).run.calls = x.run.calls ++ (ExceptT.bindCont f x.run.value).calls := rfl
  rw [hbind]
  cases x.run.value <;> rfl

/-- A computation after another that succeeds makes its calls behind those of the first. -/
theorem run_bind_of_ok {x : Lookup ε α} {a : α} (h : x.run.value = .ok a) (f : α → Lookup ε β) :
    (x >>= f).run = ⟨(f a).run.value, x.run.calls ++ (f a).run.calls⟩ := by
  refine Traced.ext ?_ ?_
  · rw [value_bind, h]
    rfl
  · rw [calls_bind, h]

/-- Nothing is done after a computation that fails. -/
theorem run_bind_of_error {x : Lookup ε α} {e : ε} (h : x.run.value = .error e) (f : α → Lookup ε β) :
    (x >>= f).run = ⟨.error e, x.run.calls⟩ := by
  refine Traced.ext ?_ ?_
  · rw [value_bind, h]
    rfl
  · rw [calls_bind, h]
    exact List.append_nil _

/-- A question and what its answer implies. -/
theorem value_bounded_bind (wrap : ε → LocateError) (operation : String) (timeout : Time.Span)
    (answer : Traced (Answer ε α)) (f : α → Except LocateError β) :
    (Locator.bounded wrap operation timeout answer >>= fun a => Lookup.ofExcept (f a)).run.value =
      (answer.value.bounded wrap (.timeout operation timeout)).bind f :=
  value_bind _ _

/-- What an answer implies is found without further calls. -/
theorem calls_bounded_bind (wrap : ε → LocateError) (operation : String) (timeout : Time.Span)
    (answer : Traced (Answer ε α)) (f : α → Except LocateError β) :
    (Locator.bounded wrap operation timeout answer >>= fun a => Lookup.ofExcept (f a)).run.calls = answer.calls := by
  have hbounded : (Locator.bounded wrap operation timeout answer).run.calls = answer.calls := Traced.calls_map _ _
  rw [calls_bind, hbounded]
  cases (Locator.bounded wrap operation timeout answer).run.value <;> exact List.append_nil _

theorem callsOnly_ofExcept (a : Except ε α) : (Lookup.ofExcept a).run.CallsOnly p :=
  Traced.callsOnly_pure a

theorem callsOnly_pure (a : α) : (pure a : Lookup ε α).run.CallsOnly p :=
  Traced.callsOnly_pure (Except.ok a)

theorem callsOnly_mapError {x : Lookup ε α} (h : x.run.CallsOnly p) (f : ε → ε') :
    (x.mapError f).run.CallsOnly p :=
  h.map _

/-- A computation after another makes only calls that both may make. -/
theorem callsOnly_bind {x : Lookup ε α} {f : α → Lookup ε β} (hx : x.run.CallsOnly p)
    (hf : ∀ a, (f a).run.CallsOnly p) : (x >>= f).run.CallsOnly p := by
  refine Traced.CallsOnly.bind hx fun a => ?_
  cases a with
  | error e => exact Traced.callsOnly_pure _
  | ok a => exact hf a

theorem callsOnly_bounded {wrap : ε → LocateError} {operation : String} {timeout : Time.Span}
    {answer : Traced (Answer ε α)} (h : answer.CallsOnly p) :
    (Locator.bounded wrap operation timeout answer).run.CallsOnly p :=
  h.map _

end Lookup

end CallsOnly

open Lookup

/-- The search for the kubelet asks for a node. -/
theorem Kubelet.callsOnly_locate (name : String) (url : Option String) (w : Surroundings)
    (timeout : Time.Span) : ((locator name url).locate w timeout).run.CallsOnly Call.IsLookup := by
  have hnode : (w.findNode name).CallsOnly Call.IsLookup := Traced.callsOnly_answer trivial _
  refine callsOnly_bind (callsOnly_mapError (callsOnly_bounded hnode) _) fun node => ?_
  refine callsOnly_bind (callsOnly_ofExcept _) fun ip => ?_
  exact callsOnly_bind (callsOnly_ofExcept _) fun _ => callsOnly_pure _

namespace StateMetrics

variable (w : Surroundings) (timeout : Time.Span)

theorem callsOnly_dnsUrl : (dnsUrl w timeout).run.CallsOnly Call.IsLookup := by
  have hsrv : (w.findSrv srvName).CallsOnly Call.IsLookup := Traced.callsOnly_answer trivial _
  exact callsOnly_bind (callsOnly_bounded hsrv) fun _ => callsOnly_ofExcept _

theorem callsOnly_apiUrl : (apiUrl w timeout).run.CallsOnly Call.IsLookup := by
  have hservices : (w.findServices selector).CallsOnly Call.IsLookup := Traced.callsOnly_answer trivial _
  exact callsOnly_bind (callsOnly_bounded hservices) fun _ => callsOnly_ofExcept _

theorem callsOnly_searchUrl : (searchUrl w timeout).run.CallsOnly Call.IsLookup := by
  refine (callsOnly_dnsUrl w timeout).bind fun found => ?_
  cases found with
  | ok url => exact Traced.callsOnly_pure _
  | error e =>
    refine (callsOnly_apiUrl w timeout).bind fun found => ?_
    cases found <;> exact Traced.callsOnly_pure _

/-- The search for kube-state-metrics asks the name service, for services and for pods. -/
theorem callsOnly_locate (url : Option String) : ((locator url).locate w timeout).run.CallsOnly Call.IsLookup := by
  have hpods : (w.findPods selector).CallsOnly Call.IsLookup := Traced.callsOnly_answer trivial _
  have hip : (nodeIp w timeout).run.CallsOnly Call.IsLookup :=
    callsOnly_bind (callsOnly_bounded hpods) fun _ => callsOnly_ofExcept _
  have hrest (url : Url) : (do
      let url ← Lookup.ofExcept ((overPlainHttp url).mapError DiscoveryError.step)
      let ip ← (nodeIp w timeout).mapError DiscoveryError.step
      return ⟨url, ip, .none⟩ : Lookup DiscoveryError Endpoint).run.CallsOnly Call.IsLookup :=
    callsOnly_bind (callsOnly_ofExcept _) fun _ =>
      callsOnly_bind (callsOnly_mapError hip _) fun _ => callsOnly_pure _
  simp only [locator]
  split
  · exact callsOnly_bind (callsOnly_ofExcept _) hrest
  · exact callsOnly_bind (callsOnly_searchUrl w timeout) hrest

end StateMetrics

/-- The credentials of the service account are taken into use once if the endpoint wants them, and otherwise not. -/
theorem Locator.calls_openClient (w : Surroundings) (e : Endpoint) :
    (openClient w e).calls = if e.auth = .serviceAccount then [.secureClient] else [] := by
  have hcalls : (openClient w e).calls = (SourceClient.connect w e).run.calls := Traced.calls_map _ _
  rw [hcalls, SourceClient.connect]
  cases e.auth with
  | none => rfl
  | serviceAccount =>
    rw [if_pos rfl, Lookup.calls_bind]
    cases w.openSecureClient.run.value <;> rfl

/-- A client authenticates exactly if its endpoint wants it to. -/
theorem Locator.authenticated_openClient {w : Surroundings} {e : Endpoint} {c : SourceClient}
    (h : (openClient w e).value = .ok c) : c.authenticated = true ↔ e.auth = .serviceAccount := by
  have hconnect : (SourceClient.connect w e).run.value = .ok c :=
    Lookup.value_of_value_mapError_eq_ok h
  rw [SourceClient.connect] at hconnect
  cases hauth : e.auth with
  | none =>
    rw [hauth] at hconnect
    obtain rfl := Except.ok.inj hconnect
    simp [SourceClient.plain]
  | serviceAccount =>
    rw [hauth] at hconnect
    obtain ⟨_, -, hpure⟩ := Lookup.exists_of_value_bind_eq_ok hconnect
    obtain rfl := Except.ok.inj hpure
    simp

end NodeTelemetry
