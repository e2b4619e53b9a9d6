import Mathlib.Control.Monad.Basic
import NodeTelemetry.Proofs.Pass.Agreement
import NodeTelemetry.Proofs.Pass.Stages

/-!
# The kubelet without regard to kube-state-metrics

Kube-state-metrics is collected first, into the same store. Still nothing that is known about it or comes back
from it changes what the kubelet adds, because the steps of a source do not depend on the store; and where
it fails, the pass is the one of a follower.

## Main statements

* `kubelet_independent_of_stateMetrics`: two passes that differ only in what concerns kube-state-metrics have the same
  kubelet.
-/

namespace NodeTelemetry.Pass

open Surroundings (AgreeOnKubelet)

variable {w w' : Surroundings}

theorem kubeletConnection_eq (h : w.AgreeOnKubelet w') (config : PassConfig) (url : Option String)
    (now : Time.Instant) (cache : EndpointCache) :
    kubeletConnection { config with stateMetricsUrl := url } w' now cache =
      kubeletConnection config w now cache :=
  congrArg Traced.value (h.connect_eq config.nodeName config.kubeletUrl (timing config now) cache).symm

section Stages

variable {catalog : Catalog} {config : PassConfig} {kubelet : SourceClient}
  {stateMetrics stateMetrics' : Except DiscoveryError SourceClient}

/-- The steps of the kubelet do not depend on kube-state-metrics. -/
theorem steps_stagesOf_eq (h : w.AgreeOnKubelet w') (url : Option String) :
    (stagesOf catalog config w kubelet stateMetrics).steps =
      (stagesOf catalog { config with stateMetricsUrl := url } w' kubelet stateMetrics').steps := by
  simp only [stagesOf, h.collect_eq]

/-- The report on the kubelet does not depend on kube-state-metrics. -/
theorem report_stagesOf_eq (h : w.AgreeOnKubelet w') (url : Option String) :
    (stagesOf catalog config w kubelet stateMetrics).own.report =
      (stagesOf catalog { config with stateMetricsUrl := url } w' kubelet
        stateMetrics').own.report := by
  simp only [stagesOf, h.collect_eq]
  exact report_populateSource _ _

/-- Passes in which kube-state-metrics adds nothing have the same store and the same verdict. -/
theorem map_store_result_eq (h : w.AgreeOnKubelet w') (url : Option String)
    (hquiet : (stagesOf catalog config w kubelet stateMetrics).IsQuiet)
    (hquiet' : (stagesOf catalog { config with stateMetricsUrl := url } w' kubelet
      stateMetrics').IsQuiet) :
    (stagesOf catalog config w kubelet stateMetrics).result.map PassReport.store =
      (stagesOf catalog { config with stateMetricsUrl := url } w' kubelet
        stateMetrics').result.map PassReport.store := by
  rw [hquiet.map_store_result, hquiet'.map_store_result, report_stagesOf_eq h url, own_store,
    own_store, hquiet.before_eq, hquiet'.before_eq, steps_stagesOf_eq h url]

end Stages

/-- Kube-state-metrics never damages the data of the kubelet. Two passes from one cache in which the kubelet is found,
and which differ at most in how kube-state-metrics is found and in what it replies, give the same report on the
kubelet, and the kubelet appends the same metric sets under the same keys in the same order. Where
kube-state-metrics fails in one of them and the node is a follower in the other, the verdict and the store are the
same too. -/
theorem kubelet_independent_of_stateMetrics (h : w.AgreeOnKubelet w') (catalog : Catalog)
    (config : PassConfig) (url : Option String) (now : Time.Instant) (cache : EndpointCache)
    {kubelet : SourceClient}
    (hfound : (kubeletConnection config w now cache).client = .ok kubelet) :
    let config' := { config with stateMetricsUrl := url }
    let s := stages catalog config w now cache kubelet
    let s' := stages catalog config' w' now cache kubelet
    ((run catalog config w now cache).value.result = s.result ∧
      (run catalog config' w' now cache).value.result = s'.result) ∧
    (s.own.store = s.steps.foldl Step.apply s.before ∧
      s'.own.store = s'.steps.foldl Step.apply s'.before) ∧
    s.own.report = s'.own.report ∧
    s.appended = s'.appended ∧
    (∀ key, s.own.store.setsOf key =
        s.before.setsOf key ++ (s.appended.filter fun p => p.1 = key).map Prod.snd ∧
      s'.own.store.setsOf key =
        s'.before.setsOf key ++ (s.appended.filter fun p => p.1 = key).map Prod.snd) ∧
    (s.StateMetricsFails → s'.role = .follower →
      (run catalog config w now cache).value.result.map PassReport.store =
        (run catalog config' w' now cache).value.result.map PassReport.store) := by
  have hfound' : (kubeletConnection { config with stateMetricsUrl := url } w' now cache).client =
      .ok kubelet := by
    rw [kubeletConnection_eq h, hfound]
  have hrun : (run catalog config w now cache).value.result =
      (stages catalog config w now cache kubelet).result :=
    result_run_of_found hfound
  have hrun' : (run catalog { config with stateMetricsUrl := url } w' now cache).value.result =
      (stages catalog { config with stateMetricsUrl := url } w' now cache kubelet).result :=
    result_run_of_found hfound'
  have happended : (stages catalog config w now cache kubelet).appended =
      (stages catalog { config with stateMetricsUrl := url } w' now cache kubelet).appended :=
    congrArg (List.flatMap Step.appended) (steps_stagesOf_eq h url)
  refine ⟨⟨hrun, hrun'⟩, ⟨own_store, own_store⟩, report_stagesOf_eq h url, happended, ?_, ?_⟩
  · intro key
    refine ⟨setsOf_own key, ?_⟩
    rw [happended]
    exact setsOf_own key
  · intro hfails hfollower
    have hquiet' := Stages.isQuiet_of_leading_eq_none (leading_eq_none_of_follower hfollower)
    rw [hrun, hrun']
    exact map_store_result_eq h url (isQuiet_of_fails hfails) hquiet'

/-! ### A leader whose kube-state-metrics is broken -/

theorem isSeriesUrl_serviceUrl : StateMetrics.IsSeriesUrl serviceUrl :=
  ⟨.plain ⟨{ serviceUrl with path := .segments [""] }, "", .none⟩, serviceUrl, by decide +kernel,
    by decide⟩

theorem agree_surroundingsOf (ip ip' : String) (status status' : Nat) :
    (surroundingsOf ip status).AgreeOnKubelet (surroundingsOf ip' status') where
  node := rfl
  secureClient := rfl
  network url hurl := by
    have hne : url ≠ serviceUrl := by
      rintro rfl
      exact hurl isSeriesUrl_serviceUrl
    simp [surroundingsOf, hne]

/-- A leader whose kube-state-metrics is broken has the store and the verdict of a follower, and the kubelet fills that
store. -/
theorem kubelet_independent_of_broken_stateMetrics :
    let broken := surroundingsOf "10.0.0.1" 500
    let remote := surroundingsOf "10.0.0.2" 200
    let now : Time.Instant := ⟨0, 0⟩
    broken.AgreeOnKubelet remote ∧
    (kubeletConnection .default broken now .missing).client = .ok (.plain plainEndpoint) ∧
    (stages .standard .default broken now .missing (.plain plainEndpoint)).StateMetricsFails ∧
    (stages .standard .default remote now .missing (.plain plainEndpoint)).role = .follower ∧
    (run .standard .default broken now .missing).value.result.isOk = true ∧
    (run .standard .default broken now .missing).value.result.map PassReport.store =
      (run .standard .default remote now .missing).value.result.map PassReport.store := by
  intro broken remote now
  have hagree : broken.AgreeOnKubelet remote := agree_surroundingsOf _ _ _ _
  have hfound : (kubeletConnection .default broken now .missing).client =
      .ok (.plain plainEndpoint) := by
    decide +kernel
  have hfails : (stages .standard .default broken now .missing
      (.plain plainEndpoint)).StateMetricsFails := by
    have hfailure : ((stages .standard .default broken now .missing
        (.plain plainEndpoint)).leading.bind fun c => c.report.failure).isSome = true := by
      decide +kernel
    obtain ⟨failure, hsome⟩ := Option.isSome_iff_exists.1 hfailure
    obtain ⟨c, hc, hreport⟩ := Option.bind_eq_some_iff.1 hsome
    exact .inr ⟨c, hc, by rw [hreport]; exact Option.some_ne_none _⟩
  have hfollower : (stages .standard .default remote now .missing
      (.plain plainEndpoint)).role = .follower := by
    decide +kernel
  have hok : (run .standard .default broken now .missing).value.result.isOk = true := by
    decide +kernel
  have h := kubelet_independent_of_stateMetrics hagree .standard .default none now .missing hfound
  exact ⟨hagree, hfound, hfails, hfollower, hok, h.2.2.2.2.2 hfails hfollower⟩

end NodeTelemetry.Pass
