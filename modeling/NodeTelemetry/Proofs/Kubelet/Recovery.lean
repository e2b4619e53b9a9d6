import NodeTelemetry.Proofs.Connection.Calls
import NodeTelemetry.Proofs.Kubelet.Usage

/-!
# What a failure of the kubelet costs

Without the list of pods or the summary there are no raw groups. The other two answers, the series and the labels of
the node, may fail alone or together; the failure is recorded and costs the data of that answer. What it costs is said
by comparing two surroundings in which the other answers are the same.

## Main definitions

* `podsAnswer`, `summaryAnswer`, `seriesAnswer`: what becomes of the three requests.
* `seriesErrors`, `labelErrors`: the failures that are recorded.

## Main statements

* `value_collect`, `nodeCalls_collect`: raw groups and look-ups of the node as the answers have them.
* `groups_completeNode_erase`: what the labels of the node add.
* `collect_recovers`: what each failure costs.
-/

namespace NodeTelemetry

/-! ### Maps without a key -/

namespace TextMap

variable {α : Type}

/-- The map without the value of a key. -/
def erase (m : TextMap α) (k : String) : TextMap α :=
  ⟨m.entries.filter fun e => e.1 ≠ k, m.sorted.filter _⟩

theorem lookup_filter_ne (k j : String) (l : List (String × α)) :
    (l.filter fun e => e.1 ≠ k).lookup j = if j = k then none else l.lookup j := by
  induction l with
  | nil => simp
  | cons e rest ih =>
    rw [List.filter_cons]
    by_cases he : e.1 = k
    · rw [if_neg (by simpa using he), ih, lookup_cons_ite]
      split
      · rfl
      · next hj => rw [if_neg fun h => hj (h.trans he)]
    · rw [if_pos (by simpa using he), lookup_cons_ite, ih, lookup_cons_ite]
      by_cases hj : j = e.1
      · rw [if_pos hj, if_pos hj, if_neg fun h => he (hj.symm.trans h)]
      · rw [if_neg hj, if_neg hj]

theorem get?_erase (m : TextMap α) (k j : String) :
    (m.erase k).get? j = if j = k then none else m.get? j :=
  lookup_filter_ne k j m.entries

theorem erase_eq_self {m : TextMap α} {k : String} (h : m.get? k = none) : m.erase k = m := by
  refine ext_get? fun j => ?_
  rw [get?_erase]
  split
  · next hj => rw [hj, h]
  · rfl

/-- A value that was put under a new key is taken back with the key. -/
theorem erase_insert {m : TextMap α} {k : String} (x : α) (h : m.get? k = none) :
    (m.insert k x).erase k = m := by
  refine ext_get? fun j => ?_
  rw [get?_erase]
  split
  · next hj => rw [hj, h]
  · next hj => exact get?_insert_of_ne m x hj

end TextMap

/-! ### Requests and look-ups -/

/-- Whether a call asks the API for a node. -/
def Call.isNode : Call → Bool
  | node _ => true
  | _ => false

/-- The look-ups of nodes among the calls of a computation. -/
def Traced.nodeCalls {α : Type} (x : Traced α) : List Call :=
  x.calls.filter Call.isNode

theorem Traced.nodeCalls_bind {α β : Type} (x : Traced α) (f : α → Traced β) :
    (x >>= f).nodeCalls = x.nodeCalls ++ (f x.value).nodeCalls := by
  rw [nodeCalls, calls_bind, List.filter_append]
  rfl

/-- A request to a source asks for no node. -/
theorem Traced.CallsOnly.nodeCalls_eq_nil {α : Type} {x : Traced α}
    (h : x.CallsOnly fun call => call.isRequest = true) : x.nodeCalls = [] := by
  refine List.filter_eq_nil_iff.2 fun call hcall => ?_
  have hrequest := h call hcall
  cases call <;> simp_all [Call.isRequest, Call.isNode]

namespace SourceClient

open Lookup

variable {c : SourceClient} {w : Surroundings} {path : String}

theorem callsOnly_get : (c.get w path).run.CallsOnly fun call => call.isRequest = true := by
  refine callsOnly_bind (callsOnly_ofExcept _) fun url => ?_
  split
  · refine callsOnly_bind ?_ fun reply => ?_
    · have hanswer : (w.request url.withoutFragment).CallsOnly fun call => call.isRequest = true :=
        Traced.callsOnly_answer (p := fun call => call.isRequest = true) rfl _
      exact hanswer.map _
    · cases reply with
      | dropped => exact Traced.callsOnly_pure _
      | reply status _ | broken status =>
        simp only
        split
        · exact Traced.callsOnly_pure _
        · exact Traced.callsOnly_pure _
  · exact Traced.callsOnly_pure _

theorem callsOnly_text : (c.text w path).run.CallsOnly fun call => call.isRequest = true := by
  refine callsOnly_bind callsOnly_get fun (url, body) => ?_
  cases body with
  | some bytes => exact callsOnly_pure _
  | none => exact Traced.callsOnly_pure _

theorem callsOnly_json {α : Type} (read : Json → Option α) :
    (c.json read w path).run.CallsOnly fun call => call.isRequest = true := by
  refine callsOnly_bind callsOnly_get fun (url, body) => ?_
  simp only
  split
  · exact Traced.callsOnly_pure _
  · exact Traced.callsOnly_pure _

end SourceClient

/-- The families that queries keep of an answer to the request for series, or why there is none. -/
theorem value_fetchFamilies {c : SourceClient} {w : Surroundings} {queries : List Query} {path : String} :
    (fetchFamilies c w queries path).run.value = ((c.text w path).run.value.mapError (.series path)).map
      fun text => Query.families queries (Exposition.read text) := by
  rw [fetchFamilies, Lookup.value_bind, Lookup.value_mapError]
  cases (c.text w path).run.value <;> rfl

/-- Queries that select none of the samples keep no family. -/
theorem Query.families_eq_nil {queries : List Query} {samples : List (String × Sample)}
    (h : ∀ p ∈ samples, keep queries p.1 p.2 = false) : families queries samples = [] := by
  have hfilled : ∀ fs : List Family, samples.foldl
      (fun fs p => if keep queries p.1 p.2 then place p.1 p.2 fs else fs) fs = fs := by
    induction samples with
    | nil => exact fun _ => rfl
    | cons p rest ih =>
      intro fs
      rw [List.foldl_cons, h p (List.mem_cons_self ..)]
      exact ih (fun q hq => h q (List.mem_cons_of_mem _ hq)) fs
  rw [families]
  simp only [hfilled, List.map_eq_nil_iff, List.filter_eq_nil_iff]
  rintro f hf
  obtain ⟨name, -, rfl⟩ := List.mem_map.1 hf
  simp

namespace Kubelet

/-! ### The answers -/

/-- What becomes of the request for the list of pods. -/
def podsAnswer (c : SourceClient) (w : Surroundings) : Except RequestError (List Cluster.Pod) :=
  (c.json readPods? w podsPath).run.value

/-- What becomes of the request for the summary. -/
def summaryAnswer (c : SourceClient) (w : Surroundings) : Except RequestError Summary :=
  (c.json Summary.read? w summaryPath).run.value

/-- What becomes of the request for the series. -/
def seriesAnswer (c : SourceClient) (w : Surroundings) : Except RequestError String :=
  (c.text w seriesPath).run.value

/-- The families that queries keep of the answer to the request for the series. -/
def keptFamilies (queries : List Query) (answer : Except RequestError String) :
    Except GroupError (List Family) :=
  (answer.mapError (.series seriesPath)).map fun text =>
    Query.families queries (Exposition.read text)

/-- Why there is no node, if there is none: the API fails, or is too late. -/
def lookupError? (timeout : Time.Span) : Answer Cluster.ApiError Cluster.Node → Option Cluster.ApiError
  | .found _ => none
  | .failed e => some e
  | .stalled => some (.timeout timeout)

/-- The failure that is recorded for the series: one if there is no answer. -/
def seriesErrors : Except RequestError String → List GroupError
  | .ok _ => []
  | .error e => [.series seriesPath e]

/-- The failure that is recorded for the labels of a node: one if the node is looked up and there is no answer. -/
def labelErrors (timeout : Time.Span) (name : String)
    (answer : Answer Cluster.ApiError Cluster.Node) : List GroupError :=
  if name = "" then [] else (lookupError? timeout answer).toList.map (.nodeLabels name)

variable {c : SourceClient} {w w' : Surroundings} {queries : List Query} {timeout : Time.Span}

theorem value_seriesFamilies : (fetchFamilies c w queries seriesPath).run.value =
    keptFamilies queries (seriesAnswer c w) :=
  value_fetchFamilies

theorem errors_ofDocuments (pods : List Cluster.Pod) (summary : Summary)
    (answer : Except RequestError String) :
    (ofDocuments pods summary (keptFamilies queries answer)).errors = seriesErrors answer := by
  cases answer <;> rfl

/-- What is collected, by the answers to the requests. -/
theorem value_collect : (collect c w queries timeout).run.value =
    match podsAnswer c w, summaryAnswer c w with
    | .error e, _ => .error (.fetch podsPath e)
    | .ok _, .error e => .error (.fetch summaryPath e)
    | .ok pods, .ok summary => .ok (completeNode w timeout summary.node.nodeName
        (ofDocuments pods summary (keptFamilies queries (seriesAnswer c w)))).value := by
  have hpods : ((c.json readPods? w podsPath).mapError (GroupError.fetch podsPath)).run.value =
      (podsAnswer c w).mapError (.fetch podsPath) := rfl
  have hsummary : ((c.json Summary.read? w summaryPath).mapError
      (GroupError.fetch summaryPath)).run.value = (summaryAnswer c w).mapError (.fetch summaryPath) :=
    rfl
  simp only [collect, ExceptT.run_mk, Traced.value_bind, hpods, hsummary, value_seriesFamilies]
  cases podsAnswer c w with
  | error e => rfl
  | ok pods =>
    cases summaryAnswer c w with
    | error e => rfl
    | ok summary => rfl

/-! ### The node -/

theorem value_nodeLabels (w : Surroundings) (timeout : Time.Span) (name : String) :
    (nodeLabels w timeout name).value =
      ((w.node name).bounded id (.timeout timeout)).map fun n => n.metadata.labels :=
  rfl

theorem errors_completeNode (w : Surroundings) (timeout : Time.Span) (name : String)
    (data : SourceGroups) : (completeNode w timeout name data).value.errors =
      data.errors ++ labelErrors timeout name (w.node name) := by
  rw [completeNode, labelErrors]
  split
  · exact (List.append_nil _).symm
  · rw [Traced.value_bind, value_nodeLabels]
    cases w.node name with
    | found n => exact (List.append_nil _).symm
    | failed e => rfl
    | stalled => rfl

/-- The raw groups with the labels of a node, if it has a name and is found. -/
theorem groups_completeNode (w : Surroundings) (timeout : Time.Span) (name : String)
    (data : SourceGroups) : (completeNode w timeout name data).value.groups =
      match w.node name with
      | .found n => if name = "" then data.groups else addNodeLabels name n.metadata.labels data.groups
      | .failed _ | .stalled => data.groups := by
  rw [completeNode]
  split
  · cases w.node name <;> rfl
  · rw [Traced.value_bind, value_nodeLabels]
    cases w.node name <;> rfl

/-- Without a node nothing is added. -/
theorem groups_completeNode_of_lookupError {name : String} {e : Cluster.ApiError}
    (h : lookupError? timeout (w.node name) = some e) (data : SourceGroups) :
    (completeNode w timeout name data).value.groups = data.groups := by
  rw [groups_completeNode]
  cases hnode : w.node name with
  | found n =>
    rw [hnode] at h
    cases h
  | failed e => rfl
  | stalled => rfl

/-- The labels are all that a look-up adds. -/
theorem groups_completeNode_erase {data : SourceGroups} (w : Surroundings) (timeout : Time.Span)
    (name : String) (h : Unadorned "node" data.groups) :
    (completeNode w timeout name data).value.groups.updateExisting "node" name (·.erase "labels") =
      data.groups := by
  have hlabels : ∀ m, data.groups.entity? "node" name = some m → m.get? "labels" = none := by
    intro m hm
    cases hget : m.get? "labels" with
    | none => rfl
    | some v =>
      have hmem := h name m hm "labels" v hget
      simp [ownSchema, nodeUsageSchema, networkSchema, fsSchema] at hmem
  have hbare : data.groups.updateExisting "node" name (·.erase "labels") = data.groups :=
    RawGroups.updateExisting_eq_self_iff.2 fun m hm => TextMap.erase_eq_self (hlabels m hm)
  rw [groups_completeNode]
  cases w.node name with
  | failed e => exact hbare
  | stalled => exact hbare
  | found n =>
    simp only
    split
    · exact hbare
    · rw [addNodeLabels, RawGroups.updateExisting_updateExisting]
      exact RawGroups.updateExisting_eq_self_iff.2 fun m hm => TextMap.erase_insert _ (hlabels m hm)

/-- Neither pods nor the summary nor series give labels of a node. -/
theorem unadorned_ofDocuments (pods : List Cluster.Pod) (summary : Summary)
    (series : Except GroupError (List Family)) :
    Unadorned "node" (ofDocuments pods summary series).groups := by
  have hnode : Unadorned "node" (addNode (ofPods pods) summary.node) := by
    rw [addNode]
    split
    · exact unadorned_ofPods "node" pods
    · exact (unadorned_ofPods "node" pods).put (fit_nodeFacts summary.node)
  have hsummary : Unadorned "node" (addSummary (ofPods pods) summary) := by
    refine List.foldlRecOn summary.pods addPodUsage hnode fun groups h p _ => ?_
    have hpod : Unadorned "node" (putExisting groups "pod" (podId p.pod.space p.pod.name)
        (factsOf networkFacts p.network)) := h.updateExisting (by decide)
    refine List.foldlRecOn p.volumes (addVolume p.pod) ?_ fun groups h v _ =>
      h.put (fit_volumeFacts p.pod v)
    exact List.foldlRecOn p.containers (addContainerUsage p.pod) hpod fun groups h c _ =>
      h.updateExisting (by decide)
  cases series with
  | error e => exact hsummary
  | ok families =>
    refine List.foldlRecOn _ addSample hsummary fun groups h s _ => ?_
    rw [addSample]
    split
    · exact h.updateExisting (by decide)
    · exact h

/-! ### Look-ups -/

theorem nodeCalls_completeNode (w : Surroundings) (timeout : Time.Span) (name : String)
    (data : SourceGroups) : (completeNode w timeout name data).nodeCalls =
      if name = "" then [] else [.node name] := by
  rw [completeNode]
  split
  · rfl
  · rw [Traced.nodeCalls_bind]
    split <;> rfl

/-- The node is looked up where both documents are there and the summary gives it a name. -/
theorem nodeCalls_collect : (collect c w queries timeout).run.nodeCalls =
    match podsAnswer c w, summaryAnswer c w with
    | .ok _, .ok summary =>
      if summary.node.nodeName = "" then [] else [.node summary.node.nodeName]
    | _, _ => [] := by
  have hpods : ((c.json readPods? w podsPath).mapError (GroupError.fetch podsPath)).run.nodeCalls = [] :=
    (Lookup.callsOnly_mapError (SourceClient.callsOnly_json _) _).nodeCalls_eq_nil
  have hsummary : ((c.json Summary.read? w summaryPath).mapError
      (GroupError.fetch summaryPath)).run.nodeCalls = [] :=
    (Lookup.callsOnly_mapError (SourceClient.callsOnly_json _) _).nodeCalls_eq_nil
  have hseries : (fetchFamilies c w queries seriesPath).run.nodeCalls = [] :=
    (Lookup.callsOnly_bind (Lookup.callsOnly_mapError SourceClient.callsOnly_text _)
      fun _ => Lookup.callsOnly_pure _).nodeCalls_eq_nil
  simp only [collect, ExceptT.run_mk, Traced.nodeCalls_bind, hpods, hsummary, hseries, List.nil_append]
  have hvalue : ((c.json readPods? w podsPath).mapError (GroupError.fetch podsPath)).run.value =
      (podsAnswer c w).mapError (.fetch podsPath) := rfl
  have hvalue' : ((c.json Summary.read? w summaryPath).mapError
      (GroupError.fetch summaryPath)).run.value = (summaryAnswer c w).mapError (.fetch summaryPath) :=
    rfl
  rw [hvalue, hvalue']
  cases podsAnswer c w with
  | error e => rfl
  | ok pods =>
    cases summaryAnswer c w with
    | error e => rfl
    | ok summary =>
      change (completeNode w timeout summary.node.nodeName _ >>= _).nodeCalls = _
      rw [Traced.nodeCalls_bind, nodeCalls_completeNode]
      exact List.append_nil _

/-! ### What a failure costs -/

/-- A failure of the kubelet or of the API costs its own data and no more.

Without the list of pods or without the summary nothing is collected, and the first of the two failures is the
one that is reported. With both, the failures that are recorded are the one of the series and the one of the labels, in
this order, and the node is looked up once if it has a name. Compared with surroundings that give the same two
documents, a failure for the series costs what it costs if no sample is kept, and a failure for the node costs its
labels. -/
theorem collect_recovers (c : SourceClient) (w : Surroundings) (queries : List Query)
    (timeout : Time.Span) :
    let result := (collect c w queries timeout).run
    (∀ e, podsAnswer c w = .error e →
      result.value = .error (.fetch podsPath e) ∧ result.nodeCalls = []) ∧
    (∀ pods e, podsAnswer c w = .ok pods → summaryAnswer c w = .error e →
      result.value = .error (.fetch summaryPath e) ∧ result.nodeCalls = []) ∧
    ∀ pods summary, podsAnswer c w = .ok pods → summaryAnswer c w = .ok summary →
      let name := summary.node.nodeName
      ∃ data, result.value = .ok data ∧
        data.errors = seriesErrors (seriesAnswer c w) ++ labelErrors timeout name (w.node name) ∧
        result.nodeCalls = (if name = "" then [] else [.node name]) ∧
        ∀ w', podsAnswer c w' = .ok pods → summaryAnswer c w' = .ok summary →
          ∃ data', (collect c w' queries timeout).run.value = .ok data' ∧
            (∀ e text, seriesAnswer c w = .error e → seriesAnswer c w' = .ok text →
              (∀ p ∈ Exposition.read text, Query.keep queries p.1 p.2 = false) →
              w.node name = w'.node name → data.groups = data'.groups) ∧
            (∀ e n, lookupError? timeout (w.node name) = some e → w'.node name = .found n →
              seriesAnswer c w = seriesAnswer c w' →
              data.groups = data'.groups.updateExisting "node" name (·.erase "labels")) := by
  intro result
  refine ⟨fun e hpods => ?_, fun pods e hpods hsummary => ?_, fun pods summary hpods hsummary => ?_⟩
  · constructor
    · rw [value_collect, hpods]
    · rw [nodeCalls_collect, hpods]
  · constructor
    · rw [value_collect, hpods, hsummary]
    · rw [nodeCalls_collect, hpods, hsummary]
  · intro name
    refine ⟨_, by rw [value_collect, hpods, hsummary], ?_, ?_, fun w' hpods' hsummary' =>
      ⟨_, by rw [value_collect, hpods', hsummary'], ?_, ?_⟩⟩
    · rw [errors_completeNode, errors_ofDocuments]
    · rw [nodeCalls_collect, hpods, hsummary]
    · -- what is not kept leaves the groups as the summary made them
      intro e text hseries hseries' hkept hnode
      have hnone : keptFamilies queries (.ok text) = .ok [] :=
        congrArg Except.ok (Query.families_eq_nil hkept)
      rw [groups_completeNode, groups_completeNode, hnode, hseries, hseries', hnone]
      rfl
    · intro e n hlookup _ hseries
      rw [groups_completeNode_of_lookupError hlookup, hseries]
      exact (groups_completeNode_erase w' timeout name (unadorned_ofDocuments _ _ _)).symm

/-- A client of the kubelet on the node itself. -/
def localClient : SourceClient :=
  .plain ⟨⟨"http", "", "", some (.ipv4 0x7F000001), some 10255, .segments [""], none, none⟩,
    "127.0.0.1", .none⟩

/-- Surroundings with a list of pods and a summary, without series, in which the API is too late. -/
def impaired : Surroundings :=
  { Surroundings.unreachable with
    node := fun _ => .stalled
    network := fun url =>
      match url.path with
      | .segments ["pods"] => .reply 200 "\x7b\"items\": []\x7d".toUTF8.toList
      | .segments ["stats", "summary"] =>
        .reply 200 "\x7b\"node\": \x7b\"nodeName\": \"node-a\"\x7d\x7d".toUTF8.toList
      | _ => .dropped }

/-- Both failures are recorded, and the node is looked up once. -/
theorem collect_recovers_impaired :
    let result := (collect localClient impaired [] (.ofSeconds 5)).run
    ∃ data, result.value = .ok data ∧
      data.errors.map GroupError.message =
        ["failed to fetch metrics from /metrics/cadvisor: request to " ++
            "http://127.0.0.1:10255/metrics/cadvisor failed",
          "failed to read labels of node node-a: request timed out after 5s"] ∧
      result.nodeCalls = [.node "node-a"] := by
  have hpods : (podsAnswer localClient impaired).toOption.isSome := by decide +kernel
  have hname : (summaryAnswer localClient impaired).toOption.map (fun s => s.node.nodeName) =
      some "node-a" := by decide +kernel
  cases hp : podsAnswer localClient impaired with
  | error e => simp [hp, Except.toOption] at hpods
  | ok pods =>
    cases hs : summaryAnswer localClient impaired with
    | error e => simp [hs, Except.toOption] at hname
    | ok summary =>
      have hnode : summary.node.nodeName = "node-a" := by
        rw [hs] at hname
        exact Option.some.inj hname
      obtain ⟨-, -, hboth⟩ := collect_recovers localClient impaired [] (.ofSeconds 5)
      obtain ⟨data, hdata, herrors, hcalls, -⟩ := hboth pods summary hp hs
      refine ⟨data, hdata, ?_, by rw [hcalls, hnode]; rfl⟩
      rw [herrors, hnode]
      decide +kernel

end Kubelet

end NodeTelemetry
