import NodeTelemetry.Proofs.Json.Nulls
import NodeTelemetry.Proofs.Json.RoundTrip
import NodeTelemetry.Proofs.Kubelet.Recovery

/-!
# Explicit nulls in the documents of the kubelet

What a list of pods or a summary leaves out may be written as `null`, and the raw groups and failures are the same, with
two exceptions. Four lists may be left out, but where one of them is `null` the document can not be read, and nothing
is collected: the `items` of a list of pods, the `pods` of a summary, and the `containers` and the `volume` of a pod in
it. And a pod of the list may leave out its kind and its version, but where it names one of them, also as `null`, it has
to name the right one.

## Main definitions

* `podListLayout`, `Summary.layout`: the two documents, with the layouts of the records in them.
* `Summary.NullList`: a summary in which one of its lists is `null`.
* `telling`: surroundings in which the kubelet gives two documents.

## Main statements

* `steady_readPods?`, `Summary.steady`: the documents are read alike with one `null` more.
* `collect_nulls`: what nulls mean for what is collected.
* `collect_null_items`: the list of pods that is `null`.
-/

namespace NodeTelemetry

open Json

/-- Open records without records in them. -/
abbrev Json.Layout.plain : Layout := ⟨[], [], []⟩

/-! ### Pods of the cluster -/

namespace Cluster

theorem Owner.steady : Steady Layout.plain.AddsNull Owner.read? := by
  refine steady_of_fields (fun _ => rfl) fun fs fs' h => ?_
  simp [Owner.read?, asFields?, h.fieldD]

abbrev Metadata.layout : Layout := ⟨[], [], [("ownerReferences", InList Layout.plain.AddsNull)]⟩

theorem Metadata.steady : Steady Metadata.layout.AddsNull Metadata.read? := by
  refine steady_of_fields (fun _ => rfl) fun fs fs' h => ?_
  simp [Metadata.read?, asFields?, h.field?, h.fieldD, steady_inList Owner.steady]

/-- Reads what a container requests and what limits it. -/
def readResources? (j : Json) : Option (Resources × Resources) := do
  let fs ← j.asFields?
  some (← fieldD "requests" .empty readTexts? fs, ← fieldD "limits" .empty readTexts? fs)

theorem steady_readResources? : Steady Layout.plain.AddsNull readResources? := by
  refine steady_of_fields (fun _ => rfl) fun fs fs' h => ?_
  simp [readResources?, asFields?, h.fieldD]

theorem fieldD_readResources? (fs : List (String × Json)) :
    fieldD "resources" (.empty, .empty) readResources? fs =
      (fieldD "resources" [] asFields? fs).bind fun rs =>
        (fieldD "requests" .empty readTexts? rs).bind fun requests =>
          (fieldD "limits" .empty readTexts? rs).bind fun limits => some (requests, limits) := by
  have hfield : ∀ {α : Type} (d : α) (read : Json → Option α), fieldD "resources" d read fs =
      (field? "resources" read fs).map (·.getD d) := fun _ _ => rfl
  rw [hfield, hfield, field?, field?]
  cases lastField "resources" fs with
  | none => rfl
  | some j =>
    simp only [readResources?]
    cases j.asFields? with
    | none => rfl
    | some rs =>
      simp only [Option.bind_eq_bind, Option.bind_some, Option.map_some, Option.getD_some]
      cases fieldD "requests" TextMap.empty readTexts? rs with
      | none => rfl
      | some requests => cases fieldD "limits" TextMap.empty readTexts? rs <;> rfl

/-- The resources of a container may be read together. -/
theorem Container.read?_obj (fs : List (String × Json)) : Container.read? (obj fs) =
    (fieldD "resources" (.empty, .empty) readResources? fs).bind fun r =>
      (fieldD "name" "" asText? fs).bind fun name =>
        (field? "image" asText? fs).bind fun image => some ⟨name, image, r.1, r.2⟩ := by
  rw [fieldD_readResources?, Container.read?]
  simp only [asFields?, Option.bind_eq_bind, Option.bind_some, Option.bind_assoc]
  congr 1
  funext rs
  cases fieldD "name" "" asText? fs <;> cases field? "image" asText? fs <;>
    cases fieldD "requests" TextMap.empty readTexts? rs <;>
    cases fieldD "limits" TextMap.empty readTexts? rs <;> rfl

abbrev Container.layout : Layout := ⟨[], [], [("resources", Layout.plain.AddsNull)]⟩

theorem Container.steady : Steady Container.layout.AddsNull Container.read? := by
  refine steady_of_fields (fun _ => rfl) fun fs fs' h => ?_
  simp [Container.read?_obj, h.field?, h.fieldD, steady_readResources?]

abbrev PodSpec.layout : Layout := ⟨[], [], [("containers", InList Container.layout.AddsNull)]⟩

theorem PodSpec.steady : Steady PodSpec.layout.AddsNull PodSpec.read? := by
  refine steady_of_fields (fun _ => rfl) fun fs fs' h => ?_
  simp [PodSpec.read?, asFields?, h.field?, h.fieldD, steady_inList Container.steady]

theorem Condition.steady : Steady Layout.plain.AddsNull Condition.read? := by
  refine steady_of_fields (fun _ => rfl) fun fs fs' h => ?_
  simp [Condition.read?, asFields?, h.fieldD]

theorem steady_readPart? {α : Type} (name : String) (read : Json → Option α) :
    Steady Layout.plain.AddsNull (readPart? name read) := by
  refine steady_of_fields (fun _ => rfl) fun fs fs' h => ?_
  simp [readPart?, asFields?, h.field?]

abbrev ContainerState.layout : Layout :=
  ⟨[], [], [("running", Layout.plain.AddsNull), ("waiting", Layout.plain.AddsNull),
    ("terminated", Layout.plain.AddsNull)]⟩

theorem ContainerState.steady : Steady ContainerState.layout.AddsNull ContainerState.read? := by
  refine steady_of_fields (fun _ => rfl) fun fs fs' h => ?_
  simp [ContainerState.read?, asFields?, h.field?, steady_readPart?]

abbrev ContainerStatus.layout : Layout := ⟨[], [], [("state", ContainerState.layout.AddsNull)]⟩

theorem ContainerStatus.steady : Steady ContainerStatus.layout.AddsNull ContainerStatus.read? := by
  refine steady_of_fields (fun _ => rfl) fun fs fs' h => ?_
  simp [ContainerStatus.read?, asFields?, h.field?, h.fieldD, ContainerState.steady]

abbrev PodStatus.layout : Layout :=
  ⟨[], [], [("conditions", InList Layout.plain.AddsNull),
    ("containerStatuses", InList ContainerStatus.layout.AddsNull)]⟩

theorem PodStatus.steady : Steady PodStatus.layout.AddsNull PodStatus.read? := by
  refine steady_of_fields (fun _ => rfl) fun fs fs' h => ?_
  simp [PodStatus.read?, asFields?, h.field?, h.fieldD, steady_inList Condition.steady,
    steady_inList ContainerStatus.steady]

/-- A pod of the list. Where it names its kind and its version, these are texts. -/
abbrev Pod.layout : Layout :=
  ⟨[], ["kind", "apiVersion"],
    [("metadata", Metadata.layout.AddsNull), ("spec", PodSpec.layout.AddsNull),
      ("status", PodStatus.layout.AddsNull)]⟩

theorem Pod.isOfKind_fieldsStep {fs fs' : List (String × Json)} (h : Pod.layout.FieldsStep fs fs')
    (kind : String) : isOfKind kind fs' = isOfKind kind fs := by
  cases h with
  | here hname habsent =>
    simp only [List.mem_cons, List.not_mem_nil, or_false, not_or] at hname
    simp [isOfKind, hname]
  | @inside front back part j j' hpart h =>
    have hname : part.1 ≠ "kind" ∧ part.1 ≠ "apiVersion" := by
      simp only [List.mem_cons, List.not_mem_nil, or_false] at hpart
      rcases hpart with rfl | rfl | rfl <;> decide
    simp [isOfKind, hname]

/-- A pod whose kind or version is `null` can not be read. -/
theorem Pod.read?_eq_none {fields : List (String × Json)} {name : String} (hname : name ∈ ["kind", "apiVersion"])
    (h : (name, .null) ∈ fields) : Pod.read? (obj fields) = none := by
  have hkind : isOfKind "Pod" fields = false := by
    refine List.all_eq_false.2 ⟨(name, .null), h, ?_⟩
    simp only [List.mem_cons, List.not_mem_nil, or_false] at hname
    rcases hname with rfl | rfl <;> decide
  simp [Pod.read?, asFields?, hkind]

theorem Pod.steady : Steady Pod.layout.AddsNull Pod.read? := by
  refine steady_of_fields (fun _ => rfl) fun fs fs' h => ?_
  simp [Pod.read?, asFields?, h.field?, h.fieldD, Pod.isOfKind_fieldsStep h, Metadata.steady,
    PodSpec.steady, PodStatus.steady]

end Cluster

namespace Kubelet

/-! ### The two documents -/

/-- The list of pods. -/
abbrev podListLayout : Layout := ⟨["items"], ["items"], [("items", InList Cluster.Pod.layout.AddsNull)]⟩

theorem steady_readPods? : Steady podListLayout.AddsNull readPods? := by
  refine steady_of_strictRecord 0 (by decide) (fun j hj => ?_) fun j j' f g hj hj' h => ?_
  · simp [readPods?, hj]
  · simp [readPods?, hj, hj', (h _).defaulted, steady_inList Cluster.Pod.steady]

abbrev CpuStats.layout : Layout := ⟨["usageNanoCores", "usageCoreNanoSeconds"], [], []⟩

theorem CpuStats.steady : Steady CpuStats.layout.AddsNull CpuStats.read? := by
  refine steady_of_strictRecord 2 (by decide) (fun j hj => ?_) fun j j' f g hj hj' h => ?_
  · simp [CpuStats.read?, hj]
  · simp [CpuStats.read?, hj, hj', amount, (h _).optional]

abbrev MemoryStats.layout : Layout :=
  ⟨["availableBytes", "usageBytes", "workingSetBytes", "rssBytes", "pageFaults", "majorPageFaults"],
    [], []⟩

theorem MemoryStats.steady : Steady MemoryStats.layout.AddsNull MemoryStats.read? := by
  refine steady_of_strictRecord 6 (by decide) (fun j hj => ?_) fun j j' f g hj hj' h => ?_
  · simp [MemoryStats.read?, hj]
  · simp [MemoryStats.read?, hj, hj', amount, (h _).optional]

abbrev NetworkStats.layout : Layout := ⟨["rxBytes", "rxErrors", "txBytes", "txErrors"], [], []⟩

theorem NetworkStats.steady : Steady NetworkStats.layout.AddsNull NetworkStats.read? := by
  refine steady_of_strictRecord 4 (by decide) (fun j hj => ?_) fun j j' f g hj hj' h => ?_
  · simp [NetworkStats.read?, hj]
  · simp [NetworkStats.read?, hj, hj', amount, (h _).optional]

abbrev FsStats.layout : Layout :=
  ⟨["availableBytes", "capacityBytes", "usedBytes", "inodesFree", "inodes", "inodesUsed"], [], []⟩

theorem FsStats.steady : Steady FsStats.layout.AddsNull FsStats.read? := by
  refine steady_of_strictRecord 6 (by decide) (fun j hj => ?_) fun j j' f g hj hj' h => ?_
  · simp [FsStats.read?, hj]
  · simp [FsStats.read?, hj, hj', amount, (h _).optional]

/-- The report on the runtime. -/
abbrev runtimeLayout : Layout := ⟨["imageFs"], [], [("imageFs", FsStats.layout.AddsNull)]⟩

theorem steady_readImageFs? : Steady runtimeLayout.AddsNull readImageFs? := by
  refine steady_of_strictRecord 1 (by decide) (fun j hj => ?_) fun j j' f g hj hj' h => ?_
  · simp [readImageFs?, hj]
  · simp [readImageFs?, hj, hj', (h _).optional, FsStats.steady]

abbrev NodeStats.layout : Layout :=
  ⟨["nodeName", "cpu", "memory", "network", "fs", "runtime"], ["nodeName"],
    [("cpu", CpuStats.layout.AddsNull), ("memory", MemoryStats.layout.AddsNull),
      ("network", NetworkStats.layout.AddsNull), ("fs", FsStats.layout.AddsNull),
      ("runtime", runtimeLayout.AddsNull)]⟩

theorem NodeStats.steady : Steady NodeStats.layout.AddsNull NodeStats.read? := by
  refine steady_of_strictRecord 6 (by decide) (fun j hj => ?_) fun j j' f g hj hj' h => ?_
  · simp [NodeStats.read?, hj]
  · simp [NodeStats.read?, hj, hj', (h _).optional, (h _).required, CpuStats.steady, MemoryStats.steady,
      NetworkStats.steady, FsStats.steady, steady_readImageFs?]

abbrev ContainerStats.layout : Layout :=
  ⟨["name", "cpu", "memory", "rootfs"], ["name"],
    [("cpu", CpuStats.layout.AddsNull), ("memory", MemoryStats.layout.AddsNull),
      ("rootfs", FsStats.layout.AddsNull)]⟩

theorem ContainerStats.steady : Steady ContainerStats.layout.AddsNull ContainerStats.read? := by
  refine steady_of_strictRecord 4 (by decide) (fun j hj => ?_) fun j j' f g hj hj' h => ?_
  · simp [ContainerStats.read?, hj]
  · simp [ContainerStats.read?, hj, hj', (h _).optional, (h _).required, CpuStats.steady,
      MemoryStats.steady, FsStats.steady]

abbrev Reference.layout : Layout := ⟨["name", "namespace"], ["name", "namespace"], []⟩

theorem Reference.steady : Steady Reference.layout.AddsNull Reference.read? := by
  refine steady_of_strictRecord 2 (by decide) (fun j hj => ?_) fun j j' f g hj hj' h => ?_
  · simp [Reference.read?, hj]
  · simp [Reference.read?, hj, hj', (h _).required]

/-- A volume, an object in which its amounts stand too. -/
abbrev VolumeStats.layout : Layout := ⟨[], ["name"], [("pvcRef", Reference.layout.AddsNull)]⟩

theorem VolumeStats.read?_fs {fs fs' : List (String × Json)} (h : VolumeStats.layout.FieldsStep fs fs') :
    FsStats.read? (obj fs') = FsStats.read? (obj fs) := by
  rcases h.strictRecord_cases FsStats.layout.order 6 with ⟨hj, hj'⟩ | ⟨hj, hj'⟩
  · simp [FsStats.read?, hj, hj']
  · simp [FsStats.read?, hj, hj', amount, (h.lookup _).optional]

theorem VolumeStats.steady : Steady VolumeStats.layout.AddsNull VolumeStats.read? := by
  refine steady_of_fields (fun _ => rfl) fun fs fs' h => ?_
  have hreadable := h.fieldsReadable fun part hpart j j' hstep => by
    obtain rfl := List.mem_singleton.1 hpart
    exact hstep.isReadable rfl
  rcases h.strictRecord_cases ["name", "pvcRef"] 2 with ⟨hj, hj'⟩ | ⟨hj, hj'⟩
  · simp [VolumeStats.read?, asFields?, VolumeStats.read?_fs h, hj, hj']
  · simp [VolumeStats.read?, asFields?, hreadable, VolumeStats.read?_fs h, hj, hj', (h.lookup _).optional,
      (h.lookup _).required, Reference.steady]

/-- A pod of the summary. Its lists may be missing, but not `null`. -/
abbrev PodStats.layout : Layout :=
  ⟨["podRef", "containers", "network", "volume"], ["podRef", "containers", "volume"],
    [("podRef", Reference.layout.AddsNull), ("containers", InList ContainerStats.layout.AddsNull),
      ("network", NetworkStats.layout.AddsNull), ("volume", InList VolumeStats.layout.AddsNull)]⟩

theorem PodStats.steady : Steady PodStats.layout.AddsNull PodStats.read? := by
  refine steady_of_strictRecord 3 (by decide) (fun j hj => ?_) fun j j' f g hj hj' h => ?_
  · simp [PodStats.read?, hj]
  · simp [PodStats.read?, hj, hj', (h _).optional, (h _).required, (h _).defaulted, Reference.steady,
      NetworkStats.steady, steady_inList ContainerStats.steady, steady_inList VolumeStats.steady]

/-- The summary. Its list may be missing, but not `null`. -/
abbrev Summary.layout : Layout :=
  ⟨["node", "pods"], ["node", "pods"],
    [("node", NodeStats.layout.AddsNull), ("pods", InList PodStats.layout.AddsNull)]⟩

theorem Summary.steady : Steady Summary.layout.AddsNull Summary.read? := by
  refine steady_of_strictRecord 1 (by decide) (fun j hj => ?_) fun j j' f g hj hj' h => ?_
  · simp [Summary.read?, hj]
  · simp [Summary.read?, hj, hj', (h _).required, (h _).defaulted, NodeStats.steady,
      steady_inList PodStats.steady]

/-! ### Lists that are null -/

/-- A list of pods that is `null` can not be read. -/
theorem readPods?_eq_none {fields : List (String × Json)} (h : ("items", .null) ∈ fields) :
    readPods? (obj fields) = none := by
  rcases strictRecord_of_mem h (List.mem_singleton_self _) 0 with hnone | ⟨hsome, hitems⟩
  · simp [readPods?, hnone]
  · simp [readPods?, hsome, hitems, defaulted, asListOf?, asItems?]

/-- Where a member of a list can not be read neither can the list. -/
theorem mapM_eq_none_of_mem {α : Type} {read : Json → Option α} {items : List Json} {j : Json}
    (hj : j ∈ items) (h : read j = none) : items.mapM read = none := by
  obtain ⟨front, back, rfl⟩ := List.append_of_mem hj
  simp [h]

/-- A list of pods in which one can not be read can not be read itself. -/
theorem readPods?_eq_none_of_mem {fields : List (String × Json)} {pods : List Json} {pod : Json}
    (hpods : ("items", .arr pods) ∈ fields) (hpod : pod ∈ pods) (h : Cluster.Pod.read? pod = none) :
    readPods? (obj fields) = none := by
  have hread : pods.mapM Cluster.Pod.read? = none := mapM_eq_none_of_mem hpod h
  rcases strictRecord_of_mem hpods (List.mem_singleton_self _) 0 with hnone | ⟨hsome, hitems⟩
  · simp [readPods?, hnone]
  · simp [readPods?, hsome, hitems, defaulted, asListOf?, asItems?, hread]

theorem PodStats.read?_eq_none {fields : List (String × Json)} {name : String}
    (hname : name ∈ ["containers", "volume"]) (h : (name, .null) ∈ fields) :
    PodStats.read? (obj fields) = none := by
  have hmember : name ∈ PodStats.layout.order := by
    simp only [List.mem_cons, List.not_mem_nil, or_false] at hname
    rcases hname with rfl | rfl <;> decide
  rcases strictRecord_of_mem h hmember 3 with hnone | ⟨hsome, hnull⟩
  · simp [PodStats.read?, hnone]
  · simp only [List.mem_cons, List.not_mem_nil, or_false] at hname
    rcases hname with rfl | rfl
    · simp [PodStats.read?, hsome, hnull, defaulted, asListOf?, asItems?]
    · simp [PodStats.read?, hsome, hnull, defaulted, asListOf?, asItems?]

/-- A summary in which a list is `null`: the one of its pods, or one of a pod. -/
inductive Summary.NullList : Json → Prop where
  | pods {fields : List (String × Json)} (h : ("pods", .null) ∈ fields) : NullList (obj fields)
  | ofPod {fields pod : List (String × Json)} {pods : List Json} {name : String}
    (hpods : ("pods", .arr pods) ∈ fields) (hpod : obj pod ∈ pods)
    (hname : name ∈ ["containers", "volume"]) (h : (name, .null) ∈ pod) : NullList (obj fields)

theorem Summary.read?_eq_none {j : Json} (h : Summary.NullList j) : Summary.read? j = none := by
  have hmember : "pods" ∈ Summary.layout.order := by decide
  cases h with
  | pods h =>
    rcases strictRecord_of_mem h hmember 1 with hnone | ⟨hsome, hnull⟩
    · simp [Summary.read?, hnone]
    · simp [Summary.read?, hsome, hnull, defaulted, asListOf?, asItems?]
  | @ofPod fields pod pods name hpods hpod hname h =>
    have hread : pods.mapM PodStats.read? = none := mapM_eq_none_of_mem hpod (PodStats.read?_eq_none hname h)
    rcases strictRecord_of_mem hpods hmember 1 with hnone | ⟨hsome, hitems⟩
    · simp [Summary.read?, hnone]
    · simp [Summary.read?, hsome, hitems, defaulted, asListOf?, asItems?, hread]

/-! ### What is collected -/

section Collect

variable {c : SourceClient} {w w' : Surroundings} {queries : List Query} {timeout : Time.Span}

/-- The document of a path, whatever it says. -/
def document (c : SourceClient) (w : Surroundings) (path : String) : Except RequestError Json :=
  (c.json some w path).run.value

/-- A reply comes from the URL of its path. -/
theorem requestUrl_of_get {path : String} {reply : Url × Option (List UInt8)}
    (h : (c.get w path).run.value = .ok reply) : c.requestUrl path = .ok reply.1 := by
  rw [SourceClient.get, Lookup.value_bind, Lookup.value_ofExcept] at h
  cases hrequest : c.requestUrl path with
  | error e =>
    rw [hrequest] at h
    cases h
  | ok url =>
    rw [hrequest] at h
    simp only [Except.bind] at h
    split at h
    · rw [Lookup.value_bind] at h
      generalize (liftM (w.request url.withoutFragment) : Lookup RequestError Reply).run.value = answer at h
      cases answer with
      | error e => cases h
      | ok answer =>
        cases answer with
        | dropped => cases h
        | reply status _ | broken status =>
          simp only [Except.bind] at h
          split at h
          · cases h
            rfl
          · cases h
    · cases h

theorem value_json {α : Type} (read : Json → Option α) (path : String) :
    (c.json read w path).run.value = (c.get w path).run.value.bind fun reply =>
      (((reply.2.bind Text.Utf8.read?).bind Json.read?).bind read).elim (.error (.undecodable reply.1)) .ok := by
  rw [SourceClient.json, Lookup.value_bind]
  congr 1
  funext reply
  obtain ⟨url, body⟩ := reply
  simp only
  cases ((body.bind Text.Utf8.read?).bind Json.read?).bind read <;> rfl

/-- A document is read, or it can not be, and then it is known where it came from. -/
theorem value_json_of_document {α : Type} (read : Json → Option α) {path : String} {j : Json}
    (h : document c w path = .ok j) : ∃ url, c.requestUrl path = .ok url ∧
      (c.json read w path).run.value = (read j).elim (.error (.undecodable url)) .ok := by
  rw [document, value_json] at h
  cases hget : (c.get w path).run.value with
  | error e =>
    rw [hget] at h
    cases h
  | ok reply =>
    refine ⟨reply.1, requestUrl_of_get hget, ?_⟩
    rw [hget] at h
    rw [value_json, hget]
    simp only [Except.bind] at h ⊢
    cases hjson : (reply.2.bind Text.Utf8.read?).bind Json.read? with
    | none => simp [hjson] at h
    | some j' =>
      obtain rfl : j' = j := by simpa [hjson] using h
      rfl

/-- The text of a document in a reply is read as that document. -/
theorem document_of_reply {path : String} {url : Url} {j : Json} (hurl : c.requestUrl path = .ok url)
    (hrequest : SourceClient.isRequestable url = true)
    (hreply : w.network url.withoutFragment = .reply 200 j.text.toUTF8.toList)
    (hbytes : Text.Utf8.read? j.text.toUTF8.toList = some j.text.toList) (hread : j.ReadsBack) :
    document c w path = .ok j := by
  have hget : (c.get w path).run.value = .ok (url, some j.text.toUTF8.toList) := by
    have hanswer : (liftM (w.request url.withoutFragment) : Lookup RequestError Reply).run.value =
        .ok (.reply 200 j.text.toUTF8.toList) := congrArg Except.ok hreply
    rw [SourceClient.get, Lookup.value_bind, Lookup.value_ofExcept, hurl]
    simp only [Except.bind]
    rw [if_pos hrequest, Lookup.value_bind, hanswer]
    rfl
  rw [document, value_json, hget]
  simp only [Except.bind, Option.bind_some, hbytes, read?_text hread]
  rfl

/-- Documents that differ in explicit nulls are read alike. -/
theorem value_json_of_addsNull {α : Type} {l : Layout} {read : Json → Option α}
    (hsteady : Steady l.AddsNull read) {path : String} {j j' : Json} (h : document c w path = .ok j)
    (h' : document c w' path = .ok j') (hnulls : Relation.ReflTransGen l.AddsNull j j') :
    (c.json read w' path).run.value = (c.json read w path).run.value := by
  obtain ⟨url, hurl, hvalue⟩ := value_json_of_document read h
  obtain ⟨url', hurl', hvalue'⟩ := value_json_of_document read h'
  obtain rfl := Except.ok.inj (hurl.symm.trans hurl')
  rw [hvalue, hvalue', hsteady.read_eq hnulls]

theorem completeNode_congr (hnode : w'.node = w.node) (name : String) (data : SourceGroups) :
    completeNode w' timeout name data = completeNode w timeout name data := by
  have hfind : w'.findNode name = w.findNode name := by
    rw [Surroundings.findNode, Surroundings.findNode, hnode]
  rw [completeNode, completeNode, nodeLabels, nodeLabels, hfind]

/-- Where the list of pods can not be read nothing is collected. -/
theorem value_collect_of_unreadable {j : Json} (h : document c w podsPath = .ok j) (hread : readPods? j = none) :
    ∃ url, c.requestUrl podsPath = .ok url ∧
      (collect c w queries timeout).run.value = .error (.fetch podsPath (.undecodable url)) := by
  obtain ⟨url, hurl, hvalue⟩ := value_json_of_document readPods? h
  rw [hread] at hvalue
  exact ⟨url, hurl, by rw [value_collect, podsAnswer, hvalue]; rfl⟩

/-- What nulls mean for what is collected.

Any number of members that are missing may be `null` in both documents, and neither the raw groups nor the failures
change; the layouts leave out the four lists, the members that have to be there, and kind and version of a pod. Where
one of the four lists is `null`, or kind or version of a listed pod, the document that it belongs to can not be read,
and nothing is collected. -/
theorem collect_nulls (c : SourceClient) (w : Surroundings) (queries : List Query)
    (timeout : Time.Span) :
    (∀ w' pods pods' summary summary',
      document c w podsPath = .ok pods → document c w' podsPath = .ok pods' →
      document c w summaryPath = .ok summary → document c w' summaryPath = .ok summary' →
      Relation.ReflTransGen podListLayout.AddsNull pods pods' →
      Relation.ReflTransGen Summary.layout.AddsNull summary summary' →
      seriesAnswer c w' = seriesAnswer c w → w'.node = w.node →
        (collect c w' queries timeout).run.value = (collect c w queries timeout).run.value) ∧
    (∀ fields, document c w podsPath = .ok (.obj fields) → ("items", .null) ∈ fields →
      ∃ url, c.requestUrl podsPath = .ok url ∧
        (collect c w queries timeout).run.value = .error (.fetch podsPath (.undecodable url))) ∧
    (∀ fields pods pod name, document c w podsPath = .ok (.obj fields) → ("items", .arr pods) ∈ fields →
      .obj pod ∈ pods → name ∈ ["kind", "apiVersion"] → (name, .null) ∈ pod →
      ∃ url, c.requestUrl podsPath = .ok url ∧
        (collect c w queries timeout).run.value = .error (.fetch podsPath (.undecodable url))) ∧
    (∀ pods summary, podsAnswer c w = .ok pods → document c w summaryPath = .ok summary →
      Summary.NullList summary → ∃ url, c.requestUrl summaryPath = .ok url ∧
        (collect c w queries timeout).run.value = .error (.fetch summaryPath (.undecodable url))) := by
  refine ⟨?_, ?_, ?_, ?_⟩
  · intro w' pods pods' summary summary' hpods hpods' hsummary hsummary' hp hs hseries hnode
    have hp' : podsAnswer c w' = podsAnswer c w := value_json_of_addsNull steady_readPods? hpods hpods' hp
    have hs' : summaryAnswer c w' = summaryAnswer c w :=
      value_json_of_addsNull Summary.steady hsummary hsummary' hs
    rw [value_collect, value_collect, hp', hs', hseries]
    simp only [completeNode_congr hnode]
  · intro fields hpods hitems
    exact value_collect_of_unreadable hpods (readPods?_eq_none hitems)
  · intro fields pods pod name hpods hitems hpod hname hnull
    have hread : Cluster.Pod.read? (.obj pod) = none := Cluster.Pod.read?_eq_none hname hnull
    exact value_collect_of_unreadable hpods (readPods?_eq_none_of_mem hitems hpod hread)
  · intro pods summary hpods hsummary hnull
    obtain ⟨url, hurl, hvalue⟩ := value_json_of_document Summary.read? hsummary
    rw [Summary.read?_eq_none hnull] at hvalue
    exact ⟨url, hurl, by rw [value_collect, hpods, summaryAnswer, hvalue]; rfl⟩

end Collect

/-- Surroundings in which the kubelet gives a list of pods and a summary, and no series. -/
def telling (pods summary : Json) : Surroundings :=
  { impaired with
    network := fun url =>
      match url.path with
      | .segments ["pods"] => .reply 200 pods.text.toUTF8.toList
      | .segments ["stats", "summary"] => .reply 200 summary.text.toUTF8.toList
      | _ => .dropped }

/-- A list of one pod. -/
def briefPods : Json := .obj [("items", .arr [.obj [("metadata", .obj [("name", .str "web")])]])]

/-- The same list with `null` for the labels and the specification of the pod. -/
def spelledPods : Json :=
  .obj [("items", .arr [.obj [("metadata", .obj [("name", .str "web"), ("labels", .null)]), ("spec", .null)]])]

/-- A summary of a node. -/
def briefSummary : Json := .obj [("node", .obj [("nodeName", .str "node-a")])]

/-- The same summary with `null` for the report on the processor. -/
def spelledSummary : Json := .obj [("node", .obj [("nodeName", .str "node-a"), ("cpu", .null)])]

theorem addsNull_spelledPods : Relation.ReflTransGen podListLayout.AddsNull briefPods spelledPods := by
  have hlabels : Cluster.Pod.layout.AddsNull (.obj [("metadata", .obj [("name", .str "web")])])
      (.obj [("metadata", .obj [("name", .str "web"), ("labels", .null)])]) :=
    .inside (List.mem_cons_self ..) (.behind (by decide) (by decide))
  have hspec : Cluster.Pod.layout.AddsNull
      (.obj [("metadata", .obj [("name", .str "web"), ("labels", .null)])])
      (.obj [("metadata", .obj [("name", .str "web"), ("labels", .null)]), ("spec", .null)]) :=
    .behind (by decide) (by simp)
  have hlist {j j' : Json} (h : Cluster.Pod.layout.AddsNull j j') :
      podListLayout.AddsNull (.obj [("items", .arr [j])]) (.obj [("items", .arr [j'])]) :=
    .inside (List.mem_cons_self ..) (@InList.mk _ [] [] _ _ h)
  exact .tail (.single (hlist hlabels)) (hlist hspec)

theorem addsNull_spelledSummary : Relation.ReflTransGen Summary.layout.AddsNull briefSummary spelledSummary := by
  have hcpu : NodeStats.layout.AddsNull (.obj [("nodeName", .str "node-a")])
      (.obj [("nodeName", .str "node-a"), ("cpu", .null)]) :=
    .behind (by decide) (by decide)
  exact .single (.inside (List.mem_cons_self ..) hcpu)

/-- Both documents are accepted with these nulls as they are without them, and give the same. -/
theorem collect_nulls_spelled :
    let brief := telling briefPods briefSummary
    let spelled := telling spelledPods spelledSummary
    (document localClient brief podsPath = .ok briefPods ∧
      document localClient spelled podsPath = .ok spelledPods) ∧
    (document localClient brief summaryPath = .ok briefSummary ∧
      document localClient spelled summaryPath = .ok spelledSummary) ∧
    (collect localClient brief [] (.ofSeconds 5)).run.value.isOk = true ∧
    (collect localClient spelled [] (.ofSeconds 5)).run.value =
      (collect localClient brief [] (.ofSeconds 5)).run.value := by
  intro brief spelled
  have hpodsUrl : localClient.requestUrl podsPath =
      .ok { localClient.endpoint.url with path := .segments ["pods"] } := by
    decide +kernel
  have hsummaryUrl : localClient.requestUrl summaryPath =
      .ok { localClient.endpoint.url with path := .segments ["stats", "summary"] } := by
    decide +kernel
  have hread : ∀ j ∈ [briefPods, spelledPods, briefSummary, spelledSummary], j.ReadsBack := by
    simp [briefPods, spelledPods, briefSummary, spelledSummary, ReadsBack, ItemsReadBack, FieldsReadBack]
  have hpods : document localClient brief podsPath = .ok briefPods :=
    document_of_reply hpodsUrl (by decide) rfl (by decide +kernel) (hread _ (by simp))
  have hpods' : document localClient spelled podsPath = .ok spelledPods :=
    document_of_reply hpodsUrl (by decide) rfl (by decide +kernel) (hread _ (by simp))
  have hsummary : document localClient brief summaryPath = .ok briefSummary :=
    document_of_reply hsummaryUrl (by decide) rfl (by decide +kernel) (hread _ (by simp))
  have hsummary' : document localClient spelled summaryPath = .ok spelledSummary :=
    document_of_reply hsummaryUrl (by decide) rfl (by decide +kernel) (hread _ (by simp))
  have hseries : seriesAnswer localClient spelled = seriesAnswer localClient brief := by
    decide +kernel
  refine ⟨⟨hpods, hpods'⟩, ⟨hsummary, hsummary'⟩, by decide +kernel, ?_⟩
  exact (collect_nulls localClient brief [] (.ofSeconds 5)).1 spelled _ _ _ _ hpods hpods' hsummary hsummary'
    addsNull_spelledPods addsNull_spelledSummary hseries rfl

/-- Surroundings with a summary of a node, without series, in which the list of pods is a text. -/
def listing (pods : String) : Surroundings :=
  { impaired with
    network := fun url =>
      match url.path with
      | .segments ["pods"] => .reply 200 pods.toUTF8.toList
      | _ => impaired.network url }

/-- An empty list of pods may be left out, but not written as `null`. -/
theorem collect_null_items :
    let outcome (pods : String) : Except String Unit :=
      ((collect localClient (listing pods) [] (.ofSeconds 5)).run.value.mapError GroupError.message).map
        fun _ => ()
    outcome "\x7b\x7d" = .ok () ∧
      outcome "\x7b\"items\": null\x7d" = .error
        "failed to fetch /pods: failed to decode response from http://127.0.0.1:10255/pods" := by
  decide +kernel

end Kubelet

end NodeTelemetry
