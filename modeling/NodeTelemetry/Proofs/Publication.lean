import NodeTelemetry.Json.Record
import NodeTelemetry.Payload
import NodeTelemetry.Proofs.Entity.Requests
import NodeTelemetry.Proofs.Json.Faithful
import NodeTelemetry.Proofs.Json.Printed

/-!
# What a publication says

A publication is what a reader gets out of the published line: the version and, for every entity in order, its key
and its metric sets, each with its event type, its metrics and their declared types. Whole numbers count by their value,
with or without sign. The line of every store that requests build is one line, and reading it gives the
publication of the store, so two stores with one line have one publication.

The names of metrics stand in one object with the two names that are reserved for the set itself: that no set has a
metric under them is what keeps the fields of that object apart.

## Main definitions

* `Publication.ofStore`: the publication of a store.
* `Publication.ofJson?`: the publication that a reader gets.
* `EntityStore.DoublesReadBack`: the finite doubles of a store are printed as numbers that give them back.

## Main statements

* `MetricSet.ofJson?_json`: a set is read from its document.
* `Payload.faithful_json`: the document of a store is definite and reads back.
* `Payload.line_reads_back`: the line of a store gives its publication.
-/

namespace NodeTelemetry

/-! ### Publications -/

/-- The value of a metric: a whole number, a double or a text. -/
inductive Content where
  | whole (n : Int)
  | double (x : Float)
  | text (s : String)

/-- A metric set as a reader sees it. -/
structure PublishedSet where
  eventType : String
  metrics : TextMap Content
  types : TextMap MetricType

/-- An entity as a reader sees it. -/
structure PublishedEntity where
  key : EntityKey
  sets : List PublishedSet

/-- What a published line says. -/
structure Publication where
  version : String
  entities : List PublishedEntity

/-- The value of a metric, with the numeric value of whole numbers. -/
def MetricValue.content : MetricValue → Content
  | int v => .whole v.toInt
  | uint v => .whole v.toNat
  | float v => .double v
  | text v => .text v

/-- What is published of a set. -/
def MetricSet.published (s : MetricSet) : PublishedSet :=
  ⟨s.eventType, s.values.map MetricValue.content, s.types⟩

/-- What is published of an entity. -/
def Entity.published (e : Entity) : PublishedEntity :=
  ⟨e.key, e.sets.map MetricSet.published⟩

/-- What is published of a store. -/
def Publication.ofStore (version : String) (store : EntityStore) : Publication :=
  ⟨version, store.entities.toList.map Entity.published⟩

/-! ### Readers -/

/-- The value of a metric, from its form in a document. -/
def Content.ofJson? : Json → Option Content
  | .int n => some (.whole n)
  | .float x => some (.double x)
  | .str s => some (.text s)
  | _ => none

/-- The type with a name. -/
def MetricType.ofJson? : Json → Option MetricType
  | .str "gauge" => some .gauge
  | .str "rate" => some .rate
  | .str "attribute" => some .attr
  | _ => none

/-- A set, from its document: the metrics are the fields under names that are not reserved. -/
def PublishedSet.ofJson? (j : Json) : Option PublishedSet := do
  let fields ← j.asFields?
  let eventType ← (fields.lookup eventTypeKey).bind Json.asText?
  let metrics ← Json.asPairsOf? Content.ofJson? (.obj (fields.filter fun f => Unreserved f.1))
  let types ← Json.asPairsOf? MetricType.ofJson? ((fields.lookup metricTypesKey).getD (.obj []))
  some ⟨eventType, .ofList metrics, .ofList types⟩

/-- A key, from its document. -/
def EntityKey.ofJson? (j : Json) : Option EntityKey := do
  let fields ← j.asFields?
  let name ← (fields.lookup "name").bind Json.asText?
  let type ← (fields.lookup "type").bind Json.asText?
  some ⟨name, type⟩

/-- An entity, from its document. -/
def PublishedEntity.ofJson? (j : Json) : Option PublishedEntity := do
  let fields ← j.asFields?
  let key ← (fields.lookup "entity").bind EntityKey.ofJson?
  let sets ← (fields.lookup "metrics").bind (Json.asListOf? PublishedSet.ofJson?)
  some ⟨key, sets⟩

/-- A publication, from a document. -/
def Publication.ofJson? (j : Json) : Option Publication := do
  let fields ← j.asFields?
  let version ← (fields.lookup "integration_version").bind Json.asText?
  let entities ← (fields.lookup "data").bind (Json.asListOf? PublishedEntity.ofJson?)
  some ⟨version, entities⟩

theorem mapM_map_eq_some {α β γ : Type} {write : α → β} {read : β → Option γ} {f : α → γ} {l : List α}
    (h : ∀ x ∈ l, read (write x) = some (f x)) : (l.map write).mapM read = some (l.map f) := by
  induction l with
  | nil => rfl
  | cons x rest ih =>
    obtain ⟨hx, hrest⟩ := List.forall_mem_cons.1 h
    simp [hx, ih hrest]

/-- The map of the entries of a map is that map. -/
theorem TextMap.ofList_entries {α : Type} (m : TextMap α) : ofList m.entries = m := by
  have hfun : ∀ a ∈ m.entries, ∀ b ∈ m.entries, a.1 = b.1 → a = b := by
    rintro ⟨k, x⟩ ha ⟨k', y⟩ hb (rfl : k = k')
    have heq := (get?_eq_some_iff.2 ha).symm.trans (get?_eq_some_iff.2 hb)
    rw [Option.some.inj heq]
  exact ext_get? fun k => Option.ext fun x => (get?_ofList_eq_some_iff hfun).trans get?_eq_some_iff.symm

theorem asPairsOf?_map {α β : Type} (write : α → Json) {read : Json → Option β} (f : α → β)
    (h : ∀ x, read (write x) = some (f x)) (m : TextMap α) :
    Json.asPairsOf? read (.obj (m.entries.map fun e => (e.1, write e.2))) = some (m.map f).entries :=
  mapM_map_eq_some fun e _ => by simp [h]

theorem asListOf?_map {α β : Type} {write : α → Json} {read : Json → Option β} {f : α → β} {l : List α}
    (h : ∀ x ∈ l, read (write x) = some (f x)) :
    Json.asListOf? read (.arr (l.map write)) = some (l.map f) :=
  mapM_map_eq_some h

/-! ### Documents are read -/

theorem Content.ofJson?_json (v : MetricValue) : Content.ofJson? v.json = some v.content := by
  cases v <;> rfl

theorem MetricType.ofJson?_name (t : MetricType) : MetricType.ofJson? (.str t.name) = some t := by
  cases t <;> rfl

namespace MetricSet

/-- The fields of the values of a set. -/
def valueFields (s : MetricSet) : List (String × Json) :=
  s.values.entries.map fun e => (e.1, e.2.json)

/-- The fields of the declared types of a set. -/
def typeFields (s : MetricSet) : List (String × Json) :=
  s.types.entries.map fun e => (e.1, .str e.2.name)

/-- The fields of the document of a set. -/
def fields (s : MetricSet) : List (String × Json) :=
  (eventTypeKey, .str s.eventType) ::
    (s.valueFields ++ if s.types.isEmpty then [] else [(metricTypesKey, .obj s.typeFields)])

theorem json_eq (s : MetricSet) : s.json = .obj s.fields := rfl

variable {s : MetricSet}

theorem map_fst_valueFields (s : MetricSet) : s.valueFields.map Prod.fst = s.values.keys := by
  rw [valueFields, List.map_map]
  rfl

theorem map_fst_typeFields (s : MetricSet) : s.typeFields.map Prod.fst = s.types.keys := by
  rw [typeFields, List.map_map]
  rfl

/-- No reserved name is among the values of a sound set. -/
theorem Sound.unreserved_of_mem (h : s.Sound) {name : String} (hname : name ∈ s.values.keys) :
    Unreserved name := by
  obtain ⟨e, he, rfl⟩ := List.mem_map.1 hname
  exact h.unreserved e he

/-- No two fields of the document of a sound set have the same name. -/
theorem Sound.nodup_fields (h : s.Sound) : (s.fields.map Prod.fst).Nodup := by
  have hevent : eventTypeKey ∉ s.values.keys := fun hm => h.unreserved_of_mem hm (.inl rfl)
  have htypes : metricTypesKey ∉ s.values.keys := fun hm => h.unreserved_of_mem hm (.inr rfl)
  have hne : eventTypeKey ≠ metricTypesKey := by decide
  rw [fields, List.map_cons, List.map_append, map_fst_valueFields, List.nodup_cons]
  cases s.types.isEmpty with
  | true => simpa [hevent] using s.values.nodup_keys
  | false =>
    refine ⟨by simp [hevent, hne], List.nodup_append.2 ⟨s.values.nodup_keys, by simp, ?_⟩⟩
    simp only [Bool.false_eq_true, if_false, List.map_cons, List.map_nil, List.mem_singleton]
    rintro name hname - rfl rfl
    exact htypes hname

/-- The fields under names that are not reserved are those of the values. -/
theorem Sound.filter_fields (h : s.Sound) : s.fields.filter (fun f => Unreserved f.1) = s.valueFields := by
  have hvalues : s.valueFields.filter (fun f => Unreserved f.1) = s.valueFields := by
    refine List.filter_eq_self.2 fun f hf => decide_eq_true (h.unreserved_of_mem ?_)
    rw [← map_fst_valueFields]
    exact List.mem_map_of_mem hf
  have hevent : ¬ Unreserved eventTypeKey := by decide
  have htypes : ¬ Unreserved metricTypesKey := by decide
  rw [fields, List.filter_cons_of_neg (by simpa using hevent), List.filter_append, hvalues]
  cases s.types.isEmpty <;> simp [htypes]

/-- The field of the declared types holds all types; where it is left out there are none. -/
theorem Sound.lookup_metricTypes (h : s.Sound) :
    (s.fields.lookup metricTypesKey).getD (.obj []) = .obj s.typeFields := by
  have hvalues : s.valueFields.lookup metricTypesKey = none := by
    rw [List.lookup_eq_none_iff]
    intro f hf
    rw [bne_iff_ne]
    intro heq
    have hname : f.1 ∈ s.values.keys := by
      rw [← map_fst_valueFields]
      exact List.mem_map_of_mem hf
    exact h.unreserved_of_mem hname (.inr heq.symm)
  have hne : (metricTypesKey == eventTypeKey) = false := by decide
  simp only [fields, List.lookup_cons, hne, List.lookup_append, hvalues, Option.none_or]
  cases hempty : s.types.isEmpty with
  | true =>
    have hnil : s.types.entries = [] := List.isEmpty_iff.1 hempty
    simp [typeFields, hnil]
  | false => simp

/-- A sound set is read from its document. -/
theorem ofJson?_json (h : s.Sound) : PublishedSet.ofJson? s.json = some s.published := by
  have hvalues : Json.asPairsOf? Content.ofJson? (.obj s.valueFields) =
      some (s.values.map MetricValue.content).entries :=
    asPairsOf?_map MetricValue.json _ Content.ofJson?_json s.values
  have htypes : Json.asPairsOf? MetricType.ofJson? (.obj s.typeFields) = some (s.types.map id).entries :=
    asPairsOf?_map (fun type => .str type.name) _ MetricType.ofJson?_name s.types
  have hevent : (s.fields.lookup eventTypeKey).bind Json.asText? = some s.eventType := by
    simp [fields, Json.asText?]
  simp only [json_eq, PublishedSet.ofJson?, Json.asFields?, Option.bind_eq_bind, Option.bind_some, hevent,
    h.filter_fields, hvalues, h.lookup_metricTypes, htypes, TextMap.ofList_entries, TextMap.map_id]
  rfl

end MetricSet

theorem EntityKey.ofJson?_json (key : EntityKey) :
    ofJson? (.obj [("name", .str key.name), ("type", .str key.type)]) = some key := by
  rfl

/-- An entity whose sets are sound is read from its document. -/
theorem Entity.ofJson?_json {e : Entity} (h : ∀ set ∈ e.sets, set.Sound) :
    PublishedEntity.ofJson? e.json = some e.published := by
  have hsets : Json.asListOf? PublishedSet.ofJson? (.arr (e.sets.map MetricSet.json)) =
      some (e.sets.map MetricSet.published) :=
    asListOf?_map fun set hset => MetricSet.ofJson?_json (h set hset)
  simp [PublishedEntity.ofJson?, json, Json.asFields?, EntityKey.ofJson?_json, hsets, published,
    List.lookup_cons]

namespace Payload

variable {version : String} {store : EntityStore}

/-- The publication of a store whose sets are sound is read from its document. -/
theorem ofJson?_json (h : ∀ set, store.Holds set → set.Sound) :
    Publication.ofJson? (json version store) = some (.ofStore version store) := by
  have hentities : Json.asListOf? PublishedEntity.ofJson? store.json =
      some (store.entities.toList.map Entity.published) :=
    asListOf?_map fun e he => Entity.ofJson?_json fun set hset => h set ⟨e, he, hset⟩
  simp [Publication.ofJson?, json, Json.asFields?, Json.asText?, hentities, Publication.ofStore,
    List.lookup_cons]

end Payload

/-! ### Documents are faithful -/

/-- The finite doubles that a store holds are printed as numbers that give them back. -/
def EntityStore.DoublesReadBack (store : EntityStore) : Prop :=
  ∀ set, store.Holds set → ∀ e ∈ set.values.entries, ∀ x, e.2 = .float x →
    x.isFinite = true → Json.PrintsDouble x

theorem MetricValue.faithful_json {v : MetricValue} (h : ∀ x, v = .float x → Json.PrintsDouble x) :
    v.json.Faithful := by
  cases v with
  | int n =>
    have hlow := n.le_toInt
    have hhigh := n.toInt_lt
    exact Json.faithful_int (by simpa using hlow) (by simp [UInt64.size]; omega)
  | uint n => exact Json.faithful_int (by simp [UInt64.size]) (Int.ofNat_lt.2 n.toNat_lt)
  | float x => exact Json.faithful_float (h x rfl)
  | text s => exact Json.faithful_str s

theorem MetricSet.faithful_json {s : MetricSet} (h : s.Sound)
    (hdoubles : ∀ e ∈ s.values.entries, ∀ x, e.2 = .float x → Json.PrintsDouble x) :
    s.json.Faithful := by
  have htypes : (Json.obj s.typeFields).Faithful := by
    refine Json.faithful_obj ?_ fun f hf => ?_
    · rw [map_fst_typeFields]
      exact s.types.nodup_keys
    · obtain ⟨e, -, rfl⟩ := List.mem_map.1 hf
      exact Json.faithful_str e.2.name
  rw [json_eq]
  refine Json.faithful_obj h.nodup_fields fun f hf => ?_
  rw [fields, List.mem_cons, List.mem_append] at hf
  rcases hf with rfl | hf | hf
  · exact Json.faithful_str s.eventType
  · obtain ⟨e, he, rfl⟩ := List.mem_map.1 hf
    exact MetricValue.faithful_json (hdoubles e he)
  · split at hf
    · cases hf
    · rw [List.mem_singleton.1 hf]
      exact htypes

theorem EntityKey.faithful_json (key : EntityKey) :
    (Json.obj [("name", .str key.name), ("type", .str key.type)]).Faithful := by
  refine Json.faithful_obj (by simp) fun f hf => ?_
  simp only [List.mem_cons, List.not_mem_nil, or_false] at hf
  rcases hf with rfl | rfl
  · exact Json.faithful_str key.name
  · exact Json.faithful_str key.type

theorem Entity.faithful_json {e : Entity} (h : ∀ set ∈ e.sets, set.json.Faithful) : e.json.Faithful := by
  refine Json.faithful_obj (by simp) fun f hf => ?_
  simp only [List.mem_cons, List.not_mem_nil, or_false] at hf
  rcases hf with rfl | rfl
  · exact e.key.faithful_json
  · exact Json.faithful_arr (List.forall_mem_map.2 h)

namespace Payload

theorem faithful_json {version : String} {store : EntityStore} (h : ∀ set, store.Holds set → set.Sound)
    (hdoubles : store.DoublesReadBack) : (json version store).Faithful := by
  have hdata : store.json.Faithful := by
    refine Json.faithful_arr (List.forall_mem_map.2 fun e he => Entity.faithful_json fun set hset => ?_)
    have hset : store.Holds set := ⟨e, he, hset⟩
    refine MetricSet.faithful_json (h set hset) fun e he x hx => ?_
    exact hdoubles set hset e he x hx ((h set hset).finite e he x hx)
  refine Json.faithful_obj (by simp) fun f hf => ?_
  simp only [List.mem_cons, List.not_mem_nil, or_false] at hf
  rcases hf with rfl | rfl | rfl | rfl
  · exact Json.faithful_str integrationName
  · exact Json.faithful_str protocolVersion
  · exact Json.faithful_str version
  · exact hdata

/-- The line of a store is read back, to the document of the store and to nothing else. -/
theorem read?_line {version : String} {store : EntityStore} (h : ∀ set, store.Holds set → set.Sound)
    (hdoubles : store.DoublesReadBack) :
    Json.read? (line version store).toList = some (json version store) :=
  Json.read?_line (faithful_json h hdoubles).readsBack (List.cons_ne_nil _ _)

end Payload

/-! ### Stores of requests -/

/-- The doubles of a store come from the writes of its requests. -/
theorem EntityStore.doublesReadBack_ofRequests {requests : List StoreRequest}
    (h : ∀ name type eventType writes, .add name type eventType writes ∈ requests →
      ∀ w ∈ writes, ∀ x, w.value = .float x → x.isFinite = true → Json.PrintsDouble x) :
    (ofRequests requests).DoublesReadBack := by
  intro set hset e he x hx hfinite
  obtain ⟨name, type, eventType, writes, hadd, rfl⟩ := exists_of_holds_ofRequests hset
  obtain ⟨w, hw, -, hstored⟩ := MetricSet.exists_write_of_mem he
  rw [hx] at hstored
  exact h name type eventType writes hadd w hw x (Write.eq_of_stored_float hstored).1 hfinite

namespace Payload

/-- What is published of a store that requests build is one line, and nothing is lost in it: reading it gives the
version and all entities with their metric sets, from a document in which nothing is missing and no field
occurs twice. So no other publication has the same line. -/
theorem line_reads_back (version : String) (requests : List StoreRequest)
    (hdoubles : (EntityStore.ofRequests requests).DoublesReadBack) :
    (∃ body, (line version (.ofRequests requests)).toList = body ++ ['\n'] ∧ '\n' ∉ body) ∧
    (∃ j, Json.read? (line version (.ofRequests requests)).toList = some j ∧ j.IsDefinite ∧
      Publication.ofJson? j = some (.ofStore version (.ofRequests requests))) ∧
    ∀ version' requests', (EntityStore.ofRequests requests').DoublesReadBack →
      line version' (.ofRequests requests') = line version (.ofRequests requests) →
      Publication.ofStore version' (.ofRequests requests') =
        Publication.ofStore version (.ofRequests requests) := by
  have hsound (rs : List StoreRequest) : ∀ set, (EntityStore.ofRequests rs).Holds set → set.Sound :=
    fun _ => EntityStore.sound_ofRequests
  refine ⟨⟨(json version (.ofRequests requests)).chars, ?_, (Json.printed_chars _).newline_not_mem⟩,
    ⟨json version (.ofRequests requests), read?_line (hsound requests) hdoubles,
      (faithful_json (hsound requests) hdoubles).definite, ofJson?_json (hsound requests)⟩, ?_⟩
  · rw [line, String.toList_append, Json.text, String.toList_ofList]
    rfl
  · intro version' requests' hdoubles' hline
    -- one text is read in one way
    have hread : Json.read? (line version' (.ofRequests requests')).toList =
        some (json version' (.ofRequests requests')) := read?_line (hsound requests') hdoubles'
    rw [hline, read?_line (hsound requests) hdoubles] at hread
    have hpublished : Publication.ofJson? (json version' (.ofRequests requests')) =
        some (.ofStore version' (.ofRequests requests')) := ofJson?_json (hsound requests')
    rw [← Option.some.inj hread, ofJson?_json (hsound requests)] at hpublished
    exact (Option.some.inj hpublished).symm

/-- Requests with texts that have to be escaped, the greatest and the least whole number, a double, and writes and a
request that are refused. -/
def sampleRequests : List StoreRequest :=
  [.add "a \"b\"\n" "k8s:naïve:node" "K8sNodeSample"
      [⟨"load", .float 0.5, .gauge⟩, ⟨"lost", .float (0.0 / 0.0), .gauge⟩,
        ⟨"event_type", .str "other", .attr⟩, ⟨"bytes", .uint 18446744073709551615, .rate⟩,
        ⟨"drift", .int (-9223372036854775808), .gauge⟩, ⟨"note", .str "\t\\\u0000", .attr⟩],
    .add "" "k8s:naïve:node" "K8sNodeSample" [],
    .entity "idle" "k8s:naïve:pod"]

theorem line_reads_back_sample :
    (EntityStore.ofRequests sampleRequests).DoublesReadBack ∧
    ∃ j, Json.read? (line "1.0" (.ofRequests sampleRequests)).toList = some j ∧ j.IsDefinite ∧
      Publication.ofJson? j = some (.ofStore "1.0" (.ofRequests sampleRequests)) := by
  have hhalf : Json.PrintsDouble 0.5 := by rfl
  have hdoubles : (EntityStore.ofRequests sampleRequests).DoublesReadBack := by
    refine EntityStore.doublesReadBack_ofRequests fun name type eventType writes hadd w hw x hx hfinite => ?_
    simp only [sampleRequests, List.mem_cons, StoreRequest.add.injEq, reduceCtorEq, List.not_mem_nil,
      or_false] at hadd
    rcases hadd with ⟨-, -, -, rfl⟩ | ⟨-, -, -, rfl⟩
    · simp only [List.mem_cons, List.not_mem_nil, or_false] at hw
      rcases hw with rfl | rfl | rfl | rfl | rfl | rfl
      · exact Scalar.float.inj hx ▸ hhalf
      · exact absurd hfinite (Scalar.float.inj hx ▸ by decide)
      all_goals cases hx
    · cases hw
  exact ⟨hdoubles, (line_reads_back "1.0" sampleRequests hdoubles).2.1⟩

end Payload

end NodeTelemetry
