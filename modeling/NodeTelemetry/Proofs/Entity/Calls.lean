import NodeTelemetry.Proofs.Populate.Steps

/-!
# Stores under any calls

A store is used by asking for entities, by adding metric sets to the entities that it gives, and by finding entities.
Whatever is called, in whatever order, the index of the store has the key of every entity with its place and no other
key, the entities stand in the order in which they were first asked for, and each has all the sets that were added to
it. A call without a name or a type is rejected and changes nothing.

## Main definitions

* `StoreCall`, `EntityStore.ofCalls`: calls, and the store that they make.
* `StoreCall.requested?`, `StoreCall.setsFor`: the key that a call asks for, and the sets that it adds under a key.
* `EntityStore.Tracks`: the invariant of stores under calls.

## Main statements

* `EntityStore.call_eq`: a call is a list of steps.
* `EntityStore.Indexed.keys_call`, `EntityStore.Indexed.setsOf_call`: what one call does to the keys and to the sets.
* `EntityStore.tracks_ofCalls`: the store that calls make keeps track of them.
-/

namespace NodeTelemetry

/-- A call of a store: to ask for an entity, and add sets to the one that is given, or to find an entity. -/
inductive StoreCall where
  | entity (name type : String) (sets : List MetricSet)
  | find (name type : String)

namespace StoreCall

/-- The key that a call asks an entity for, if the call is not rejected. -/
def requested? : StoreCall → Option EntityKey
  | entity name type _ => if name = "" ∨ type = "" then none else some ⟨name, type⟩
  | find _ _ => none

/-- The sets that a call adds under a key. -/
def setsFor (key : EntityKey) : StoreCall → List MetricSet
  | c@(entity _ _ sets) => if c.requested? = some key then sets else []
  | find _ _ => []

def steps : StoreCall → List Step
  | c@(entity _ _ sets) =>
    match c.requested? with
    | some key => .ensure key :: sets.map (Step.append key)
    | none => []
  | find _ _ => []

end StoreCall

namespace EntityStore

/-- The store after a call. -/
def call (s : EntityStore) : StoreCall → EntityStore
  | .entity name type sets =>
    match s.entity name type with
    | .ok (s', place) => sets.foldl (fun s set => s.addSet place set) s'
    | .error _ => s
  | .find _ _ => s

/-- The store after calls, which is empty before the first. -/
def ofCalls (calls : List StoreCall) : EntityStore :=
  calls.foldl call empty

/-- What holds of a store after calls. -/
structure Tracks (s : EntityStore) (calls : List StoreCall) : Prop where
  /-- The index has the keys of the entities, each with the place of its entity. -/
  index : ∀ (key : EntityKey) (i : Nat),
    s.index[key]? = some i ↔ ∃ e, s.entities[i]? = some e ∧ e.key = key
  distinct : (s.entities.toList.map Entity.key).Nodup
  named : ∀ e ∈ s.entities.toList, e.key.name ≠ "" ∧ e.key.type ≠ ""
  /-- The entities are those that were asked for, in the order in which they first were. -/
  order : s.entities.toList.map Entity.key = (calls.filterMap StoreCall.requested?).eraseDups
  /-- An entity has the sets that were added to it. -/
  sets : ∀ e ∈ s.entities.toList, e.sets = calls.flatMap (StoreCall.setsFor e.key)
  /-- An entity that there is already is given as it is. -/
  existing : ∀ e ∈ s.entities.toList,
    ∃ i, s.entity e.key.name e.key.type = .ok (s, i) ∧ s.entities[i]? = some e
  /-- Another entity is given without sets, behind the others. -/
  created : ∀ name type, name ≠ "" → type ≠ "" →
    (⟨name, type⟩ : EntityKey) ∉ s.entities.toList.map Entity.key →
    ∃ s', s.entity name type = .ok (s', s.entities.size) ∧
      s'.entities.toList = s.entities.toList ++ [⟨⟨name, type⟩, []⟩]
  rejected : ∀ name type, name = "" ∨ type = "" → s.entity name type = .error .missingKey ∧
    ∀ sets, s.call (.entity name type sets) = s
  /-- An entity is found if it was asked for before, and the one that is found has the name and the type. -/
  found : ∀ name type, (s.find? name type).isSome ↔
    (⟨name, type⟩ : EntityKey) ∈ calls.filterMap StoreCall.requested?
  find : ∀ name type e, s.find? name type = some e ↔ e ∈ s.entities.toList ∧ e.key = ⟨name, type⟩

end EntityStore

/-! ### The steps of a call -/

namespace StoreCall

/-- Sets that are appended under a key that is ensured before need no other key. -/
theorem newKeys_ensure (es : List Entity) (key : EntityKey) (sets : List MetricSet) :
    Step.newKeys es (.ensure key :: sets.map (Step.append key)) =
      [key].filter fun key => key ∉ es.map Entity.key := by
  induction sets using List.reverseRecOn with
  | nil =>
    change ([key].filter fun k => k ∉ es.map Entity.key).eraseDups = _
    by_cases hkey : key ∈ es.map Entity.key
    · rw [List.filter_cons_of_neg (by simpa using hkey)]
      rfl
    · rw [List.filter_cons_of_pos (by simpa using hkey)]
      rfl
  | append_singleton sets set ih =>
    -- the step at the end is about a key that the first step has ensured
    rw [List.map_append, List.map_singleton, ← List.cons_append, Step.newKeys_concat, if_pos, ih]
    exact .inr (List.mem_cons_self ..)

/-- The steps of a call are about the key that it asks for, so they create at most that one. -/
theorem newKeys_steps (es : List Entity) (c : StoreCall) :
    Step.newKeys es c.steps = c.requested?.toList.filter fun key => key ∉ es.map Entity.key := by
  cases c with
  | find name type => rfl
  | entity name type sets =>
    cases hkey : (entity name type sets).requested? with
    | none => simp only [steps, hkey]; rfl
    | some key =>
      simp only [steps, hkey, Option.toList_some]
      exact newKeys_ensure es key sets

theorem setsUnder_map_append (sets : List MetricSet) (key k : EntityKey) :
    Step.setsUnder (sets.map (Step.append key)) k = if key = k then sets else [] := by
  induction sets using List.reverseRecOn with
  | nil => simp [Step.setsUnder]
  | append_singleton sets set ih =>
    rw [List.map_append, List.map_singleton, Step.setsUnder_concat, ih, Step.appended]
    by_cases h : key = k <;> simp [h]

theorem setsUnder_steps (c : StoreCall) (k : EntityKey) : Step.setsUnder c.steps k = c.setsFor k := by
  cases c with
  | find name type => rfl
  | entity name type sets =>
    cases hkey : (entity name type sets).requested? with
    | none => simp [steps, setsFor, hkey, Step.setsUnder]
    | some key =>
      simp only [steps, setsFor, hkey, Option.some.injEq]
      exact setsUnder_map_append sets key k

end StoreCall

namespace EntityStore

variable {s : EntityStore} {key : EntityKey}

/-! ### One call -/

theorem entity_of_unnamed (s : EntityStore) {name type : String} (h : name = "" ∨ type = "") :
    s.entity name type = .error .missingKey := by
  rw [EntityStore.entity, EntityKey.ofNames, if_pos h]
  rfl

/-- Sets that are added at the place of a key are appended under the key. -/
theorem foldl_addSet (sets : List MetricSet) {i : Nat} (hi : s.place? key = some i) :
    sets.foldl (fun s set => s.addSet i set) s = (sets.map (Step.append key)).foldl Step.apply s := by
  induction sets generalizing s with
  | nil => rfl
  | cons set rest ih =>
    have happend : Step.apply s (.append key set) = s.addSet i set := by
      simp only [Step.apply, append, ensure_of_place? hi, hi]
    rw [List.map_cons, List.foldl_cons, List.foldl_cons, happend]
    exact ih hi

/-- A call is a list of steps, which is empty where the call is rejected. -/
theorem call_eq (s : EntityStore) (c : StoreCall) : s.call c = c.steps.foldl Step.apply s := by
  cases c with
  | find name type => rfl
  | entity name type sets =>
    by_cases hnames : name = "" ∨ type = ""
    · have hkey : (StoreCall.entity name type sets).requested? = none := if_pos hnames
      simp only [call, s.entity_of_unnamed hnames, StoreCall.steps, hkey, List.foldl_nil]
    · have hkey : (StoreCall.entity name type sets).requested? = some ⟨name, type⟩ := if_neg hnames
      obtain ⟨hname, htype⟩ := not_or.1 hnames
      obtain ⟨i, hentity, hi⟩ := s.entity_of_ofNames (EntityKey.ofNames_of_named hname htype)
      simp only [call, hentity, StoreCall.steps, hkey, List.foldl_cons]
      exact foldl_addSet sets hi

theorem Indexed.call (h : s.Indexed) (c : StoreCall) : (s.call c).Indexed := by
  rw [call_eq]
  exact h.run _

/-- A call adds the key that it asks for behind the others, unless an entity has the key. -/
theorem Indexed.keys_call (h : s.Indexed) (c : StoreCall) :
    (s.call c).entities.toList.map Entity.key = s.entities.toList.map Entity.key ++
      c.requested?.toList.filter fun key => key ∉ s.entities.toList.map Entity.key := by
  rw [call_eq, h.toList_run, Step.foldl_onEntities, Step.map_key_result, StoreCall.newKeys_steps]

theorem Indexed.setsOf_call (h : s.Indexed) (c : StoreCall) (key : EntityKey) :
    (s.call c).setsOf key = s.setsOf key ++ c.setsFor key := by
  rw [call_eq, h.setsOf_run, ← StoreCall.setsUnder_steps]
  rfl

/-! ### Runs of calls -/

theorem ofCalls_concat (calls : List StoreCall) (c : StoreCall) :
    ofCalls (calls ++ [c]) = (ofCalls calls).call c := by
  rw [ofCalls, List.foldl_append]
  rfl

theorem indexed_ofCalls (calls : List StoreCall) : (ofCalls calls).Indexed := by
  induction calls using List.reverseRecOn with
  | nil => exact indexed_empty
  | append_singleton rest c ih =>
    rw [ofCalls_concat]
    exact ih.call c

/-- The keys of the entities are those that were asked for, each where it was first asked for. -/
theorem keys_ofCalls (calls : List StoreCall) : (ofCalls calls).entities.toList.map Entity.key =
    (calls.filterMap StoreCall.requested?).eraseDups := by
  induction calls using List.reverseRecOn with
  | nil => rfl
  | append_singleton rest c ih =>
    rw [ofCalls_concat, (indexed_ofCalls rest).keys_call, ih, List.filterMap_append]
    cases hkey : c.requested? with
    | none => simp [hkey]
    | some key =>
      rw [List.filterMap_cons_some hkey, List.filterMap_nil, Step.eraseDups_concat, Option.toList_some]
      by_cases hold : key ∈ rest.filterMap StoreCall.requested?
      · rw [if_pos hold, List.filter_cons_of_neg (by simpa using hold), List.filter_nil, List.append_nil]
      · rw [if_neg hold, List.filter_cons_of_pos (by simpa using hold), List.filter_nil]

theorem setsOf_ofCalls (calls : List StoreCall) (key : EntityKey) :
    (ofCalls calls).setsOf key = calls.flatMap (StoreCall.setsFor key) := by
  induction calls using List.reverseRecOn with
  | nil => exact setsOf_empty key
  | append_singleton rest c ih =>
    rw [ofCalls_concat, (indexed_ofCalls rest).setsOf_call, ih, List.flatMap_append, List.flatMap_singleton]

/-! ### What a store gives -/

theorem named_of_requested {c : StoreCall} (h : c.requested? = some key) : key.name ≠ "" ∧ key.type ≠ "" := by
  cases c with
  | find name type => cases h
  | entity name type sets =>
    rw [StoreCall.requested?] at h
    split at h
    · cases h
    · next hnames =>
      rw [← Option.some.inj h]
      exact not_or.1 hnames

/-- An entity that there is already is given where it stands, and the store stays as it is. -/
theorem Indexed.entity_of_mem (h : s.Indexed) {e : Entity} (he : e ∈ s.entities.toList)
    (hname : e.key.name ≠ "") (htype : e.key.type ≠ "") :
    ∃ i, s.entity e.key.name e.key.type = .ok (s, i) ∧ s.entities[i]? = some e := by
  obtain ⟨i, hi, hat⟩ := Option.bind_eq_some_iff.1 (h.findKey?_eq_some_iff.2 ⟨he, rfl⟩)
  -- the key has a place, so that nothing is created
  obtain ⟨j, hentity, hj⟩ := s.entity_of_ofNames (EntityKey.ofNames_of_named hname htype)
  rw [ensure_of_place? hi] at hentity hj
  obtain rfl : i = j := Option.some.inj (hi.symm.trans hj)
  exact ⟨i, hentity, hat⟩

/-- An entity that there is not is given without sets, behind those that there are. -/
theorem Indexed.entity_of_not_mem (h : s.Indexed) {name type : String} (hname : name ≠ "") (htype : type ≠ "")
    (hkey : (⟨name, type⟩ : EntityKey) ∉ s.entities.toList.map Entity.key) :
    ∃ s', s.entity name type = .ok (s', s.entities.size) ∧
      s'.entities.toList = s.entities.toList ++ [⟨⟨name, type⟩, []⟩] := by
  obtain ⟨i, hentity, hi⟩ := s.entity_of_ofNames (EntityKey.ofNames_of_named hname htype)
  have hlist : (s.ensure ⟨name, type⟩).entities.toList = s.entities.toList ++ [⟨⟨name, type⟩, []⟩] := by
    rw [h.toList_ensure, Step.withKey, if_neg hkey]
  have hlast : (s.ensure ⟨name, type⟩).place? ⟨name, type⟩ = some s.entities.size := by
    rw [(h.ensure _).place_iff, ← Array.getElem?_toList, hlist]
    simp
  rw [hlast] at hi
  rw [← Option.some.inj hi] at hentity
  exact ⟨_, hentity, hlist⟩

/-- Whatever is called, a store keeps track of it: its index has the keys of its entities with their places, its
entities are those that were asked for, in the order in which they first were and with the sets that were added to
them, an entity that was asked for is given and found as it is, and a call that is rejected changes nothing. -/
theorem tracks_ofCalls (calls : List StoreCall) : (ofCalls calls).Tracks calls := by
  have h := indexed_ofCalls calls
  have hmem : ∀ key, key ∈ (ofCalls calls).entities.toList.map Entity.key ↔
      key ∈ calls.filterMap StoreCall.requested? := by
    intro key
    rw [keys_ofCalls, List.mem_eraseDups]
  have hnamed : ∀ e ∈ (ofCalls calls).entities.toList, e.key.name ≠ "" ∧ e.key.type ≠ "" := by
    intro e he
    obtain ⟨c, -, hc⟩ := List.mem_filterMap.1 ((hmem _).1 (List.mem_map_of_mem he))
    exact named_of_requested hc
  constructor
  case index =>
    intro key i
    rw [← Option.map_eq_some_iff]
    exact h.place_iff key i
  case distinct => exact h.nodup_keys
  case named => exact hnamed
  case order => exact keys_ofCalls calls
  case sets =>
    intro e he
    rw [← setsOf_ofCalls, h.setsOf_key he]
  case existing =>
    intro e he
    exact h.entity_of_mem he (hnamed e he).1 (hnamed e he).2
  case created =>
    intro name type hname htype hkey
    exact h.entity_of_not_mem hname htype hkey
  case rejected =>
    intro name type hnames
    have hentity := (ofCalls calls).entity_of_unnamed hnames
    exact ⟨hentity, fun sets => by rw [call, hentity]⟩
  case found =>
    intro name type
    rw [← hmem, Option.isSome_iff_exists]
    simp only [find?, h.findKey?_eq_some_iff, List.mem_map]
  case find =>
    intro name type e
    exact h.findKey?_eq_some_iff

/-- Calls for two entities whose names and types are the same text, split in another place, and a call without a
name. -/
def splitCalls : List StoreCall :=
  [.entity "ab" "c" [.ofEventType "K8sPodSample"], .entity "" "abc" [], .entity "a" "bc" [],
    .find "ab" "c", .entity "ab" "c" [.ofEventType "K8sNodeSample"]]

theorem tracks_ofCalls_split :
    (ofCalls splitCalls).entities.toList.map Entity.key = [⟨"ab", "c"⟩, ⟨"a", "bc"⟩] ∧
    ((ofCalls splitCalls).find? "ab" "c").map (fun e => e.sets.map MetricSet.eventType) =
      some ["K8sPodSample", "K8sNodeSample"] := by
  have h := tracks_ofCalls splitCalls
  refine ⟨h.order.trans (by decide), ?_⟩
  obtain ⟨e, he⟩ := Option.isSome_iff_exists.1 ((h.found "ab" "c").2 (by decide))
  obtain ⟨hmem, hkey⟩ := (h.find "ab" "c" e).1 he
  rw [he, Option.map_some, h.sets e hmem, hkey]
  rfl

end EntityStore

end NodeTelemetry
