import NodeTelemetry.Proofs.Entity.Stored
import NodeTelemetry.Proofs.Populate.Writes

/-!
# Stores built by requests

A store is built by requests: to make sure that there is an entity, or to add a metric set that was built by writes.
Whatever the requests are, no set that a store holds has a metric under a name that is reserved for the set
itself, and no double in it is infinite or not a number.

## Main definitions

* `MetricSet.ofWrites`, `EntityStore.ofRequests`: what lists of writes and of requests build.
* `MetricSet.Sound`: the invariant of sets.

## Main statements

* `MetricSet.exists_write_of_mem`: every value of a set was stored by a write.
* `MetricSet.sound_ofWrites`: writes build sound sets.
* `EntityStore.exists_of_holds_ofRequests`: every set of a store was added by a request.
* `EntityStore.sound_ofRequests`: all sets of a store are sound.
-/

namespace NodeTelemetry

/-! ### Metric sets -/

namespace MetricSet

/-- The set that writes build, some of which may be refused. -/
def ofWrites (eventType : String) (writes : List Write) : MetricSet :=
  writes.foldl attempt (.ofEventType eventType)

/-- Names are not reserved and doubles are finite. -/
structure Sound (s : MetricSet) : Prop where
  unreserved : ∀ e ∈ s.values.entries, Unreserved e.1
  finite : ∀ e ∈ s.values.entries, ∀ x, e.2 = .float x → x.isFinite = true

end MetricSet

namespace Write

variable {w : Write} {v : MetricValue}

theorem unreserved_of_stored (h : w.stored = .ok v) : Unreserved w.name :=
  (stored_eq_ok_iff.1 h).1

/-- A double is stored as it is, and only if it is finite. -/
theorem eq_of_stored_float {x : Float} (h : w.stored = .ok (.float x)) :
    w.value = .float x ∧ x.isFinite = true := by
  obtain ⟨name, value, type⟩ := w
  obtain ⟨-, hform⟩ := stored_eq_ok_iff.1 h
  cases hform with
  | float x _ hx => exact ⟨rfl, hx⟩

end Write

namespace MetricSet

variable {eventType : String} {writes : List Write}

/-- Every value of a set was stored by a write. -/
theorem exists_write_of_mem {e : String × MetricValue} (h : e ∈ (ofWrites eventType writes).values.entries) :
    ∃ w ∈ writes, w.name = e.1 ∧ w.stored = .ok e.2 := by
  have hvalue : (ofWrites eventType writes).value? e.1 = some e.2 := TextMap.get?_eq_some_iff.2 h
  rcases refused_or_lastAccepted writes e.1 with hrefused | ⟨m, hlast⟩
  · rw [ofWrites, (lookups_foldl_of_refused hrefused).1] at hvalue
    cases hvalue
  · have hhas : (ofWrites eventType writes).Has e.1 m := has_foldl_of_lastAccepted hlast
    have hm : m.value = e.2 := Option.some.inj (hhas.1.symm.trans hvalue)
    obtain ⟨before, w, after, rfl, hname, hstored, -⟩ := hlast
    exact ⟨w, by simp, hname, hm ▸ hstored⟩

/-- Writes build sound sets. -/
theorem sound_ofWrites (eventType : String) (writes : List Write) : (ofWrites eventType writes).Sound where
  unreserved e he := by
    obtain ⟨w, -, hname, hstored⟩ := exists_write_of_mem he
    exact hname ▸ Write.unreserved_of_stored hstored
  finite e he x hx := by
    obtain ⟨w, -, -, hstored⟩ := exists_write_of_mem he
    rw [hx] at hstored
    exact (Write.eq_of_stored_float hstored).2

end MetricSet

/-! ### Stores -/

/-- A request to a store: that an entity exists, or that an entity, which is created where it is missing, has one
more metric set. -/
inductive StoreRequest where
  | entity (name type : String)
  | add (name type eventType : String) (writes : List Write)

namespace EntityStore

/-- The store after a request; a request without a name or a type changes nothing. -/
def serve (s : EntityStore) : StoreRequest → EntityStore
  | .entity name type =>
    match s.entity name type with
    | .ok (s', _) => s'
    | .error _ => s
  | .add name type eventType writes =>
    match s.entity name type with
    | .ok (s', place) => s'.addSet place (.ofWrites eventType writes)
    | .error _ => s

/-- The store after requests, which is empty before the first. -/
def ofRequests (requests : List StoreRequest) : EntityStore :=
  requests.foldl serve empty

/-- A store holds a set if one of its entities does. -/
def Holds (s : EntityStore) (set : MetricSet) : Prop :=
  ∃ e ∈ s.entities.toList, set ∈ e.sets

variable {s : EntityStore} {set : MetricSet}

/-- To make sure that there is an entity adds no set. -/
theorem holds_ensure_iff (key : EntityKey) : (s.ensure key).Holds set ↔ s.Holds set := by
  rw [ensure]
  split
  · rfl
  · simp [Holds, or_and_right, exists_or]

/-- What is added to an entity is the only new set. -/
theorem holds_of_addSet {place : Nat} {added : MetricSet} (h : (s.addSet place added).Holds set) :
    s.Holds set ∨ set = added := by
  obtain ⟨e, he, hset⟩ := h
  rw [addSet, Array.toList_modify] at he
  obtain ⟨i, hi⟩ := List.mem_iff_getElem?.1 he
  rw [List.getElem?_modify, Option.map_eq_map, Option.map_eq_some_iff] at hi
  obtain ⟨old, hold, rfl⟩ := hi
  have hmem := List.mem_of_getElem? hold
  split at hset
  · rcases List.mem_append.1 hset with hset | hset
    · exact .inl ⟨old, hmem, hset⟩
    · exact .inr (List.mem_singleton.1 hset)
  · exact .inl ⟨old, hmem, hset⟩

/-- A set that a request brings into a store is the one that it asks to add. -/
theorem holds_of_serve {r : StoreRequest} (h : (s.serve r).Holds set) :
    s.Holds set ∨ ∃ name type eventType writes,
      r = .add name type eventType writes ∧ set = .ofWrites eventType writes := by
  have entity {name type : String} {s' : EntityStore} {place : Nat}
      (hs : s.entity name type = .ok (s', place)) (hset : s'.Holds set) : s.Holds set := by
    rw [EntityStore.entity] at hs
    cases hkey : EntityKey.ofNames name type with
    | error e => simp [hkey, bind, Except.bind] at hs
    | ok key =>
      simp only [hkey, bind, Except.bind, Except.ok.injEq, Prod.mk.injEq] at hs
      rw [← hs.1] at hset
      exact (holds_ensure_iff key).1 hset
  cases r with
  | entity name type =>
    rw [serve] at h
    split at h
    · next hs => exact .inl (entity hs h)
    · exact .inl h
  | add name type eventType writes =>
    rw [serve] at h
    split at h
    · next hs =>
      rcases holds_of_addSet h with hset | rfl
      · exact .inl (entity hs hset)
      · exact .inr ⟨name, type, eventType, writes, rfl, rfl⟩
    · exact .inl h

/-- Every set of a store was added by a request. -/
theorem exists_of_holds_ofRequests {requests : List StoreRequest} (h : (ofRequests requests).Holds set) :
    ∃ name type eventType writes, .add name type eventType writes ∈ requests ∧
      set = .ofWrites eventType writes := by
  have run (rs : List StoreRequest) (s : EntityStore) (hset : (rs.foldl serve s).Holds set) :
      s.Holds set ∨ ∃ name type eventType writes, .add name type eventType writes ∈ rs ∧
        set = .ofWrites eventType writes := by
    induction rs generalizing s with
    | nil => exact .inl hset
    | cons r rest ih =>
      rcases ih _ hset with hserved | ⟨name, type, eventType, writes, hr, hbuilt⟩
      · rcases holds_of_serve hserved with hold | ⟨name, type, eventType, writes, rfl, hbuilt⟩
        · exact .inl hold
        · exact .inr ⟨name, type, eventType, writes, .head _, hbuilt⟩
      · exact .inr ⟨name, type, eventType, writes, .tail _ hr, hbuilt⟩
  rcases run requests empty h with ⟨e, he, -⟩ | hadded
  · simp [empty] at he
  · exact hadded

/-- All sets of a store are sound. -/
theorem sound_ofRequests {requests : List StoreRequest} (h : (ofRequests requests).Holds set) : set.Sound := by
  obtain ⟨-, -, eventType, writes, -, rfl⟩ := exists_of_holds_ofRequests h
  exact MetricSet.sound_ofWrites eventType writes

end EntityStore

end NodeTelemetry
