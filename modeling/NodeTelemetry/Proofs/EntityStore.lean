import NodeTelemetry.Populate

/-!
# Stores through their entities

A store finds entities by an index of their keys. `EntityStore.Indexed` says that the index names
exactly the places of the keys; every step keeps it. A store that is indexed can be seen as the plain list of
its entities, on which a step is `Step.onEntities`, without any index.

## Main statements

* `EntityStore.Indexed.toList_run`: a run of steps, seen on the list of entities.
* `EntityStore.toList_run_fresh`: a run that appends sets to different keys makes one entity for each.
* `EntityStore.Indexed.setsOf_run`: a run adds to the sets of a key those that it appends there, behind
  the ones that were there before.
* `EntityStore.Indexed.findKey?_eq_some_iff`: the entity that is found for a key is the one that has it.
* `EntityStore.Indexed.mem_setsOf_iff`: the sets of a key are those of the entity with the key.
-/

namespace NodeTelemetry

theorem EntityKey.ofNames_of_named {name type : String} (hname : name ≠ "") (htype : type ≠ "") :
    ofNames name type = .ok ⟨name, type⟩ :=
  if_neg (not_or.2 ⟨hname, htype⟩)

/-- An entity with one more set, if it has the key. -/
def Entity.withSet (key : EntityKey) (set : MetricSet) (e : Entity) : Entity :=
  if e.key = key then { e with sets := e.sets ++ [set] } else e

@[simp] theorem Entity.withSet_key (key : EntityKey) (set : MetricSet) (e : Entity) :
    (e.withSet key set).key = e.key := by
  rw [Entity.withSet]
  split <;> rfl

namespace Step

/-- A list of entities with one that has the key. -/
def withKey (es : List Entity) (key : EntityKey) : List Entity :=
  if key ∈ es.map Entity.key then es else es ++ [⟨key, []⟩]

/-- What a step does to a list of entities. -/
def onEntities (es : List Entity) : Step → List Entity
  | ensure key => withKey es key
  | append key set => (withKey es key).map (Entity.withSet key set)

/-- The key that a step is about. -/
def key : Step → EntityKey
  | ensure key => key
  | append key _ => key

/-- The key and the set of a step that appends one. -/
def appended : Step → List (EntityKey × MetricSet)
  | ensure _ => []
  | append key set => [(key, set)]

theorem mem_appended_iff {step : Step} {key : EntityKey} {set : MetricSet} :
    (key, set) ∈ step.appended ↔ step = append key set := by
  cases step with
  | ensure key' => simp [appended]
  | append key' set' => simp [appended, eq_comm]

end Step

namespace EntityStore

/-- A key that the index does not know has no place. -/
theorem place?_eq_none {s : EntityStore} {key : EntityKey} (h : ¬ s.index.contains key = true) :
    s.place? key = none := by
  rw [Std.HashMap.contains_eq_isSome_getElem?] at h
  simpa [place?] using h

/-- A key that has a place is there already. -/
theorem ensure_of_place? {s : EntityStore} {key : EntityKey} {i : Nat} (hi : s.place? key = some i) :
    s.ensure key = s := by
  rw [ensure, if_pos]
  rw [Std.HashMap.contains_eq_isSome_getElem?]
  exact Option.isSome_of_eq_some hi

/-- The index names exactly the places of the keys. -/
structure Indexed (s : EntityStore) : Prop where
  /-- A key has a place exactly where an entity with the key stands. -/
  place_iff : ∀ key i, s.place? key = some i ↔ s.entities[i]?.map Entity.key = some key

theorem indexed_empty : (empty : EntityStore).Indexed where
  place_iff := by
    intro key i
    simp [empty, place?]

section Indexed

variable {s : EntityStore}

theorem Indexed.mem_keys_iff (h : s.Indexed) (key : EntityKey) :
    key ∈ s.entities.toList.map Entity.key ↔ s.index.contains key = true := by
  rw [Std.HashMap.contains_eq_isSome_getElem?, Option.isSome_iff_exists]
  constructor
  · intro hm
    obtain ⟨i, hi⟩ := List.mem_iff_getElem?.1 hm
    rw [List.getElem?_map, Array.getElem?_toList] at hi
    exact ⟨i, (h.place_iff key i).2 hi⟩
  · rintro ⟨i, hi⟩
    have hkey := (h.place_iff key i).1 hi
    rw [← Array.getElem?_toList, ← List.getElem?_map] at hkey
    exact List.mem_of_getElem? hkey

/-- No two entities of an indexed store have the same key. -/
theorem Indexed.nodup_keys (h : s.Indexed) : (s.entities.toList.map Entity.key).Nodup := by
  rw [List.nodup_iff_pairwise_ne, List.pairwise_iff_getElem]
  intro i j hi hj hij heq
  have place : ∀ k (hk : k < (s.entities.toList.map Entity.key).length),
      s.place? (s.entities.toList.map Entity.key)[k] = some k := by
    intro k hk
    rw [h.place_iff, ← Array.getElem?_toList, ← List.getElem?_map, List.getElem?_eq_getElem hk]
  -- a key has one place, so equal keys stand at one place
  have hi' := place i hi
  rw [heq, place j hj] at hi'
  have : j = i := Option.some.inj hi'
  omega

/-! ### One step -/

theorem Indexed.ensure (h : s.Indexed) (key : EntityKey) : (s.ensure key).Indexed := by
  rw [EntityStore.ensure]
  split
  · exact h
  · next hc =>
    have hnone := place?_eq_none hc
    constructor
    intro k i
    rw [Array.getElem?_push]
    change (s.index.insert key s.entities.size)[k]? = some i ↔ _
    rw [Std.HashMap.getElem?_insert]
    by_cases hk : key = k
    · subst hk
      rw [if_pos (beq_self_eq_true key)]
      by_cases hi : i = s.entities.size
      · simp [hi]
      · -- the key stands at no earlier place, since the index does not know it
        have hold : s.entities[i]?.map Entity.key ≠ some key := by
          rw [Ne, ← h.place_iff, hnone]
          simp
        simp only [if_neg hi, Option.some.injEq]
        exact ⟨fun he => absurd he.symm hi, fun he => absurd he hold⟩
    · rw [if_neg (by simpa using hk)]
      by_cases hi : i = s.entities.size
      · have hlast := h.place_iff k s.entities.size
        rw [Array.getElem?_eq_none (Nat.le_refl _)] at hlast
        change s.place? k = some i ↔ _
        rw [hi, hlast]
        simp [hk]
      · rw [if_neg hi]
        exact h.place_iff k i

theorem Indexed.toList_ensure (h : s.Indexed) (key : EntityKey) :
    (s.ensure key).entities.toList = Step.withKey s.entities.toList key := by
  rw [EntityStore.ensure, Step.withKey]
  by_cases hc : s.index.contains key = true
  · rw [if_pos hc, if_pos ((h.mem_keys_iff key).2 hc)]
  · rw [if_neg hc, if_neg (fun hm => hc ((h.mem_keys_iff key).1 hm)), Array.toList_push]

/-- After it is ensured, a key has a place. -/
theorem exists_place_ensure (s : EntityStore) (key : EntityKey) :
    ∃ i, (s.ensure key).place? key = some i := by
  rw [EntityStore.ensure]
  split
  · next hc =>
    rw [Std.HashMap.contains_eq_isSome_getElem?] at hc
    exact Option.isSome_iff_exists.1 hc
  · exact ⟨s.entities.size, Std.HashMap.getElem?_insert_self⟩

/-- Looking an entity up makes sure that it exists, and gives the place of its key. -/
theorem entity_of_ofNames (s : EntityStore) {name type : String} {key : EntityKey}
    (hkey : EntityKey.ofNames name type = .ok key) :
    ∃ i, s.entity name type = .ok (s.ensure key, i) ∧ (s.ensure key).place? key = some i := by
  obtain ⟨i, hi⟩ := exists_place_ensure s key
  refine ⟨i, ?_, hi⟩
  rw [entity, hkey]
  simp [bind, Except.bind, hi]

theorem Indexed.addSet (h : s.Indexed) (i : Nat) (set : MetricSet) : (s.addSet i set).Indexed := by
  constructor
  intro key j
  change s.place? key = some j ↔ _
  rw [h.place_iff, EntityStore.addSet, Array.getElem?_modify]
  split <;> simp [Option.map_map, Function.comp_def]

theorem Indexed.toList_addSet (h : s.Indexed) {key : EntityKey} {i : Nat}
    (hi : s.place? key = some i) (set : MetricSet) :
    (s.addSet i set).entities.toList = s.entities.toList.map (Entity.withSet key set) := by
  apply List.ext_getElem?
  intro j
  rw [EntityStore.addSet, Array.toList_modify, List.getElem?_modify, List.getElem?_map]
  cases hj : s.entities.toList[j]? with
  | none => rfl
  | some e =>
    -- by the index, the key stands at no place but `i`
    have hkey : e.key = key ↔ i = j := by
      have hplace := h.place_iff key j
      rw [hi, ← Array.getElem?_toList, hj] at hplace
      simpa using hplace.symm
    by_cases hij : i = j
    · simp [hij, Entity.withSet, hkey.2 hij]
    · simp [hij, Entity.withSet, hkey]

theorem Indexed.apply (h : s.Indexed) (step : Step) : (step.apply s).Indexed := by
  cases step with
  | ensure key => exact h.ensure key
  | append key set =>
    obtain ⟨i, hi⟩ := exists_place_ensure s key
    simp only [Step.apply, EntityStore.append, hi]
    exact (h.ensure key).addSet i set

/-- A step on an indexed store is the step on its entities. -/
theorem Indexed.toList_apply (h : s.Indexed) (step : Step) :
    (step.apply s).entities.toList = Step.onEntities s.entities.toList step := by
  cases step with
  | ensure key => exact h.toList_ensure key
  | append key set =>
    obtain ⟨i, hi⟩ := exists_place_ensure s key
    simp only [Step.apply, EntityStore.append, hi]
    rw [(h.ensure key).toList_addSet hi set, h.toList_ensure key, Step.onEntities]

/-! ### Runs of steps -/

theorem Indexed.run (h : s.Indexed) (steps : List Step) : (steps.foldl Step.apply s).Indexed := by
  induction steps generalizing s with
  | nil => exact h
  | cons step rest ih => exact ih (h.apply step)

/-- A run of steps on an indexed store is the run on its entities. -/
theorem Indexed.toList_run (h : s.Indexed) (steps : List Step) :
    (steps.foldl Step.apply s).entities.toList = steps.foldl Step.onEntities s.entities.toList := by
  induction steps generalizing s with
  | nil => rfl
  | cons step rest ih =>
    rw [List.foldl_cons, List.foldl_cons, ih (h.apply step), h.toList_apply step]

theorem mem_keys_onEntities {es : List Entity} {step : Step} {k : EntityKey} :
    k ∈ (Step.onEntities es step).map Entity.key ↔ k ∈ es.map Entity.key ∨ k = step.key := by
  have hkeys : k ∈ (Step.withKey es step.key).map Entity.key ↔
      k ∈ es.map Entity.key ∨ k = step.key := by
    rw [Step.withKey]
    by_cases h : step.key ∈ es.map Entity.key
    · rw [if_pos h]
      exact ⟨.inl, fun hk => hk.elim id fun heq => heq ▸ h⟩
    · rw [if_neg h]
      simp
  cases step with
  | ensure key => exact hkeys
  | append key set =>
    rw [Step.onEntities, List.map_map]
    have hsame : Entity.key ∘ Entity.withSet key set = Entity.key :=
      funext fun e => Entity.withSet_key key set e
    rw [hsame]
    exact hkeys

/-- After a run there are the entities that there were, and those that its steps are about. -/
theorem Indexed.mem_keys_run (h : s.Indexed) (steps : List Step) (k : EntityKey) :
    k ∈ (steps.foldl Step.apply s).entities.toList.map Entity.key ↔
      k ∈ s.entities.toList.map Entity.key ∨ ∃ step ∈ steps, step.key = k := by
  induction steps generalizing s with
  | nil => simp
  | cons step rest ih =>
    rw [List.foldl_cons, ih (h.apply step), h.toList_apply step, mem_keys_onEntities, or_assoc]
    simp [eq_comm]

end Indexed

/-- A set that is appended under a new key makes an entity of its own. -/
theorem onEntities_append_fresh {es : List Entity} {key : EntityKey} (set : MetricSet)
    (hkey : key ∉ es.map Entity.key) :
    Step.onEntities es (.append key set) = es ++ [⟨key, [set]⟩] := by
  have others : es.map (Entity.withSet key set) = es := by
    refine (List.map_congr_left fun e he => ?_).trans (List.map_id es)
    have hne : e.key ≠ key := fun hk => hkey (hk ▸ List.mem_map_of_mem he)
    rw [Entity.withSet, if_neg hne, id]
  rw [Step.onEntities, Step.withKey, if_neg hkey, List.map_append, others]
  simp [Entity.withSet]

theorem foldl_onEntities_fresh (pairs : List (EntityKey × MetricSet)) (es : List Entity)
    (hkeys : (es.map Entity.key ++ pairs.map Prod.fst).Nodup) :
    (pairs.map fun p => Step.append p.1 p.2).foldl Step.onEntities es =
      es ++ pairs.map fun p => (⟨p.1, [p.2]⟩ : Entity) := by
  -- the keys of the entities so far and those still to come are different all along
  induction pairs generalizing es with
  | nil => simp
  | cons p rest ih =>
    have hp : p.1 ∉ es.map Entity.key := by
      intro hm
      exact (List.nodup_append.1 hkeys).2.2 _ hm _ (by simp) rfl
    have hrest : ((es ++ [(⟨p.1, [p.2]⟩ : Entity)]).map Entity.key ++ rest.map Prod.fst).Nodup := by
      simpa using hkeys
    rw [List.map_cons, List.foldl_cons, onEntities_append_fresh p.2 hp, ih _ hrest]
    simp

/-- A run of steps that all append sets is given by their keys and sets. -/
theorem eq_map_appended {steps : List Step} (h : ∀ step ∈ steps, step.appended ≠ []) :
    steps = (steps.flatMap Step.appended).map fun p => Step.append p.1 p.2 := by
  induction steps with
  | nil => rfl
  | cons step rest ih =>
    have hrest := ih fun s hs => h s (List.mem_cons_of_mem _ hs)
    cases step with
    | ensure key => exact absurd rfl (h (.ensure key) (by simp))
    | append key set =>
      rw [List.flatMap_cons, Step.appended, List.map_append, ← hrest]
      rfl

/-- A run from the empty store that appends sets to different keys makes one entity for each of
them, in the order of the run. -/
theorem toList_run_fresh {steps : List Step} (happ : ∀ step ∈ steps, step.appended ≠ [])
    (hkeys : ((steps.flatMap Step.appended).map Prod.fst).Nodup) :
    (steps.foldl Step.apply empty).entities.toList =
      (steps.flatMap Step.appended).map fun p => (⟨p.1, [p.2]⟩ : Entity) := by
  rw [indexed_empty.toList_run, eq_map_appended happ,
    foldl_onEntities_fresh _ _ (by simpa [empty] using hkeys), ← eq_map_appended happ]
  rfl

/-! ### The sets of a key -/

/-- The metric sets of the entity with a key; there are none where there is no entity. -/
def setsOf (s : EntityStore) (key : EntityKey) : List MetricSet :=
  ((s.findKey? key).map Entity.sets).getD []

section SetsOf

variable {s : EntityStore}

theorem Indexed.setsOf_ensure (h : s.Indexed) (key k : EntityKey) :
    (s.ensure key).setsOf k = s.setsOf k := by
  rw [EntityStore.ensure]
  split
  · rfl
  · next hc =>
    have hnone := place?_eq_none hc
    have hplace : (⟨s.entities.push ⟨key, []⟩, s.index.insert key s.entities.size⟩ : EntityStore).place? k =
        if key = k then some s.entities.size else s.place? k := by
      simp only [place?, Std.HashMap.getElem?_insert, beq_iff_eq]
    rw [setsOf, setsOf, findKey?, findKey?, hplace]
    by_cases hk : key = k
    · subst hk
      simp [hnone]
    · rw [if_neg hk]
      cases hi : s.place? k with
      | none => rfl
      | some i =>
        have hlt : i ≠ s.entities.size := by
          intro he
          have := (h.place_iff k i).1 hi
          rw [he, Array.getElem?_eq_none (Nat.le_refl _)] at this
          simp at this
        simp [Array.getElem?_push, hlt]

theorem Indexed.setsOf_addSet (h : s.Indexed) {key : EntityKey} {i : Nat}
    (hi : s.place? key = some i) (set : MetricSet) (k : EntityKey) :
    (s.addSet i set).setsOf k = s.setsOf k ++ if key = k then [set] else [] := by
  rw [setsOf, setsOf, findKey?, findKey?]
  change (((s.place? k).bind fun j => (s.addSet i set).entities[j]?).map Entity.sets).getD [] = _
  cases hj : s.place? k with
  | none =>
    have hne : key ≠ k := by
      intro he
      rw [he, hj] at hi
      simp at hi
    simp [hne]
  | some j =>
    have hkey := (h.place_iff k j).1 hj
    obtain ⟨e, he, hek⟩ := Option.map_eq_some_iff.1 hkey
    -- only the entity with the key is changed
    have hij : i = j ↔ key = k := by
      constructor
      · intro hij
        have := (h.place_iff key i).1 hi
        rw [hij, hkey] at this
        exact (Option.some.inj this).symm
      · intro hk
        rw [hk, hj] at hi
        exact (Option.some.inj hi).symm
    simp only [Option.bind_some, EntityStore.addSet, Array.getElem?_modify, he]
    by_cases hk : key = k
    · simp [hk, hij.2 hk]
    · have hne : ¬ i = j := fun hij' => hk (hij.1 hij')
      simp [hk, hne]

theorem Indexed.setsOf_apply (h : s.Indexed) (step : Step) (k : EntityKey) :
    (step.apply s).setsOf k =
      s.setsOf k ++ (step.appended.filter fun p => p.1 = k).map Prod.snd := by
  cases step with
  | ensure key => simpa [Step.apply, Step.appended] using h.setsOf_ensure key k
  | append key set =>
    obtain ⟨i, hi⟩ := exists_place_ensure s key
    simp only [Step.apply, EntityStore.append, hi]
    rw [(h.ensure key).setsOf_addSet hi, h.setsOf_ensure key k, Step.appended]
    by_cases hk : key = k <;> simp [hk]

/-- A run of steps adds to the sets of a key those that it appends under that key, in order. -/
theorem Indexed.setsOf_run (h : s.Indexed) (steps : List Step) (k : EntityKey) :
    (steps.foldl Step.apply s).setsOf k =
      s.setsOf k ++ ((steps.flatMap Step.appended).filter fun p => p.1 = k).map Prod.snd := by
  induction steps generalizing s with
  | nil => simp
  | cons step rest ih =>
    rw [List.foldl_cons, ih (h.apply step), h.setsOf_apply step k]
    simp

theorem setsOf_empty (k : EntityKey) : empty.setsOf k = [] := by
  simp [setsOf, findKey?, place?, empty]

/-- The entity that is found for a key is the one that has it. -/
theorem Indexed.findKey?_eq_some_iff (h : s.Indexed) {k : EntityKey} {e : Entity} :
    s.findKey? k = some e ↔ e ∈ s.entities.toList ∧ e.key = k := by
  rw [findKey?, Option.bind_eq_some_iff]
  constructor
  · rintro ⟨i, hi, he⟩
    have hkey := (h.place_iff k i).1 hi
    rw [he] at hkey
    rw [← Array.getElem?_toList] at he
    exact ⟨List.mem_of_getElem? he, Option.some.inj hkey⟩
  · rintro ⟨he, rfl⟩
    obtain ⟨i, hi⟩ := List.mem_iff_getElem?.1 he
    rw [Array.getElem?_toList] at hi
    exact ⟨i, (h.place_iff e.key i).2 (by rw [hi]; rfl), hi⟩

theorem Indexed.setsOf_key (h : s.Indexed) {e : Entity} (he : e ∈ s.entities.toList) :
    s.setsOf e.key = e.sets := by
  rw [setsOf, h.findKey?_eq_some_iff.2 ⟨he, rfl⟩]
  rfl

/-- The sets of an entity of an indexed store are the sets of its key. -/
theorem Indexed.mem_setsOf_iff (h : s.Indexed) {k : EntityKey} {set : MetricSet} :
    set ∈ s.setsOf k ↔ ∃ e ∈ s.entities.toList, e.key = k ∧ set ∈ e.sets := by
  have hfound : set ∈ s.setsOf k ↔ ∃ e, s.findKey? k = some e ∧ set ∈ e.sets := by
    rw [setsOf]
    cases s.findKey? k <;> simp
  simp only [hfound, h.findKey?_eq_some_iff, and_assoc]

end SetsOf

end EntityStore

end NodeTelemetry
