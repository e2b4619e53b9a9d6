import NodeTelemetry.Fetch.Basic

/-!
# Look-ups in raw groups

What the entities of raw groups are after one of them is changed, and what a raw metric is after a list of
facts is put into an entity: of two facts with one name the later one counts.

## Main statements

* `TextMap.get?_insertAll`: every look-up after pairs are put in one after the other.
* `RawGroups.entity?_update`, `RawGroups.entity?_updateExisting`: every entity after a change.
-/

namespace NodeTelemetry

namespace TextMap

variable {α : Type}

/-- After pairs are inserted, a key has the value of the last of its pairs, and the value that it had if it
is in none of them. -/
theorem get?_insertAll (m : TextMap α) (pairs : List (String × α)) (k : String) :
    (m.insertAll pairs).get? k = (pairs.reverse.lookup k).or (m.get? k) := by
  induction pairs generalizing m with
  | nil => rfl
  | cons p rest ih =>
    change ((m.insert p.1 p.2).insertAll rest).get? k = _
    rw [ih, get?_insert, List.reverse_cons, List.lookup_append, Option.or_assoc]
    congr 1
    rw [lookup_cons_ite]
    split <;> rfl

theorem get?_ofList (pairs : List (String × α)) (k : String) :
    (ofList pairs).get? k = pairs.reverse.lookup k := by
  rw [ofList, get?_insertAll, get?_empty, Option.or_none]

/-- The entries of the map of a list are pairs of the list. -/
theorem mem_of_mem_entries_ofList {pairs : List (String × α)} {e : String × α}
    (h : e ∈ (ofList pairs).entries) : e ∈ pairs := by
  have hget := get?_eq_some_iff.2 h
  rw [get?_ofList] at hget
  exact List.mem_reverse.1 (mem_of_lookup_eq_some hget)

/-- Where no key has two values, the map of a list has the pairs of the list. -/
theorem get?_ofList_eq_some_iff {pairs : List (String × α)} {k : String} {x : α}
    (h : ∀ a ∈ pairs, ∀ b ∈ pairs, a.1 = b.1 → a = b) :
    (ofList pairs).get? k = some x ↔ (k, x) ∈ pairs := by
  constructor
  · intro hget
    exact mem_of_mem_entries_ofList (get?_eq_some_iff.1 hget)
  · intro hmem
    cases hget : (ofList pairs).get? k with
    | none =>
      rw [get?_ofList, List.lookup_eq_none_iff] at hget
      simpa using hget _ (List.mem_reverse.2 hmem)
    | some y =>
      have hy := mem_of_mem_entries_ofList (get?_eq_some_iff.1 hget)
      rw [(Prod.mk.inj (h _ hy _ hmem rfl)).2]

theorem nodup_keys (m : TextMap α) : m.keys.Nodup := by
  rw [keys, List.nodup_iff_pairwise_ne, List.pairwise_map]
  refine m.sorted.imp fun {a b} hlt heq => ?_
  rw [heq] at hlt
  exact String.lt_irrefl _ hlt

theorem isEmpty_insert (m : TextMap α) (k : String) (x : α) : (m.insert k x).isEmpty = false := by
  rw [isEmpty, List.isEmpty_eq_false_iff]
  intro hnil
  have hget := m.get?_insert_self k x
  rw [get?, hnil] at hget
  cases hget

theorem exists_get?_of_isEmpty {m : TextMap α} (h : m.isEmpty = false) : ∃ k x, m.get? k = some x := by
  rw [isEmpty, List.isEmpty_eq_false_iff] at h
  obtain ⟨⟨k, x⟩, hmem⟩ := List.exists_mem_of_ne_nil _ h
  exact ⟨k, x, get?_eq_some_iff.2 hmem⟩

theorem ofList_concat (pairs : List (String × α)) (p : String × α) :
    ofList (pairs ++ [p]) = (ofList pairs).insert p.1 p.2 := by
  rw [ofList, ofList, insertAll, List.foldl_append]
  rfl

end TextMap

namespace RawGroups

theorem entity?_empty (group id : String) : entity? .empty group id = none := rfl

/-- After an update the entity has its new raw metrics and every other entity keeps its own. -/
theorem entity?_update (groups : RawGroups) (group id : String) (f : RawMetrics → RawMetrics)
    (g i : String) :
    (groups.update group id f).entity? g i =
      if g = group ∧ i = id then some (f ((groups.entity? group id).getD .empty))
      else groups.entity? g i := by
  simp only [entity?, update, TextMap.alter, TextMap.get?_insert]
  by_cases hg : g = group
  · subst hg
    rw [if_pos rfl, Option.bind_some, TextMap.get?_insert]
    by_cases hi : i = id
    · subst hi
      cases groups.get? g <;> simp
    · cases groups.get? g <;> simp [hi]
  · simp [hg]

/-- A change of an existing entity changes that entity alone, and creates none. -/
theorem entity?_updateExisting (groups : RawGroups) (group id : String)
    (f : RawMetrics → RawMetrics) (g i : String) :
    (groups.updateExisting group id f).entity? g i =
      if g = group ∧ i = id then (groups.entity? group id).map f else groups.entity? g i := by
  rw [updateExisting]
  cases hgroup : groups.get? group with
  | none =>
    by_cases h : g = group ∧ i = id
    · simp [entity?, h, hgroup]
    · rw [if_neg h]
  | some entities =>
    cases hid : entities.get? id with
    | none =>
      by_cases h : g = group ∧ i = id
      · simp [entity?, h, hgroup, hid]
      · simp only [hid, if_neg h]
    | some metrics =>
      simp only [entity?, TextMap.get?_insert, hgroup, Option.bind_some, hid]
      by_cases hg : g = group
      · by_cases hi : i = id <;> simp [hg, hi, hgroup, TextMap.get?_insert]
      · simp [hg]

variable {groups : RawGroups} {group id key : String} {metrics : RawMetrics}

theorem metric_eq_ok {v : RawValue} (he : groups.entity? group id = some metrics)
    (hv : metrics.get? key = some v) : groups.metric group id key = .ok v := by
  simp [metric, entity, he, hv]

theorem text_eq_ok {s : String} (he : groups.entity? group id = some metrics)
    (hv : metrics.get? key = some (.scalar (.str s))) : groups.text group id key = .ok s := by
  rw [text, metric_eq_ok he hv]

end RawGroups

end NodeTelemetry
