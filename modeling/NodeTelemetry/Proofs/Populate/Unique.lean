import NodeTelemetry.Proofs.Populate.Steps

/-!
# Raw entities that share their key with no other

A raw entity that appends a set to its entity is the only one that does, if no other raw entity has its key. Then the
sets of the key after a run from the empty store are that set alone. In any store that is made by steps, the sets of
a key stand in one entity.

## Main statements

* `EntityStore.Indexed.filter_key`: the entities with a key that has sets.
* `Populator.setsOf_populate_of_unique`: what a run makes of a key that one raw entity has.
-/

namespace NodeTelemetry

/-- A key that has sets is the key of one entity, and this entity has the sets. -/
theorem EntityStore.Indexed.filter_key {s : EntityStore} (h : s.Indexed) {key : EntityKey}
    (hsets : s.setsOf key ≠ []) :
    s.entities.toList.filter (fun e => e.key = key) = [⟨key, s.setsOf key⟩] := by
  obtain ⟨set, hset⟩ := List.exists_mem_of_ne_nil _ hsets
  obtain ⟨e, he, rfl, -⟩ := h.mem_setsOf_iff.1 hset
  -- no other entity has its key
  obtain ⟨before, after, hsplit, hbefore, hafter⟩ := exists_split_of_nodup h.nodup_keys he
  have hothers : ∀ l : List Entity, (∀ x ∈ l, x.key ≠ e.key) →
      l.filter (fun x => x.key = e.key) = [] := by
    intro l hl
    exact List.filter_eq_nil_iff.2 fun x hx heq => hl x hx (of_decide_eq_true heq)
  rw [hsplit, List.filter_append, List.filter_cons_of_pos (by simp), hothers before hbefore,
    hothers after hafter, h.setsOf_key he]
  rfl

theorem Step.setsUnder_append (steps more : List Step) (key : EntityKey) :
    setsUnder (steps ++ more) key = setsUnder steps key ++ setsUnder more key := by
  simp [setsUnder]

namespace Populator

variable {p : Populator} {groups : RawGroups} {specs : SpecGroups} {group id : String}
  {spec : SpecGroup} {key : EntityKey} {set : MetricSet}

/-- Raw entities that do not have a key append nothing to it. -/
theorem setsUnder_eq_nil_of_keyOf {steps : List ((String × String) × Step)}
    (hmem : ∀ x ∈ steps, x ∈ p.stepsBy groups specs)
    (hkey : ∀ x ∈ steps, ∀ sp, specs.get? x.1.1 = some sp → (groups.entity? x.1.1 x.1.2).isSome →
      p.keyOf sp x.1.1 x.1.2 groups ≠ .ok key) :
    Step.setsUnder (steps.map Prod.snd) key = [] := by
  rw [Step.setsUnder, List.map_eq_nil_iff, List.filter_eq_nil_iff]
  intro a ha heq
  obtain ⟨step, hstep, ha⟩ := List.mem_flatMap.1 ha
  obtain ⟨⟨⟨g, i⟩, step⟩, hx, rfl⟩ := List.mem_map.1 hstep
  cases step with
  | ensure k => cases ha
  | append k other =>
    obtain rfl := List.mem_singleton.1 ha
    obtain rfl : k = key := of_decide_eq_true heq
    obtain ⟨sp, hspec, hsome, hreport⟩ := mem_stepsBy_iff.1 (hmem _ hx)
    exact hkey _ hx sp hspec hsome (report_step_append_iff.1 hreport).1

/-- Where one raw entity has a key and appends a set to it, the key gets this set and no other. -/
theorem setsOf_populate_of_unique (hspec : specs.get? group = some spec)
    (hsome : (groups.entity? group id).isSome)
    (hstep : (p.report spec group id groups).step = some (.append key set))
    (hunique : ∀ g i sp, specs.get? g = some sp → (groups.entity? g i).isSome →
      p.keyOf sp g i groups = .ok key → g = group ∧ i = id) :
    (p.populate groups specs .empty).2.setsOf key = [set] := by
  have hmem : ((group, id), Step.append key set) ∈ p.stepsBy groups specs :=
    mem_stepsBy_iff.2 ⟨spec, hspec, hsome, hstep⟩
  obtain ⟨before, after, hsplit, hbefore, hafter⟩ :=
    exists_split_of_nodup (p.nodup_stepsBy groups specs) hmem
  -- the other steps are for raw entities at other places, which have other keys
  have hothers : ∀ l : List ((String × String) × Step), (∀ x ∈ l, x ∈ p.stepsBy groups specs) →
      (∀ x ∈ l, x.1 ≠ (group, id)) → Step.setsUnder (l.map Prod.snd) key = [] := by
    intro l hl hplace
    refine setsUnder_eq_nil_of_keyOf hl fun x hx sp hsp hxsome hkey => hplace x hx ?_
    obtain ⟨hg, hi⟩ := hunique _ _ sp hsp hxsome hkey
    exact Prod.ext hg hi
  have hleft := hothers before (fun x hx => by rw [hsplit]; simp [hx]) hbefore
  have hright := hothers after (fun x hx => by rw [hsplit]; simp [hx]) hafter
  rw [populate_eq, EntityStore.indexed_empty.setsOf_run, EntityStore.setsOf_empty, List.nil_append,
    ← Step.setsUnder, hsplit, List.map_append, List.map_cons, Step.setsUnder_append, hleft,
    List.nil_append, ← List.singleton_append, Step.setsUnder_append, hright, List.append_nil]
  simp [Step.setsUnder, Step.appended]

end Populator

end NodeTelemetry
