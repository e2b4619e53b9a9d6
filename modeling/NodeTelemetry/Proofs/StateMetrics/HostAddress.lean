import NodeTelemetry.Proofs.Text.ByteOrder
import NodeTelemetry.StateMetrics.Location

/-!
# The node of kube-state-metrics

The smallest text of a list does not depend on the order of the list, so all nodes that see the same pods agree on
the address of the node on which kube-state-metrics runs.

## Main definitions

* `IsSmallest`: the first of the texts of a list in the order of their bytes.

## Main statements

* `smallest?_eq_some_iff`: what is chosen from a list.
* `podNode_perm`: the address does not depend on the order of the pods.
* `podNode_eq_ok_iff`: which address it is.
-/

namespace NodeTelemetry.StateMetrics

/-- A text of a list whose bytes come after those of no other. -/
structure IsSmallest (s : String) (texts : List String) : Prop where
  mem : s ∈ texts
  le : ∀ t ∈ texts, Text.bytes s ≤ Text.bytes t

theorem isSmallest_iff_le {s : String} {texts : List String} :
    IsSmallest s texts ↔ s ∈ texts ∧ ∀ t ∈ texts, s ≤ t :=
  ⟨fun h => ⟨h.mem, fun t ht => (Text.le_iff_bytes_le s t).2 (h.le t ht)⟩,
    fun h => ⟨h.1, fun t ht => (Text.le_iff_bytes_le s t).1 (h.2 t ht)⟩⟩

theorem IsSmallest.unique {s t : String} {texts : List String} (hs : IsSmallest s texts)
    (ht : IsSmallest t texts) : s = t :=
  String.le_antisymm ((Text.le_iff_bytes_le s t).2 (hs.le t ht.mem))
    ((Text.le_iff_bytes_le t s).2 (ht.le s hs.mem))

theorem IsSmallest.perm {s : String} {texts texts' : List String} (h : IsSmallest s texts)
    (hperm : texts.Perm texts') : IsSmallest s texts' where
  mem := hperm.subset h.mem
  le t ht := h.le t (hperm.symm.subset ht)

/-- The smaller of two texts, as it is chosen from a list. -/
theorem isSmallest_foldl (s : String) (rest : List String) :
    IsSmallest (rest.foldl (fun a b => if b < a then b else a) s) (s :: rest) := by
  rw [isSmallest_iff_le]
  induction rest generalizing s with
  | nil => exact ⟨List.mem_singleton_self s, by simp⟩
  | cons t more ih =>
    rw [List.foldl_cons]
    by_cases hlt : t < s
    · rw [if_pos hlt]
      obtain ⟨hmem, hle⟩ := ih t
      refine ⟨List.mem_cons_of_mem _ hmem, fun x hx => ?_⟩
      rcases List.mem_cons.1 hx with rfl | hx
      · exact String.le_trans (hle t (List.mem_cons_self ..)) (List.le_of_lt hlt)
      · exact hle x hx
    · rw [if_neg hlt]
      obtain ⟨hmem, hle⟩ := ih s
      refine ⟨?_, fun x hx => ?_⟩
      · rcases List.mem_cons.1 hmem with h | h
        · exact List.mem_cons.2 (.inl h)
        · exact List.mem_cons_of_mem _ (List.mem_cons_of_mem _ h)
      · simp only [List.mem_cons] at hx
        rcases hx with rfl | rfl | hx
        · exact hle x (List.mem_cons_self ..)
        · exact String.le_trans (hle s (List.mem_cons_self ..)) (String.not_lt.1 hlt)
        · exact hle x (List.mem_cons_of_mem _ hx)

/-- The text that is chosen from a list is the smallest. -/
theorem smallest?_eq_some_iff {texts : List String} {s : String} :
    smallest? texts = some s ↔ IsSmallest s texts := by
  cases texts with
  | nil =>
    constructor
    · intro h
      cases h
    · intro h
      cases h.mem
  | cons t rest =>
    rw [smallest?, Option.some_inj]
    constructor
    · rintro rfl
      exact isSmallest_foldl t rest
    · exact (isSmallest_foldl t rest).unique

/-- The choice does not depend on the order of the list. -/
theorem smallest?_perm {texts texts' : List String} (h : texts.Perm texts') :
    smallest? texts = smallest? texts' := by
  refine Option.ext fun s => ?_
  rw [smallest?_eq_some_iff, smallest?_eq_some_iff]
  exact ⟨fun hs => hs.perm h, fun hs => hs.perm h.symm⟩

/-- The address of the node does not depend on the order of the pods. -/
theorem podNode_perm {pods pods' : List Cluster.Pod} (h : pods.Perm pods') :
    podNode pods = podNode pods' := by
  have hsmallest : smallestHostIp? pods = smallestHostIp? pods' := smallest?_perm (h.filterMap _)
  have hempty : pods.isEmpty = pods'.isEmpty := by
    rw [Bool.eq_iff_iff, List.isEmpty_iff, List.isEmpty_iff, ← List.length_eq_zero_iff, h.length_eq,
      List.length_eq_zero_iff]
  rw [podNode, podNode, hsmallest, hempty]

/-- The address of the node is the smallest address of a pod that is not empty. -/
theorem podNode_eq_ok_iff {pods : List Cluster.Pod} {ip : String} :
    podNode pods = .ok ip ↔ IsSmallest ip (hostIps pods) := by
  rw [← smallest?_eq_some_iff, podNode]
  split
  · next hempty =>
    rw [List.isEmpty_iff.1 hempty]
    simp [hostIps, smallest?]
  · rw [smallestHostIp?]
    cases smallest? (hostIps pods) with
    | none => simp
    | some s => simp

/-- The address that is found is that of the pods that are found. -/
theorem value_nodeIp {w : Surroundings} {pods : List Cluster.Pod} (h : w.pods selector = .found pods)
    (timeout : Time.Span) : (nodeIp w timeout).run.value = podNode pods := by
  simp only [nodeIp, Locator.bounded, Surroundings.findPods, h]
  rfl

/-- An address is found only among the pods that are found. -/
theorem exists_pods_of_value_nodeIp {w : Surroundings} {timeout : Time.Span} {ip : String}
    (h : (nodeIp w timeout).run.value = .ok ip) :
    ∃ pods, w.pods selector = .found pods ∧ podNode pods = .ok ip := by
  cases hpods : w.pods selector with
  | found pods => exact ⟨pods, rfl, (value_nodeIp hpods timeout).symm.trans h⟩
  | failed e =>
    simp only [nodeIp, Locator.bounded, Surroundings.findPods, hpods] at h
    cases h
  | stalled =>
    simp only [nodeIp, Locator.bounded, Surroundings.findPods, hpods] at h
    cases h

end NodeTelemetry.StateMetrics
