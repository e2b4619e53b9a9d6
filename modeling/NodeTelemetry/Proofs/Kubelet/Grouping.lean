import NodeTelemetry.Proofs.Kubelet.Grouped

/-!
# Grouping loses and invents nothing

`Describes groups l` says that raw groups hold exactly the subjects of a list, each with the raw metrics by which
it is recognised. As long as names hold no separator, every step of grouping keeps this: a subject that is put
replaces no other, and what is added later touches nothing by which a subject is recognised.

## Main definitions

* `Describes`: raw groups that hold exactly the subjects of a list.

## Main statements

* `Describes.put`, `Describes.change`: what the steps of grouping keep.
* `Grouped.describes`: raw groups that come about by these steps hold exactly what was put.
-/

namespace NodeTelemetry.Kubelet

/-- Raw groups that hold exactly the subjects of a list, all of them with plain names. -/
structure Describes (groups : RawGroups) (l : List Subject) : Prop where
  named : ∀ s ∈ l, s.WellNamed
  marked : ∀ s ∈ l, ∃ m, groups.entity? s.group s.rawId = some m ∧
    ∀ mark ∈ s.marks, m.get? mark.1 = some (.scalar (.str mark.2))
  exact : ∀ g id, (groups.entity? g id).isSome → ∃ s ∈ l, s.place = (g, id)

namespace Describes

variable {groups : RawGroups} {l : List Subject}

theorem empty : Describes .empty [] where
  named := by simp
  marked := by simp
  exact := by simp [RawGroups.entity?_empty]

theorem named_append {s : Subject} (h : Describes groups l) (hs : s.WellNamed) :
    ∀ t ∈ l ++ [s], t.WellNamed := by
  intro t ht
  rcases List.mem_append.1 ht with ht | ht
  · exact h.named t ht
  · obtain rfl := List.mem_singleton.1 ht
    exact hs

/-- Facts about a subject add that subject. Subjects at other places keep their raw metrics, and no other
subject has the same place. -/
theorem put {s : Subject} {facts : Facts} (h : Describes groups l) (hs : s.WellNamed)
    (hmarks : facts.Mark s) : Describes (Kubelet.put groups s.group s.rawId facts) (l ++ [s]) where
  named := h.named_append hs
  marked := by
    intro t ht
    rw [Kubelet.put, RawGroups.entity?_update]
    split
    · next hplace =>
      -- the subject at this place may be an old one, but it is the one that is put there
      obtain rfl : t = s :=
        Subject.place_injective (h.named_append hs t ht).separable hs.separable
          (Prod.ext hplace.1 hplace.2)
      exact ⟨_, rfl, hmarks.markedBy _⟩
    · next hplace =>
      rcases List.mem_append.1 ht with ht | ht
      · exact h.marked t ht
      · obtain rfl := List.mem_singleton.1 ht
        exact absurd ⟨rfl, rfl⟩ hplace
  exact := by
    intro g id hsome
    rw [Kubelet.put, RawGroups.entity?_update] at hsome
    split at hsome
    · next hplace => exact ⟨s, by simp, by rw [Subject.place, hplace.1, hplace.2]⟩
    · obtain ⟨t, ht, hplace⟩ := h.exact g id hsome
      exact ⟨t, List.mem_append_left _ ht, hplace⟩

/-- Facts that are added to an existing entity add no subject. -/
theorem change {group id : String} {f : RawMetrics → RawMetrics} (h : Describes groups l)
    (hf : Adds (lateSchema group) f) : Describes (groups.updateExisting group id f) l where
  named := h.named
  marked := by
    intro t ht
    obtain ⟨m, hm, hmarks⟩ := h.marked t ht
    rw [RawGroups.entity?_updateExisting]
    split
    · next hplace =>
      refine ⟨f m, by rw [← hplace.1, ← hplace.2, hm]; rfl, ?_⟩
      exact Subject.MarkedBy.adds hmarks hf
    · exact ⟨m, hm, hmarks⟩
  exact := by
    intro g i hsome
    rw [RawGroups.entity?_updateExisting] at hsome
    split at hsome
    · next hplace =>
      rw [Option.isSome_map, ← hplace.1, ← hplace.2] at hsome
      exact h.exact g i hsome
    · exact h.exact g i hsome

end Describes

/-- Raw groups that come about by the steps of grouping hold exactly the subjects that were put. -/
theorem Grouped.describes {groups : RawGroups} {l : List Subject} (h : Grouped groups l)
    (hs : ∀ s ∈ l, s.WellNamed) : Describes groups l := by
  induction h with
  | empty => exact .empty
  | put s h hmark hfit ih =>
    have hold := ih fun t ht => hs t (List.mem_append_left _ ht)
    exact hold.put (hs s (by simp)) hmark
  | change group id h hf ih => exact (ih hs).change hf

end NodeTelemetry.Kubelet
