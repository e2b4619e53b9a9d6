import Mathlib.Logic.Function.Conjugate
import NodeTelemetry.Proofs.RawGroups

/-!
# Changes of raw groups

A change of an existing entity creates nothing, and it may be made before or after any other change that leaves
the entity alone or agrees with it. Raw groups are told apart by their entities and by the groups that exist, so
both are compared group by group.

## Main statements

* `RawGroups.ext_entity?`: raw groups with the same groups and the same entities are equal.
* `RawGroups.commute_updateExisting`, `RawGroups.commute_updateExisting_update`: changes that can be made in either
  order.
* `foldl_foldl_self`: steps that stay done, made twice, are made once.
-/

namespace NodeTelemetry

/-! ### Steps one after the other -/

/-- A change that commutes with every step commutes with a run of steps. -/
theorem commute_foldl {α β : Type} {f : β → β} {step : β → α → β} (xs : List α)
    (h : ∀ x, Function.Commute f (step · x)) : Function.Commute f (xs.foldl step ·) := by
  intro b
  induction xs generalizing b with
  | nil => rfl
  | cons x rest ih =>
    simp only [List.foldl_cons]
    rw [ih, h x b]

/-- If a step changes nothing once it is made, whatever other steps are made behind it, then a run of steps changes
nothing after itself. -/
theorem foldl_foldl_self {α β : Type} {step : β → α → β} (hself : ∀ b x, step (step b x) x = step b x)
    (hstay : ∀ b x y, step b x = b → step (step b y) x = step b y) (xs : List α) (b : β) :
    xs.foldl step (xs.foldl step b) = xs.foldl step b := by
  have stays : ∀ (ys : List α) (c : β) (x : α), step c x = c →
      step (ys.foldl step c) x = ys.foldl step c := by
    intro ys
    induction ys with
    | nil => exact fun c x h => h
    | cons y rest ih => exact fun c x h => ih (step c y) x (hstay c x y h)
  have done : ∀ (ys : List α) (c : β), ∀ x ∈ ys, step (ys.foldl step c) x = ys.foldl step c := by
    intro ys
    induction ys with
    | nil => simp
    | cons y rest ih =>
      intro c x hx
      rcases List.mem_cons.1 hx with rfl | hx
      · exact stays rest (step c x) x (hself c x)
      · exact ih (step c y) x hx
  have still : ∀ (ys : List α) (c : β), (∀ x ∈ ys, step c x = c) → ys.foldl step c = c := by
    intro ys c
    induction ys with
    | nil => exact fun _ => rfl
    | cons y rest ih =>
      intro h
      rw [List.foldl_cons, h y (List.mem_cons_self ..)]
      exact ih fun x hx => h x (List.mem_cons_of_mem _ hx)
  exact still xs _ (done xs b)

namespace RawGroups

variable {groups : RawGroups} {group id group' id' : String} {f f' : RawMetrics → RawMetrics}

/-- Raw groups with the same groups and the same entities are equal. -/
theorem ext_entity? {a b : RawGroups} (hgroups : ∀ g, (a.get? g).isSome = (b.get? g).isSome)
    (hentities : ∀ g i, a.entity? g i = b.entity? g i) : a = b := by
  refine TextMap.ext_get? fun g => ?_
  have hsome := hgroups g
  cases ha : a.get? g with
  | none =>
    cases hb : b.get? g with
    | none => rfl
    | some entities => simp [ha, hb] at hsome
  | some entities =>
    cases hb : b.get? g with
    | none => simp [ha, hb] at hsome
    | some entities' =>
      refine congrArg some (TextMap.ext_get? fun i => ?_)
      have hi := hentities g i
      rwa [entity?, entity?, ha, hb] at hi

/-- An update creates its group, and no other. -/
theorem isSome_get?_update (groups : RawGroups) (group id : String) (f : RawMetrics → RawMetrics)
    (g : String) :
    ((groups.update group id f).get? g).isSome = (decide (g = group) || (groups.get? g).isSome) := by
  rw [update, TextMap.alter, TextMap.get?_insert]
  by_cases hg : g = group <;> simp [hg]

/-- A change of an existing entity creates no group. -/
theorem isSome_get?_updateExisting (groups : RawGroups) (group id : String)
    (f : RawMetrics → RawMetrics) (g : String) :
    ((groups.updateExisting group id f).get? g).isSome = (groups.get? g).isSome := by
  rw [updateExisting]
  cases hgroup : groups.get? group with
  | none => rfl
  | some entities =>
    cases hid : entities.get? id with
    | none => simp only [hid]
    | some metrics =>
      simp only [hid, TextMap.get?_insert]
      by_cases hg : g = group <;> simp [hg, hgroup]

/-- A change leaves raw groups as they are if it leaves the entity as it is. -/
theorem updateExisting_eq_self_iff :
    groups.updateExisting group id f = groups ↔ ∀ m, groups.entity? group id = some m → f m = m := by
  constructor
  · intro h m hm
    have hentity := congrArg (fun g : RawGroups => g.entity? group id) h
    simp only [entity?_updateExisting, and_self, if_true, hm, Option.map_some] at hentity
    exact Option.some.inj hentity
  · intro h
    refine ext_entity? (isSome_get?_updateExisting groups group id f) fun g i => ?_
    rw [entity?_updateExisting]
    split
    · next hplace =>
      rw [hplace.1, hplace.2]
      cases hm : groups.entity? group id with
      | none => rfl
      | some m => rw [Option.map_some, h m hm]
    · rfl

/-- Two changes of an existing entity are one. -/
theorem updateExisting_updateExisting (groups : RawGroups) (group id : String)
    (f f' : RawMetrics → RawMetrics) :
    (groups.updateExisting group id f).updateExisting group id f' =
      groups.updateExisting group id fun m => f' (f m) := by
  refine ext_entity? (fun g => ?_) fun g i => ?_
  · simp only [isSome_get?_updateExisting]
  · simp only [entity?_updateExisting, and_self, if_true]
    split
    · rw [Option.map_map]
      rfl
    · rfl

/-- Changes of existing entities can be made in either order, if they can where both are of one entity. -/
theorem commute_updateExisting (h : group = group' → id = id' → Function.Commute f f') :
    Function.Commute (updateExisting · group id f) (updateExisting · group' id' f') := by
  intro groups
  refine ext_entity? (fun g => ?_) fun g i => ?_
  · simp only [isSome_get?_updateExisting]
  · simp only [entity?_updateExisting]
    by_cases hfirst : g = group ∧ i = id
    · obtain ⟨rfl, rfl⟩ := hfirst
      by_cases hsecond : g = group' ∧ i = id'
      · obtain ⟨rfl, rfl⟩ := hsecond
        cases groups.entity? g i with
        | none => simp
        | some m => simpa using h rfl rfl m
      · simp [hsecond]
    · simp only [if_neg hfirst]
      by_cases hsecond : g = group' ∧ i = id'
      · obtain ⟨rfl, rfl⟩ := hsecond
        simp [hfirst]
      · simp [hsecond]

/-- A change of an existing entity and an update in another group can be made in either order. -/
theorem commute_updateExisting_update (h : group ≠ group') :
    Function.Commute (updateExisting · group id f) (update · group' id' f') := by
  intro groups
  refine ext_entity? (fun g => ?_) fun g i => ?_
  · simp only [isSome_get?_updateExisting, isSome_get?_update]
  · simp only [entity?_updateExisting, entity?_update]
    by_cases hfirst : g = group ∧ i = id
    · obtain ⟨rfl, rfl⟩ := hfirst
      simp [h]
    · simp only [if_neg hfirst]
      by_cases hsecond : g = group' ∧ i = id'
      · obtain ⟨rfl, rfl⟩ := hsecond
        simp [Ne.symm h]
      · simp [hsecond]

end RawGroups

end NodeTelemetry
