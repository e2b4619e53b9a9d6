import NodeTelemetry.Proofs.Json.Numbers

/-!
# Values without loss

A value is faithful if its text gives it back and leaves no doubt about what it holds: nothing is missing in it, and no
object has two fields of one name, so it does not matter which of them a reader takes.

## Main definitions

* `IsDefinite`: values in which nothing is missing and no field occurs twice.
* `Faithful`: definite values that read back.

## Main statements

* `faithful_arr`, `faithful_obj`: lists and objects of faithful values.
-/

namespace NodeTelemetry.Json

mutual

/-- Nothing is missing, and no object has two fields of one name. -/
def IsDefinite : Json → Prop
  | null | unreadable => False
  | bool _ | int _ | float _ | str _ => True
  | arr items => AreDefinite items
  | obj fields => (fields.map Prod.fst).Nodup ∧ FieldsDefinite fields

/-- Every value of a list is definite. -/
def AreDefinite : List Json → Prop
  | [] => True
  | j :: rest => j.IsDefinite ∧ AreDefinite rest

/-- The value of every field is definite. -/
def FieldsDefinite : List (String × Json) → Prop
  | [] => True
  | (_, j) :: rest => j.IsDefinite ∧ FieldsDefinite rest

end

/-- A definite value whose text gives it back. -/
structure Faithful (j : Json) : Prop where
  readsBack : j.ReadsBack
  definite : j.IsDefinite

theorem faithful_str (s : String) : (str s).Faithful := by
  constructor <;> simp [ReadsBack, IsDefinite]

theorem faithful_int {n : Int} (hlow : -(UInt64.size / 2 : Nat) ≤ n) (hhigh : n < UInt64.size) :
    (int n).Faithful where
  readsBack := by
    rw [ReadsBack]
    exact numberReadsBack_int hlow hhigh
  definite := by simp [IsDefinite]

theorem faithful_float {x : Float} (h : PrintsDouble x) : (float x).Faithful where
  readsBack := by
    rw [ReadsBack]
    exact numberReadsBack_of_number h
  definite := by simp [IsDefinite]

theorem faithful_arr {items : List Json} (h : ∀ j ∈ items, j.Faithful) : (arr items).Faithful := by
  have all : ItemsReadBack items ∧ AreDefinite items := by
    induction items with
    | nil => simp [ItemsReadBack, AreDefinite]
    | cons j rest ih =>
      obtain ⟨hj, hrest⟩ := List.forall_mem_cons.1 h
      rw [ItemsReadBack, AreDefinite]
      exact ⟨⟨hj.readsBack, (ih hrest).1⟩, hj.definite, (ih hrest).2⟩
  constructor
  · rw [ReadsBack]
    exact all.1
  · rw [IsDefinite]
    exact all.2

theorem faithful_obj {fields : List (String × Json)} (hkeys : (fields.map Prod.fst).Nodup)
    (h : ∀ f ∈ fields, f.2.Faithful) : (obj fields).Faithful := by
  have all : FieldsReadBack fields ∧ FieldsDefinite fields := by
    clear hkeys
    induction fields with
    | nil => simp [FieldsReadBack, FieldsDefinite]
    | cons f rest ih =>
      obtain ⟨hf, hrest⟩ := List.forall_mem_cons.1 h
      rw [FieldsReadBack, FieldsDefinite]
      exact ⟨⟨hf.readsBack, (ih hrest).1⟩, hf.definite, (ih hrest).2⟩
  constructor
  · rw [ReadsBack]
    exact all.1
  · rw [IsDefinite]
    exact ⟨hkeys, all.2⟩

end NodeTelemetry.Json
