/-!
# Finite maps keyed by text

`TextMap α` holds its entries in strictly increasing order of their keys, the order of the
keys' bytes in UTF-8. The order is part of the type, so a map has exactly one
representation: two maps with the same lookups are equal (`TextMap.ext_get?`), and every list made
from a map (`entries`, `keys`, `values`) comes out in the same order however the map was built.

## Main statements

* `TextMap.get?_insert`: what an insertion does to every lookup.
* `TextMap.ext_get?`: lookups determine the map.
* `TextMap.mem_keys_iff`: the keys are the texts that have a value.
-/

namespace NodeTelemetry

universe u v

/-- A finite map from texts to `α`, held as its entries in strictly increasing order of keys. -/
structure TextMap (α : Type u) where
  /-- The entries, smallest key first. -/
  entries : List (String × α)
  /-- No key occurs twice, and the keys ascend. -/
  sorted : entries.Pairwise (fun a b => a.1 < b.1)

namespace TextMap

variable {α : Type u} {β : Type v}

/-- Puts a value into a list of entries at the place of its key, replacing the entry there. -/
def insertEntry (k : String) (x : α) : List (String × α) → List (String × α)
  | [] => [(k, x)]
  | (k', x') :: rest =>
    if k < k' then (k, x) :: (k', x') :: rest
    else if k = k' then (k, x) :: rest
    else (k', x') :: insertEntry k x rest

theorem mem_insertEntry {k : String} {x : α} {a : String × α} {l : List (String × α)} :
    a ∈ insertEntry k x l → a = (k, x) ∨ a ∈ l := by
  induction l with
  | nil => simp [insertEntry]
  | cons e rest ih =>
    obtain ⟨k', x'⟩ := e
    rw [insertEntry]
    split
    · simp
    · split
      · simp only [List.mem_cons]
        rintro (h | h)
        · exact .inl h
        · exact .inr (.inr h)
      · simp only [List.mem_cons]
        rintro (h | h)
        · exact .inr (.inl h)
        · exact (ih h).imp id .inr

/-- Two texts neither of which is smaller are equal. -/
theorem eq_of_not_lt {a b : String} (h₁ : ¬ a < b) (h₂ : ¬ b < a) : a = b :=
  String.le_antisymm (String.not_lt.1 h₂) (String.not_lt.1 h₁)

theorem pairwise_insertEntry (k : String) (x : α) {l : List (String × α)}
    (h : l.Pairwise (fun a b => a.1 < b.1)) :
    (insertEntry k x l).Pairwise (fun a b => a.1 < b.1) := by
  induction l with
  | nil => simp [insertEntry]
  | cons e rest ih =>
    obtain ⟨k', x'⟩ := e
    obtain ⟨head, tail⟩ := List.pairwise_cons.1 h
    rw [insertEntry]
    split
    · next lt =>
      refine List.pairwise_cons.2 ⟨fun a ha => ?_, h⟩
      rcases List.mem_cons.1 ha with rfl | ha
      · exact lt
      · exact String.lt_trans lt (head a ha)
    · split
      · next eq =>
        subst eq
        exact List.pairwise_cons.2 ⟨head, tail⟩
      · next nlt ne =>
        refine List.pairwise_cons.2 ⟨fun a ha => ?_, ih tail⟩
        rcases mem_insertEntry ha with rfl | ha
        · exact Decidable.byContradiction fun hn => ne (eq_of_not_lt nlt hn)
        · exact head a ha

/-- The map without entries. -/
def empty : TextMap α := ⟨[], List.Pairwise.nil⟩

instance : EmptyCollection (TextMap α) := ⟨empty⟩

instance : Inhabited (TextMap α) := ⟨empty⟩

/-- Sets the value of a key, replacing the one it had. -/
def insert (m : TextMap α) (k : String) (x : α) : TextMap α :=
  ⟨insertEntry k x m.entries, pairwise_insertEntry k x m.sorted⟩

/-- The value of a key, if it has one. -/
def get? (m : TextMap α) (k : String) : Option α :=
  m.entries.lookup k

/-- Whether a key has a value. -/
def contains (m : TextMap α) (k : String) : Bool :=
  (m.get? k).isSome

/-- The value of a key, or `d` where it has none. -/
def getD (m : TextMap α) (k : String) (d : α) : α :=
  (m.get? k).getD d

/-- The keys in ascending order. -/
def keys (m : TextMap α) : List String :=
  m.entries.map (·.1)

/-- The values in ascending order of their keys. -/
def values (m : TextMap α) : List α :=
  m.entries.map (·.2)

/-- The number of keys. -/
def size (m : TextMap α) : Nat :=
  m.entries.length

/-- Whether no key has a value. -/
def isEmpty (m : TextMap α) : Bool :=
  m.entries.isEmpty

/-- Inserts pairs one after the other: of two values for one key the later stays. -/
def insertAll (m : TextMap α) (pairs : List (String × α)) : TextMap α :=
  pairs.foldl (fun m p => m.insert p.1 p.2) m

/-- The map of a list of pairs, in which a later pair replaces an earlier one of its key. -/
def ofList (pairs : List (String × α)) : TextMap α :=
  insertAll empty pairs

/-- The different texts of a list in ascending order. -/
def distinct (texts : List String) : List String :=
  (ofList (texts.map fun s => (s, ()))).keys

/-- Applies a function to every value. -/
def map (f : α → β) (m : TextMap α) : TextMap β :=
  ⟨m.entries.map fun e => (e.1, f e.2),
    List.pairwise_map.2 (m.sorted.imp fun h => h)⟩

@[simp] theorem map_id (m : TextMap α) : m.map id = m := by
  obtain ⟨entries, sorted⟩ := m
  simp [map]

/-- Keeps the keys for which a function gives a value, with that value. -/
def filterMap (f : String → α → Option β) (m : TextMap α) : TextMap β :=
  ⟨m.entries.filterMap fun e => (f e.1 e.2).map fun y => (e.1, y),
    List.pairwise_filterMap.2 (m.sorted.imp fun {a b} hlt x hx y hy => by
      obtain ⟨-, -, rfl⟩ := Option.map_eq_some_iff.1 hx
      obtain ⟨-, -, rfl⟩ := Option.map_eq_some_iff.1 hy
      exact hlt)⟩

/-- Replaces the value of a key by a function of the value it had. -/
def alter (m : TextMap α) (k : String) (f : Option α → α) : TextMap α :=
  m.insert k (f (m.get? k))

instance [DecidableEq α] : DecidableEq (TextMap α) := fun a b =>
  match decEq a.entries b.entries with
  | .isTrue h => .isTrue (by cases a; cases b; cases h; rfl)
  | .isFalse h => .isFalse fun e => h (congrArg entries e)

instance [Repr α] : Repr (TextMap α) := ⟨fun m n => reprPrec m.entries n⟩

/-! ### Lookups -/

theorem lookup_cons_ite (j : String) (e : String × α) (l : List (String × α)) :
    (e :: l).lookup j = if j = e.1 then some e.2 else l.lookup j := by
  obtain ⟨k, x⟩ := e
  rw [List.lookup_cons]
  by_cases h : j = k
  · simp [h]
  · simp only [beq_eq_false_iff_ne.2 h, if_neg h]

theorem lookup_insertEntry (k j : String) (x : α) (l : List (String × α)) :
    (insertEntry k x l).lookup j = if j = k then some x else l.lookup j := by
  induction l with
  | nil => simp [insertEntry, lookup_cons_ite]
  | cons e rest ih =>
    obtain ⟨k', x'⟩ := e
    rw [insertEntry]
    split
    · simp [lookup_cons_ite]
    · split
      · next eq =>
        subst eq
        by_cases h : j = k <;> simp [lookup_cons_ite, h]
      · next ne =>
        rw [lookup_cons_ite, ih, lookup_cons_ite]
        by_cases h : j = k
        · subst h
          simp [ne]
        · simp [h]

/-- After an insertion the key has the new value and every other key keeps its own. -/
theorem get?_insert (m : TextMap α) (k j : String) (x : α) :
    (m.insert k x).get? j = if j = k then some x else m.get? j :=
  lookup_insertEntry k j x m.entries

@[simp] theorem get?_insert_self (m : TextMap α) (k : String) (x : α) :
    (m.insert k x).get? k = some x := by
  simp [get?_insert]

theorem get?_insert_of_ne (m : TextMap α) {k j : String} (x : α) (h : j ≠ k) :
    (m.insert k x).get? j = m.get? j := by
  simp [get?_insert, h]

@[simp] theorem get?_empty (k : String) : (empty : TextMap α).get? k = none := rfl

theorem lookup_map (f : α → β) (k : String) (l : List (String × α)) :
    (l.map fun e => (e.1, f e.2)).lookup k = (l.lookup k).map f := by
  induction l with
  | nil => rfl
  | cons e rest ih =>
    rw [List.map_cons, lookup_cons_ite, lookup_cons_ite, ih]
    by_cases h : k = e.1 <;> simp [h]

@[simp] theorem get?_map (f : α → β) (m : TextMap α) (k : String) :
    (m.map f).get? k = (m.get? k).map f :=
  lookup_map f k m.entries

theorem mem_of_lookup_eq_some {k : String} {x : α} {l : List (String × α)}
    (h : l.lookup k = some x) : (k, x) ∈ l := by
  induction l with
  | nil => simp at h
  | cons e rest ih =>
    obtain ⟨k', x'⟩ := e
    rw [List.lookup_cons] at h
    by_cases hk : k = k'
    · simp only [hk, beq_self_eq_true, Option.some.injEq] at h
      simp [hk, h]
    · simp only [beq_eq_false_iff_ne.2 hk] at h
      exact List.mem_cons_of_mem _ (ih h)

theorem lookup_eq_some_of_mem {k : String} {x : α} {l : List (String × α)}
    (s : l.Pairwise (fun a b => a.1 < b.1)) (h : (k, x) ∈ l) : l.lookup k = some x := by
  induction l with
  | nil => simp at h
  | cons e rest ih =>
    obtain ⟨head, tail⟩ := List.pairwise_cons.1 s
    obtain ⟨k', x'⟩ := e
    rw [List.lookup_cons]
    rcases List.mem_cons.1 h with he | hr
    · cases he
      simp
    · have hlt : k' < k := head (k, x) hr
      have hne : k ≠ k' := fun e => String.lt_irrefl k (by rw [e] at hlt ⊢; exact hlt)
      simp only [beq_eq_false_iff_ne.2 hne]
      exact ih tail hr

/-- A key has a value exactly when the pair is an entry. -/
theorem get?_eq_some_iff {m : TextMap α} {k : String} {x : α} :
    m.get? k = some x ↔ (k, x) ∈ m.entries :=
  ⟨mem_of_lookup_eq_some, lookup_eq_some_of_mem m.sorted⟩

/-- A key keeps what the function gives for its value. -/
@[simp] theorem get?_filterMap (f : String → α → Option β) (m : TextMap α) (k : String) :
    (m.filterMap f).get? k = (m.get? k).bind (f k) := by
  ext y
  rw [get?_eq_some_iff, Option.bind_eq_some_iff, filterMap, List.mem_filterMap]
  constructor
  · rintro ⟨⟨j, x⟩, hmem, hy⟩
    obtain ⟨z, hz, heq⟩ := Option.map_eq_some_iff.1 hy
    obtain ⟨rfl, rfl⟩ := Prod.mk.inj heq
    exact ⟨x, get?_eq_some_iff.2 hmem, hz⟩
  · rintro ⟨x, hx, hy⟩
    exact ⟨(k, x), get?_eq_some_iff.1 hx, by simp [hy]⟩

/-- The keys of a map are the texts that have a value in it. -/
theorem mem_keys_iff {m : TextMap α} {k : String} : k ∈ m.keys ↔ (m.get? k).isSome := by
  rw [keys, List.mem_map, Option.isSome_iff_exists]
  constructor
  · rintro ⟨⟨k', x⟩, h, rfl⟩
    exact ⟨x, get?_eq_some_iff.2 h⟩
  · rintro ⟨x, h⟩
    exact ⟨(k, x), get?_eq_some_iff.1 h, rfl⟩

theorem sorted_ext {l₁ l₂ : List (String × α)}
    (h₁ : l₁.Pairwise (fun a b => a.1 < b.1)) (h₂ : l₂.Pairwise (fun a b => a.1 < b.1))
    (h : ∀ e, e ∈ l₁ ↔ e ∈ l₂) : l₁ = l₂ := by
  induction l₁ generalizing l₂ with
  | nil =>
    cases l₂ with
    | nil => rfl
    | cons e rest => exact absurd ((h e).2 (List.mem_cons_self ..)) (by simp)
  | cons a r₁ ih =>
    cases l₂ with
    | nil => exact absurd ((h a).1 (List.mem_cons_self ..)) (by simp)
    | cons b r₂ =>
      obtain ⟨head₁, tail₁⟩ := List.pairwise_cons.1 h₁
      obtain ⟨head₂, tail₂⟩ := List.pairwise_cons.1 h₂
      have hab : a = b := by
        rcases List.mem_cons.1 ((h a).1 (List.mem_cons_self ..)) with e | ha
        · exact e
        · rcases List.mem_cons.1 ((h b).2 (List.mem_cons_self ..)) with e | hb
          · exact e.symm
          · exact absurd (String.lt_trans (head₁ b hb) (head₂ a ha)) (String.lt_irrefl _)
      subst hab
      congr 1
      refine ih tail₁ tail₂ fun e => ⟨fun he => ?_, fun he => ?_⟩
      · rcases List.mem_cons.1 ((h e).1 (List.mem_cons_of_mem _ he)) with rfl | h'
        · exact absurd (head₁ _ he) (String.lt_irrefl _)
        · exact h'
      · rcases List.mem_cons.1 ((h e).2 (List.mem_cons_of_mem _ he)) with rfl | h'
        · exact absurd (head₂ _ he) (String.lt_irrefl _)
        · exact h'

/-- Two maps with the same lookups are the same map. -/
theorem ext_get? {m n : TextMap α} (h : ∀ k, m.get? k = n.get? k) : m = n := by
  obtain ⟨l₁, h₁⟩ := m
  obtain ⟨l₂, h₂⟩ := n
  have : l₁ = l₂ := sorted_ext h₁ h₂ fun e => by
    have := h e.1
    constructor
    · intro he
      have := lookup_eq_some_of_mem (k := e.1) (x := e.2) h₁ he
      exact mem_of_lookup_eq_some ((h e.1).symm.trans this)
    · intro he
      have := lookup_eq_some_of_mem (k := e.1) (x := e.2) h₂ he
      exact mem_of_lookup_eq_some ((h e.1).trans this)
  subst this
  rfl

end TextMap

end NodeTelemetry
