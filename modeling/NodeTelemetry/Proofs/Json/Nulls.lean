import Mathlib.Logic.Relation
import NodeTelemetry.Json.Record
import NodeTelemetry.TextMap

/-!
# Explicit nulls

A member of a record that is not there may be written as `null`. `Layout.AddsNull` says of two documents that the
second is the first with one such `null` more, anywhere in a record or in a record inside it. A reader is `Steady` if
it reads both alike. Whether it is follows from how it reads each member: optional members of strict records and all
members of open records do not tell `null` from nothing.

## Main definitions

* `Layout`: what is said of a kind of record: the order of its members, which of them may not be `null`, and
  how members that are records change.
* `Layout.AddsNull`: a document with one `null` more.
* `Steady`: a reader that reads both documents alike.

## Main statements

* `Layout.AddsNull.strictRecord_cases`: the members of a strict record with one `null` more.
* `Layout.FieldsStep.field?`: a member of an open record with one `null` more.
-/

namespace NodeTelemetry.Json

/-- What is said of a kind of record, besides how its members are read. -/
structure Layout where
  /-- The members in their order, where the record may be written as the list of its values. -/
  order : List String
  /-- The members that may not be `null`, though they may be missing. -/
  strict : List String
  /-- How the values of members change that hold records themselves. -/
  parts : List (String × (Json → Json → Prop))

namespace Layout

/-- Fields of a record with one `null` more, for a member that is not there or inside of one that is. -/
inductive FieldsStep (l : Layout) : List (String × Json) → List (String × Json) → Prop where
  | here {front back : List (String × Json)} {name : String} (hname : name ∉ l.strict)
    (habsent : name ∉ (front ++ back).map Prod.fst) :
    FieldsStep l (front ++ back) (front ++ (name, null) :: back)
  | inside {front back : List (String × Json)} {part : String × (Json → Json → Prop)} {j j' : Json}
    (hpart : part ∈ l.parts) (h : part.2 j j') :
    FieldsStep l (front ++ (part.1, j) :: back) (front ++ (part.1, j') :: back)

/-- A record with one `null` more. Where it is written as a list, the place of a value tells its member. -/
inductive AddsNull (l : Layout) : Json → Json → Prop where
  | fields {fs fs' : List (String × Json)} (h : l.FieldsStep fs fs') : AddsNull l (obj fs) (obj fs')
  | item {front back : List Json} {part : String × (Json → Json → Prop)} {j j' : Json}
    (hpart : part ∈ l.parts) (hplace : l.order[front.length]? = some part.1) (h : part.2 j j') :
    AddsNull l (arr (front ++ j :: back)) (arr (front ++ j' :: back))

/-- The value of a member, before and after one `null` is added. -/
inductive FieldStep (l : Layout) (name : String) : Option Json → Option Json → Prop where
  | same (field : Option Json) : FieldStep l name field field
  | null (hname : name ∉ l.strict) : FieldStep l name none (some .null)
  | inside {part : String × (Json → Json → Prop)} {j j' : Json} (hpart : part ∈ l.parts)
    (hname : part.1 = name) (h : part.2 j j') : FieldStep l name (some j) (some j')

end Layout

/-- Values of a list of which one changes. -/
inductive InList (r : Json → Json → Prop) : Json → Json → Prop where
  | mk {front back : List Json} {j j' : Json} (h : r j j') :
    InList r (arr (front ++ j :: back)) (arr (front ++ j' :: back))

variable {α : Type}

/-- A reader that does not see a change, which is never one to or from `null`. -/
def Steady (r : Json → Json → Prop) (read : Json → Option α) : Prop :=
  ∀ j j', r j j' → j ≠ null ∧ j' ≠ null ∧ read j' = read j

/-- Nor does it see any number of changes. -/
theorem Steady.read_eq {r : Json → Json → Prop} {read : Json → Option α} (h : Steady r read)
    {j j' : Json} (hsteps : Relation.ReflTransGen r j j') : read j' = read j := by
  induction hsteps with
  | refl => rfl
  | tail _ hlast ih => rw [(h _ _ hlast).2.2, ih]

/-- A reader that does not see how a member changes. -/
def Layout.Reads (l : Layout) (name : String) (read : Json → Option α) : Prop :=
  ∀ part ∈ l.parts, part.1 = name → Steady part.2 read

@[simp] theorem Layout.reads_nil (order strict : List String) (name : String) (read : Json → Option α) :
    Reads ⟨order, strict, []⟩ name read := by
  simp [Reads]

@[simp] theorem Layout.reads_cons_iff {order strict : List String} {name member : String}
    {r : Json → Json → Prop} {parts : List (String × (Json → Json → Prop))} {read : Json → Option α} :
    Reads ⟨order, strict, (member, r) :: parts⟩ name read ↔
      (member = name → Steady r read) ∧ Reads ⟨order, strict, parts⟩ name read := by
  simp [Reads]

theorem steady_inList {r : Json → Json → Prop} {read : Json → Option α} (h : Steady r read) :
    Steady (InList r) (asListOf? read) := by
  rintro _ _ ⟨hr⟩
  refine ⟨by simp, by simp, ?_⟩
  simp [asListOf?, asItems?, (h _ _ hr).2.2]

theorem Layout.AddsNull.ne_null {l : Layout} {j j' : Json} (h : l.AddsNull j j') :
    j ≠ null ∧ j' ≠ null := by
  cases h <;> simp

variable {l : Layout} {name : String} {read : Json → Option α}

/-- A `null` for a member that is not there may stand behind all others. -/
theorem Layout.AddsNull.behind {fields : List (String × Json)} (hname : name ∉ l.strict)
    (habsent : name ∉ fields.map Prod.fst) : l.AddsNull (obj fields) (obj (fields ++ [(name, null)])) := by
  have hstep : l.FieldsStep (fields ++ []) (fields ++ [(name, null)]) :=
    .here hname (by rwa [List.append_nil])
  rw [List.append_nil] at hstep
  exact .fields hstep

/-- The only member of a record may change. -/
theorem Layout.AddsNull.inside {r : Json → Json → Prop} {j j' : Json} (hpart : (name, r) ∈ l.parts) (h : r j j') :
    l.AddsNull (obj [(name, j)]) (obj [(name, j')]) :=
  .fields (@FieldsStep.inside l [] [] (name, r) j j' hpart h)

/-! ### Values of members -/

namespace Layout.FieldStep

variable {a b : Option Json}

/-- An optional member does not tell `null` from nothing. -/
theorem optional (h : l.FieldStep name a b) (hread : l.Reads name read) :
    Json.optional read b = Json.optional read a := by
  cases h with
  | same => rfl
  | null => rfl
  | @inside part j j' hpart hname h =>
    obtain ⟨hj, hj', heq⟩ := hread _ hpart hname _ _ h
    have hnullable : ∀ j : Json, j ≠ .null → nullable read j = (read j).map some := by
      intro j hne
      cases j <;> first | exact absurd rfl hne | rfl
    rw [Json.optional, Json.optional, hnullable j hj, hnullable j' hj', heq]

theorem required (h : l.FieldStep name a b) (hname : name ∈ l.strict) (hread : l.Reads name read) :
    Json.required read b = Json.required read a := by
  cases h with
  | same => rfl
  | null hstrict => exact absurd hname hstrict
  | inside hpart hname h => exact (hread _ hpart hname _ _ h).2.2

theorem defaulted {d : α} (h : l.FieldStep name a b) (hname : name ∈ l.strict)
    (hread : l.Reads name read) : Json.defaulted d read b = Json.defaulted d read a := by
  cases h with
  | same => rfl
  | null hstrict => exact absurd hname hstrict
  | inside hpart hname h => exact (hread _ hpart hname _ _ h).2.2

end Layout.FieldStep

/-! ### Fields -/

namespace Layout.FieldsStep

variable {fs fs' : List (String × Json)}

theorem reverse (h : l.FieldsStep fs fs') : l.FieldsStep fs.reverse fs'.reverse := by
  cases h with
  | @here front back name hname habsent =>
    rw [List.reverse_append, List.reverse_append, List.reverse_cons, List.append_assoc,
      List.singleton_append]
    refine .here hname fun hmem => habsent ?_
    rw [← List.reverse_append, List.map_reverse, List.mem_reverse] at hmem
    exact hmem
  | inside hpart h =>
    simp only [List.reverse_append, List.reverse_cons, List.append_assoc, List.singleton_append]
    exact .inside hpart h

theorem lookup_eq_none {fields : List (String × Json)} (h : name ∉ fields.map Prod.fst) :
    fields.lookup name = none := by
  rw [List.lookup_eq_none_iff]
  intro f hf
  rw [bne_iff_ne]
  rintro rfl
  exact h (List.mem_map_of_mem hf)

/-- The first field of a name. -/
theorem lookup (h : l.FieldsStep fs fs') (name : String) :
    l.FieldStep name (fs.lookup name) (fs'.lookup name) := by
  cases h with
  | @here front back added hname habsent =>
    rw [List.lookup_append, List.lookup_append, TextMap.lookup_cons_ite]
    by_cases hadded : name = added
    · subst hadded
      simp only [List.map_append, List.mem_append, not_or] at habsent
      rw [lookup_eq_none habsent.1, lookup_eq_none habsent.2, if_pos rfl]
      exact .null hname
    · rw [if_neg hadded]
      exact .same _
  | @inside front back part j j' hpart h =>
    rw [List.lookup_append, List.lookup_append, TextMap.lookup_cons_ite, TextMap.lookup_cons_ite]
    by_cases hname : name = part.1
    · rw [if_pos hname, if_pos hname]
      cases front.lookup name with
      | none => exact .inside hpart hname.symm h
      | some x => exact .same _
    · rw [if_neg hname, if_neg hname]
      exact .same _

/-- No name occurs twice that did not before. -/
theorem count_le_one_iff (h : l.FieldsStep fs fs') (name : String) :
    (fs'.filter fun f => f.1 == name).length ≤ 1 ↔
      (fs.filter fun f => f.1 == name).length ≤ 1 := by
  cases h with
  | @here front back added hname habsent =>
    by_cases hadded : added = name
    · subst hadded
      have hnone : ∀ f ∈ front ++ back, ¬(f.1 == added) = true := by
        rintro f hf heq
        exact habsent (List.mem_map.2 ⟨f, hf, by simpa using heq⟩)
      have hempty := List.filter_eq_nil_iff.2 hnone
      rw [List.filter_append, List.append_eq_nil_iff] at hempty
      simp [hempty.1, hempty.2]
    · simp [hadded]
  | @inside front back part j j' hpart h =>
    by_cases hname : part.1 = name <;> simp [hname]

/-- A member of an open record does not tell `null` from nothing. -/
theorem field? (h : l.FieldsStep fs fs') (hread : l.Reads name read) :
    Json.field? name read fs' = Json.field? name read fs := by
  have hoptional : ∀ fields : List (String × Json),
      Json.field? name read fields = Json.optional read (fields.reverse.lookup name) := by
    intro fields
    rw [Json.field?, lastField]
    cases fields.reverse.lookup name with
    | none => rfl
    | some j => cases j <;> rfl
  rw [hoptional, hoptional]
  exact (h.reverse.lookup name).optional hread

theorem fieldD {d : α} (h : l.FieldsStep fs fs') (hread : l.Reads name read) :
    Json.fieldD name d read fs' = Json.fieldD name d read fs := by
  rw [Json.fieldD, Json.fieldD, h.field? hread]

end Layout.FieldsStep

/-! ### What can be read -/

theorem fieldsReadable_append (a b : List (String × Json)) :
    fieldsReadable (a ++ b) = (fieldsReadable a && fieldsReadable b) := by
  induction a with
  | nil => simp [fieldsReadable]
  | cons f rest ih => simp [fieldsReadable, ih, Bool.and_assoc]

/-- A `null` can be read. -/
theorem Layout.FieldsStep.fieldsReadable {fs fs' : List (String × Json)} (h : l.FieldsStep fs fs')
    (hparts : ∀ part ∈ l.parts, ∀ j j', part.2 j j' → j'.isReadable = j.isReadable) :
    Json.fieldsReadable fs' = Json.fieldsReadable fs := by
  cases h with
  | here hname habsent => simp [fieldsReadable_append, Json.fieldsReadable, isReadable]
  | inside hpart h => simp [fieldsReadable_append, Json.fieldsReadable, hparts _ hpart _ _ h]

/-- So can a record with one `null` more, if no record lies in it. -/
theorem Layout.AddsNull.isReadable {j j' : Json} (h : l.AddsNull j j') (hparts : l.parts = []) :
    j'.isReadable = j.isReadable := by
  cases h with
  | fields h =>
    refine h.fieldsReadable fun part hpart => ?_
    rw [hparts] at hpart
    exact absurd hpart List.not_mem_nil
  | item hpart =>
    rw [hparts] at hpart
    exact absurd hpart List.not_mem_nil

/-! ### Strict records -/

/-- A record that is written as a list has the same members as the object with the same values. -/
theorem map_lookup_zip {order : List String} {items : List Json} (hnodup : order.Nodup)
    (hlength : items.length ≤ order.length) :
    order.map (fun name => (order.zip items).lookup name) =
      items.map some ++ List.replicate (order.length - items.length) none := by
  induction order generalizing items with
  | nil =>
    obtain rfl := List.eq_nil_of_length_eq_zero (Nat.le_zero.1 hlength)
    rfl
  | cons name rest ih =>
    obtain ⟨hname, hrest⟩ := List.nodup_cons.1 hnodup
    cases items with
    | nil =>
      rw [List.zip_nil_right]
      exact List.map_const ..
    | cons j items =>
      rw [List.zip_cons_cons, List.map_cons, TextMap.lookup_cons_ite, if_pos rfl]
      have htail : (rest.map fun n => ((name, j) :: rest.zip items).lookup n) =
          rest.map fun n => (rest.zip items).lookup n := by
        refine List.map_congr_left fun n hn => ?_
        rw [TextMap.lookup_cons_ite, if_neg]
        rintro rfl
        exact hname hn
      rw [htail, ih hrest (by simpa using hlength)]
      simp

namespace Layout

/-- The members of an object as a strict record. -/
theorem FieldsStep.strictRecord_cases {fs fs' : List (String × Json)} (h : l.FieldsStep fs fs')
    (names : List String) (least : Nat) :
    (strictRecord names least (obj fs) = none ∧ strictRecord names least (obj fs') = none) ∨
      (strictRecord names least (obj fs) = some (names.map fun name => fs.lookup name) ∧
        strictRecord names least (obj fs') = some (names.map fun name => fs'.lookup name)) := by
  simp only [strictRecord, h.count_le_one_iff]
  split
  · exact .inr ⟨rfl, rfl⟩
  · exact .inl ⟨rfl, rfl⟩

/-- The members of a strict record before and after one `null` is added. -/
theorem AddsNull.strictRecord_cases {j j' : Json} (h : l.AddsNull j j') (hnodup : l.order.Nodup)
    (least : Nat) :
    (strictRecord l.order least j = none ∧ strictRecord l.order least j' = none) ∨
      ∃ f g : String → Option Json, strictRecord l.order least j = some (l.order.map f) ∧
        strictRecord l.order least j' = some (l.order.map g) ∧
        ∀ name, l.FieldStep name (f name) (g name) := by
  cases h with
  | fields h =>
    rcases h.strictRecord_cases l.order least with hnone | ⟨hj, hj'⟩
    · exact .inl hnone
    · exact .inr ⟨_, _, hj, hj', h.lookup⟩
  | @item front back part j j' hpart hplace h =>
    -- the list has the members of an object, in which the same part changes
    obtain ⟨before, after, horder, hfront⟩ : ∃ before after, l.order = before ++ part.1 :: after ∧
        before.length = front.length := by
      obtain ⟨hlt, hget⟩ := List.getElem?_eq_some_iff.1 hplace
      refine ⟨l.order.take front.length, l.order.drop (front.length + 1), ?_, by simp; omega⟩
      rw [← hget, List.getElem_cons_drop hlt, List.take_append_drop]
    have hstep : l.FieldsStep (l.order.zip (front ++ j :: back)) (l.order.zip (front ++ j' :: back)) := by
      rw [horder, List.zip_append hfront, List.zip_append hfront]
      exact .inside hpart h
    simp only [strictRecord, List.length_append, List.length_cons]
    split
    · next hlength =>
      simp only [Bool.and_eq_true, decide_eq_true_eq] at hlength
      have hmembers : ∀ x, (front ++ x :: back).length ≤ l.order.length := fun x => by
        simpa using hlength.2
      refine .inr ⟨_, _, congrArg some ?_, congrArg some ?_, hstep.lookup⟩
      · rw [map_lookup_zip hnodup (hmembers j)]
        simp
      · rw [map_lookup_zip hnodup (hmembers j')]
        simp
    · exact .inl ⟨rfl, rfl⟩

end Layout

/-- A field of a strict record is its only one of that name. -/
theorem strictRecord_of_mem {fields : List (String × Json)} {names : List String} {j : Json}
    (hmem : (name, j) ∈ fields) (hname : name ∈ names) (least : Nat) :
    strictRecord names least (obj fields) = none ∨
      (strictRecord names least (obj fields) = some (names.map fun n => fields.lookup n) ∧
        fields.lookup name = some j) := by
  have hlookup : ∀ fields : List (String × Json),
      fields.lookup name = ((fields.filter fun f => f.1 == name).head?).map Prod.snd := by
    intro fields
    induction fields with
    | nil => rfl
    | cons f rest ih =>
      rw [TextMap.lookup_cons_ite, List.filter_cons, ih]
      by_cases hf : name = f.1
      · simp [hf]
      · simp [hf, Ne.symm hf]
  rw [strictRecord]
  split
  · next hall =>
    have hcount := List.all_eq_true.1 hall name hname
    have hfilter : (name, j) ∈ fields.filter fun f => f.1 == name := by simp [hmem]
    rw [hlookup]
    cases hfs : fields.filter fun f => f.1 == name with
    | nil => simp [hfs] at hfilter
    | cons f rest =>
      obtain rfl : rest = [] := by
        rw [hfs] at hcount
        simpa using hcount
      obtain rfl : (name, j) = f := by simpa [hfs] using hfilter
      exact .inr ⟨rfl, rfl⟩
  · exact .inl rfl

/-- A reader of strict records is steady if it is so where every member is read. -/
theorem steady_of_strictRecord (least : Nat) (hnodup : l.order.Nodup)
    (hnone : ∀ j, strictRecord l.order least j = none → read j = none)
    (hsome : ∀ j j' (f g : String → Option Json), strictRecord l.order least j = some (l.order.map f) →
      strictRecord l.order least j' = some (l.order.map g) →
      (∀ name, l.FieldStep name (f name) (g name)) → read j' = read j) :
    Steady l.AddsNull read := by
  intro j j' h
  refine ⟨h.ne_null.1, h.ne_null.2, ?_⟩
  rcases h.strictRecord_cases hnodup least with ⟨hj, hj'⟩ | ⟨f, g, hj, hj', hstep⟩
  · rw [hnone j hj, hnone j' hj']
  · exact hsome j j' f g hj hj' hstep

/-- A reader of open records is steady if it is so on objects. -/
theorem steady_of_fields (harr : ∀ items, read (arr items) = none)
    (hfields : ∀ fs fs', l.FieldsStep fs fs' → read (obj fs') = read (obj fs)) :
    Steady l.AddsNull read := by
  intro j j' h
  refine ⟨h.ne_null.1, h.ne_null.2, ?_⟩
  cases h with
  | fields h => exact hfields _ _ h
  | item => rw [harr, harr]

end NodeTelemetry.Json
