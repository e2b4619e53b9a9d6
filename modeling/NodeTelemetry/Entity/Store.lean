import NodeTelemetry.MetricSet
import Std.Data.HashMap

/-!
# Entities

An entity is known by its name and its type and holds metric sets in the order in which they were
added. A store holds entities in the order of their creation and finds them by an index of their
keys.

## Main definitions

* `EntityStore.entity`: the place of the entity with a name and a type, created where it is missing.
* `EntityStore.addSet`: adds a metric set to the entity at a place.
* `EntityStore.find?`: the entity of a name and a type.
-/

namespace NodeTelemetry

/-- The identity of an entity. -/
structure EntityKey where
  name : String
  type : String
  deriving DecidableEq, Hashable, Repr

/-- Why an entity can not be created. -/
inductive EntityError where
  | missingKey
  deriving DecidableEq, Repr

/-- The wording of an error. -/
def EntityError.message : EntityError → String
  | missingKey => "entity name and type are required when defining one"

/-- The key of a name and a type, neither of which may be empty. -/
def EntityKey.ofNames (name type : String) : Except EntityError EntityKey :=
  if name = "" ∨ type = "" then .error .missingKey else .ok ⟨name, type⟩

/-- An entity with its metric sets. -/
structure Entity where
  key : EntityKey
  sets : List MetricSet

/-- The document of an entity. -/
def Entity.json (e : Entity) : Json :=
  .obj [("entity", .obj [("name", .str e.key.name), ("type", .str e.key.type)]),
    ("metrics", .arr (e.sets.map MetricSet.json))]

/-- Entities in the order of their creation, with the places of their keys. -/
structure EntityStore where
  entities : Array Entity
  index : Std.HashMap EntityKey Nat

namespace EntityStore

/-- The store without entities. -/
def empty : EntityStore := ⟨#[], ∅⟩

/-- Makes sure that there is an entity with the key. -/
def ensure (s : EntityStore) (key : EntityKey) : EntityStore :=
  if s.index.contains key then s
  else ⟨s.entities.push ⟨key, []⟩, s.index.insert key s.entities.size⟩

/-- The place of the entity with a key. -/
def place? (s : EntityStore) (key : EntityKey) : Option Nat :=
  s.index[key]?

/-- The place of the entity with a name and a type, in the store that holds it. -/
def entity (s : EntityStore) (name type : String) : Except EntityError (EntityStore × Nat) := do
  let key ← EntityKey.ofNames name type
  let s := s.ensure key
  .ok (s, (s.place? key).getD 0)

/-- Adds a metric set to the entity at a place. -/
def addSet (s : EntityStore) (place : Nat) (set : MetricSet) : EntityStore :=
  { s with entities := s.entities.modify place fun e => { e with sets := e.sets ++ [set] } }

/-- The entity with a key. -/
def findKey? (s : EntityStore) (key : EntityKey) : Option Entity :=
  (s.place? key).bind fun i => s.entities[i]?

/-- The entity with a name and a type. -/
def find? (s : EntityStore) (name type : String) : Option Entity :=
  s.findKey? ⟨name, type⟩

/-- Adds a metric set to the entity with a key, which is created where it is missing. -/
def append (s : EntityStore) (key : EntityKey) (set : MetricSet) : EntityStore :=
  let s := s.ensure key
  match s.place? key with
  | some i => s.addSet i set
  | none => s

/-- The number of entities. -/
def size (s : EntityStore) : Nat := s.entities.size

/-- The document of a store. -/
def json (s : EntityStore) : Json :=
  .arr (s.entities.toList.map Entity.json)

end EntityStore

end NodeTelemetry
