import NodeTelemetry.Cluster.Api

/-!
# Calls

Everything that the collector asks of its surroundings is a call, and a computation that makes calls is
*traced*: it has a value and the list of its calls in order.

## Main definitions

* `Call`: one question to the surroundings.
* `Traced`: a value with the calls that were made for it.
* `Lookup`: a traced computation that may fail.

## Main statements

* `Traced.calls_bind`, `Traced.value_bind`: one computation after another makes the calls of both in order.
-/

namespace NodeTelemetry

/-- One question to the surroundings. -/
inductive Call where
  /-- The API is asked for a node. -/
  | node (name : String)
  /-- The API is asked for pods. -/
  | pods (selector : Cluster.Selector)
  /-- The API is asked for services. -/
  | services (selector : Cluster.Selector)
  /-- The name service is asked for the records of a service. -/
  | srv (name : String)
  /-- The credentials of the service account are taken into use. -/
  | secureClient
  /-- A source is asked for a document. -/
  | request (url : Url)
  deriving DecidableEq, Repr

namespace Call

/-- Whether a call asks a source for a document. -/
def isRequest : Call → Bool
  | request _ => true
  | _ => false

/-- The written form of a call. -/
def text : Call → String
  | node name => "node " ++ name
  | pods selector => "pods " ++ selector.text
  | services selector => "services " ++ selector.text
  | srv name => "srv " ++ name
  | secureClient => "secure_client"
  | request url => "request " ++ url.text

end Call

/-- A value with the calls that were made for it. -/
structure Traced (α : Type) where
  value : α
  calls : List Call

namespace Traced

variable {α β : Type}

instance : Monad Traced where
  pure a := ⟨a, []⟩
  bind x f := ⟨(f x.value).value, x.calls ++ (f x.value).calls⟩

@[ext] theorem ext {x y : Traced α} (hv : x.value = y.value) (hc : x.calls = y.calls) : x = y := by
  cases x; cases y; simp_all

@[simp] theorem value_pure (a : α) : (pure a : Traced α).value = a := rfl

@[simp] theorem calls_pure (a : α) : (pure a : Traced α).calls = [] := rfl

/-- The value of one computation after another is the value of the second. -/
@[simp] theorem value_bind (x : Traced α) (f : α → Traced β) :
    (x >>= f).value = (f x.value).value := rfl

/-- One computation after another makes the calls of both in order. -/
@[simp] theorem calls_bind (x : Traced α) (f : α → Traced β) :
    (x >>= f).calls = x.calls ++ (f x.value).calls := rfl

@[simp] theorem value_map (f : α → β) (x : Traced α) : (f <$> x).value = f x.value := rfl

@[simp] theorem calls_map (f : α → β) (x : Traced α) : (f <$> x).calls = x.calls := by
  change x.calls ++ [] = x.calls
  rw [List.append_nil]

instance : LawfulMonad Traced :=
  LawfulMonad.mk' Traced (fun x => Traced.ext rfl (calls_map id x))
    (fun _ _ => Traced.ext rfl (List.nil_append _))
    (fun _ _ _ => Traced.ext rfl (List.append_assoc _ _ _))

/-- The answer to one call. -/
def answer (call : Call) (a : α) : Traced α := ⟨a, [call]⟩

@[simp] theorem value_answer (call : Call) (a : α) : (answer call a).value = a := rfl

@[simp] theorem calls_answer (call : Call) (a : α) : (answer call a).calls = [call] := rfl

end Traced

/-- A traced computation that may fail. -/
abbrev Lookup (ε : Type) := ExceptT ε Traced

namespace Lookup

variable {ε ε' α : Type}

/-- The answer to one call, which may be a failure. -/
def answer (call : Call) (a : Except ε α) : Lookup ε α :=
  ExceptT.mk (Traced.answer call a)

/-- A computation that makes no call. -/
def ofExcept (a : Except ε α) : Lookup ε α :=
  ExceptT.mk (pure a)

/-- The computation with another kind of failure. -/
def mapError (f : ε → ε') (x : Lookup ε α) : Lookup ε' α :=
  ExceptT.mk ((fun a : Except ε α => a.mapError f) <$> x.run)

end Lookup

end NodeTelemetry
