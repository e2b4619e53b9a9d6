import NodeTelemetry.Json.Basic

/-!
# Reading records out of JSON

A record is read from an object by the names of its fields. There are two conventions. In a *strict*
record no known field may occur twice, and the record may also be written as the list of its values in
the order of its fields. In an *open* record the last of several fields of one name counts, `null` is the
same as no field, and only an object is a record.

In both, unknown fields are skipped, and a value of the wrong kind is a failure, which is `none`.
-/

namespace NodeTelemetry.Json

/-- The text of a string. -/
def asText? : Json → Option String
  | str s => some s
  | _ => none

/-- The truth value of a boolean. -/
def asBool? : Json → Option Bool
  | bool b => some b
  | _ => none

/-- The values of a list. -/
def asItems? : Json → Option (List Json)
  | arr items => some items
  | _ => none

/-- The fields of an object. -/
def asFields? : Json → Option (List (String × Json))
  | obj fields => some fields
  | _ => none

/-- A whole number of 64 bits without sign, written without fraction and exponent. -/
def asUInt64? : Json → Option UInt64
  | int n => if 0 ≤ n && n < UInt64.size then some (UInt64.ofNat n.toNat) else none
  | _ => none

/-- A whole number of 32 bits with sign, written without fraction and exponent. -/
def asInt32? : Json → Option Int32
  | int n => if Int32.minValue.toInt ≤ n && n ≤ Int32.maxValue.toInt then some (Int32.ofInt n) else none
  | _ => none

/-- How many lists and objects may lie in each other. -/
def depthLimit : Nat := 127

/-- The value itself, when every part of it can be read and it is not too deep. -/
def asValue? (j : Json) : Option Json :=
  if j.isReadable && j.depth ≤ depthLimit then some j else none

/-- A value that may be `null`. -/
def nullable {α : Type} (read : Json → Option α) : Json → Option (Option α)
  | null => some none
  | j => (read j).map some

/-! ### Strict records -/

/-- The values of the fields with the given names, in their order: from an object without two fields
of one of these names, or from a list of at least `least` and at most as many values as there are
names. -/
def strictRecord (names : List String) (least : Nat) (j : Json) : Option (List (Option Json)) :=
  match j with
  | obj fields =>
    if names.all fun name => (fields.filter fun f => f.1 == name).length ≤ 1 then
      some (names.map fun name => fields.lookup name)
    else none
  | arr items =>
    if least ≤ items.length && items.length ≤ names.length then
      some (items.map some ++ List.replicate (names.length - items.length) none)
    else none
  | _ => none

/-- The value of a field that has to be there. -/
def required {α : Type} (read : Json → Option α) (field : Option Json) : Option α :=
  field.bind read

/-- The value of a field that may be missing but not `null`. -/
def defaulted {α : Type} (d : α) (read : Json → Option α) : Option Json → Option α
  | none => some d
  | some j => read j

/-- The value of a field that may be missing or `null`. -/
def optional {α : Type} (read : Json → Option α) : Option Json → Option (Option α)
  | none => some none
  | some j => nullable read j

/-! ### Open records -/

/-- The last field of a name, unless it is `null`. -/
def lastField (name : String) (fields : List (String × Json)) : Option Json :=
  match fields.reverse.lookup name with
  | some null => none
  | field => field

/-- The value of a field, if it is there. -/
def field? {α : Type} (name : String) (read : Json → Option α) (fields : List (String × Json)) :
    Option (Option α) :=
  match lastField name fields with
  | none => some none
  | some j => (read j).map some

/-- The value of a field, or `d` where there is none. -/
def fieldD {α : Type} (name : String) (d : α) (read : Json → Option α)
    (fields : List (String × Json)) : Option α :=
  (field? name read fields).map (·.getD d)

/-- The values of a list, each read in the same way. -/
def asListOf? {α : Type} (read : Json → Option α) (j : Json) : Option (List α) :=
  j.asItems?.bind fun items => items.mapM read

/-- The fields of an object as pairs of name and value, each value read in the same way. -/
def asPairsOf? {α : Type} (read : Json → Option α) (j : Json) : Option (List (String × α)) :=
  j.asFields?.bind fun fields => fields.mapM fun f => (read f.2).map fun x => (f.1, x)

end NodeTelemetry.Json
