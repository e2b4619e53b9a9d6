/-!
# JSON values

A JSON value with the fields of objects in the order they are written. Whole numbers are exact;
a number with a fraction or an exponent, or a whole number of more than 64 bits, is a double.

`unreadable` stands for a text that follows the grammar but has no value: a string with half of a
surrogate pair, a number beyond the doubles, or an object with such a key. A reader that skips a field
may skip it; no reader gets anything out of it.
-/

namespace NodeTelemetry

/-- A JSON value. -/
inductive Json where
  | null
  | bool (b : Bool)
  | int (n : Int)
  | float (x : Float)
  | str (s : String)
  | arr (items : List Json)
  | obj (fields : List (String × Json))
  | unreadable

namespace Json

instance : Inhabited Json := ⟨null⟩

mutual

/-- How many lists and objects lie around the deepest value. -/
def depth : Json → Nat
  | arr items => depthItems items + 1
  | obj fields => depthFields fields + 1
  | _ => 0

/-- The greatest depth of a list of values. -/
def depthItems : List Json → Nat
  | [] => 0
  | j :: rest => max j.depth (depthItems rest)

/-- The greatest depth of the values of fields. -/
def depthFields : List (String × Json) → Nat
  | [] => 0
  | (_, j) :: rest => max j.depth (depthFields rest)

end

mutual

/-- Whether every part of the value can be read. -/
def isReadable : Json → Bool
  | arr items => areReadable items
  | obj fields => fieldsReadable fields
  | unreadable => false
  | _ => true

/-- Whether every value of a list can be read. -/
def areReadable : List Json → Bool
  | [] => true
  | j :: rest => j.isReadable && areReadable rest

/-- Whether the value of every field can be read. -/
def fieldsReadable : List (String × Json) → Bool
  | [] => true
  | (_, j) :: rest => j.isReadable && fieldsReadable rest

end

end Json

end NodeTelemetry
