import NodeTelemetry.Text.Blank
import NodeTelemetry.Text.Cut

/-!
# Tables of code points

A property of characters is written down as words with blanks between them. A word names the code points that
it is about, and then, behind a colon, the values that belong to them. All numbers are hexadecimal.

* `AD` is one code point, `300-36F` a range, and `100-12E/2` every second one of a range.
* `B2:32` gives one value and `BC:31,2044,34` several, with commas between them.

## Main definitions

* `Row`: what one word says.
* `Table.read`: the rows of a table.
* `Table.row?`: the row for a code point.
-/

namespace NodeTelemetry.Text

/-- Some code points and the values that belong to them. -/
structure Row where
  first : Nat
  last : Nat
  /-- The distance from one of the code points to the next. -/
  step : Nat
  values : List Nat
  deriving DecidableEq, Repr

/-- Whether a row is about a code point. -/
def Row.holds (r : Row) (n : Nat) : Bool :=
  r.first ≤ n && n ≤ r.last && (n - r.first) % r.step == 0

namespace Table

/-- The number that hexadecimal digits spell. -/
def number (digits : List Char) : Nat :=
  digits.foldl (fun n c => 16 * n + if c.isDigit then c.toNat - 48 else c.toNat - 55) 0

/-- The words of a text. -/
def words (s : List Char) : List (List Char) :=
  let put (c : Char) (ws : List (List Char)) : List (List Char) :=
    if isBlank c then [] :: ws
    else
      match ws with
      | w :: rest => (c :: w) :: rest
      | [] => [[c]]
  (s.foldr put [[]]).filter fun w => !w.isEmpty

/-- The part of a word before a mark, and the part behind it if there is one. -/
def cut (mark : Char) (word : List Char) : List Char × Option (List Char) :=
  match cutAtFirst mark word with
  | some (before, after) => (before, some after)
  | none => (word, none)

/-- What a word says. -/
def row (word : List Char) : Row :=
  let (place, values) := cut ':' word
  let (range, step) := cut '/' place
  let (first, last) := cut '-' range
  { first := number first
    last := number (last.getD first)
    step := (step.map number).getD 1
    values := ((values.map (pieces ',')).getD []).map number }

/-- The rows of a table. -/
def read (text : String) : List Row :=
  (words text.toList).map row

/-- The row for a code point, if there is one. -/
def row? (rows : List Row) (n : Nat) : Option Row :=
  rows.find? fun r => r.holds n

/-- Whether a table is about a code point. -/
def holds (rows : List Row) (n : Nat) : Bool :=
  rows.any fun r => r.holds n

end Table

end NodeTelemetry.Text
