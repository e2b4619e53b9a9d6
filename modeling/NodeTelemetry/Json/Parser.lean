import NodeTelemetry.Decimal.Literal
import NodeTelemetry.Json.Basic

/-!
# Reading JSON

A strict reader: no blanks but the four of the grammar, no comma before a closing bracket, no zeros before
a number, no control characters in strings, and nothing but blanks after the value. Each step takes
characters off the front of the text and returns the rest.

`value`, `items` and `fields` count down a bound on the number of steps. Of two steps in a row at
least one takes a character, so twice the length of the text is enough, and `read?` gives that.
-/

namespace NodeTelemetry.Json

/-- The blanks between the parts of a JSON text. -/
def isBlank (c : Char) : Bool :=
  c == ' ' || c == '\t' || c == '\n' || c == '\r'

/-- Drops the blanks at the front. -/
def skipBlanks (s : List Char) : List Char :=
  s.dropWhile isBlank

/-! ### Strings -/

/-- The value of a hexadecimal digit. -/
def hexValue? (c : Char) : Option Nat :=
  if '0' ≤ c && c ≤ '9' then some (c.toNat - '0'.toNat)
  else if 'a' ≤ c && c ≤ 'f' then some (c.toNat - 'a'.toNat + 10)
  else if 'A' ≤ c && c ≤ 'F' then some (c.toNat - 'A'.toNat + 10)
  else none

/-- The number that four hexadecimal digits spell. -/
def hexUnit? (a b c d : Char) : Option Nat := do
  let a ← hexValue? a
  let b ← hexValue? b
  let c ← hexValue? c
  let d ← hexValue? d
  some (a * 4096 + b * 256 + c * 16 + d)

/-- The character that a letter behind a backslash stands for. -/
def escape? (c : Char) : Option Char :=
  match c with
  | '"' => some '"'
  | '\\' => some '\\'
  | '/' => some '/'
  | 'b' => some '\x08'
  | 'f' => some '\x0c'
  | 'n' => some '\n'
  | 'r' => some '\r'
  | 't' => some '\t'
  | _ => none

/-- Whether a unit is the first half of a surrogate pair. -/
def isLead (n : Nat) : Bool := 0xD800 ≤ n && n < 0xDC00

/-- Whether a unit is the second half of a surrogate pair. -/
def isTrail (n : Nat) : Bool := 0xDC00 ≤ n && n < 0xE000

/-- Puts a character before the content of a string. -/
def push (c : Char) (r : Option (List Char) × List Char) : Option (List Char) × List Char :=
  (r.1.map (c :: ·), r.2)

/-- Reads a string up to its closing quote: its content, which is missing when half of a surrogate pair
stands alone in it, and the rest after the quote. -/
def stringRest : List Char → Option (Option (List Char) × List Char)
  | [] => none
  | '"' :: rest => some (some [], rest)
  | '\\' :: 'u' :: a :: b :: c :: d :: '\\' :: 'u' :: e :: f :: g :: h :: rest =>
    match hexUnit? a b c d, hexUnit? e f g h with
    | some lead, some trail =>
      if isLead lead && isTrail trail then
        (stringRest rest).map
          (push (Char.ofNat (0x10000 + (lead - 0xD800) * 1024 + (trail - 0xDC00))))
      else
        (stringRest ('\\' :: 'u' :: e :: f :: g :: h :: rest)).map fun r =>
          if isLead lead || isTrail lead then (none, r.2) else push (Char.ofNat lead) r
    | _, _ => none
  | '\\' :: 'u' :: a :: b :: c :: d :: rest =>
    match hexUnit? a b c d with
    | some n =>
      (stringRest rest).map fun r =>
        if isLead n || isTrail n then (none, r.2) else push (Char.ofNat n) r
    | none => none
  | '\\' :: c :: rest =>
    match escape? c with
    | some d => (stringRest rest).map (push d)
    | none => none
  | c :: rest =>
    if c.toNat < 0x20 || c = '\\' then none else (stringRest rest).map (push c)
termination_by s => s.length

/-! ### Numbers -/

/-- The whole part of a number: a zero, or digits that do not begin with one. -/
def wholePart : List Char → Option (List Char × List Char)
  | '0' :: rest => some (['0'], rest)
  | s =>
    let digits := s.takeWhile Char.isDigit
    if digits = [] then none else some (digits, s.dropWhile Char.isDigit)

/-- The fraction of a number, if there is a point. -/
def fractionPart : List Char → Option (Option (List Char) × List Char)
  | '.' :: rest =>
    let digits := rest.takeWhile Char.isDigit
    if digits = [] then none else some (some digits, rest.dropWhile Char.isDigit)
  | s => some (none, s)

/-- The exponent of a number, if there is the letter for it. -/
def exponentPart : List Char → Option (Option Int × List Char)
  | [] => some (none, [])
  | c :: rest =>
    if c = 'e' || c = 'E' then
      let (negative, body) := Decimal.Literal.cutSign rest
      let digits := body.takeWhile Char.isDigit
      let n : Int := Decimal.digitsValue digits
      if digits = [] then none
      else some (some (if negative then -n else n), body.dropWhile Char.isDigit)
    else some (none, c :: rest)

/-- The value of a number: exact where it is a whole number of 64 bits, with the zero behind a minus
a double. -/
def numberValue (negative : Bool) (whole : List Char) (fraction : Option (List Char))
    (exponent : Option Int) : Json :=
  let n := Decimal.digitsValue whole
  let isWhole := fraction.isNone && exponent.isNone
  if isWhole && !negative && n < UInt64.size then int n
  else if isWhole && negative && 0 < n && n ≤ UInt64.size / 2 then int (-(n : Int))
  else
    let tail := fraction.getD []
    let x := (Decimal.Literal.decimal negative (Decimal.digitsValue (whole ++ tail))
      (exponent.getD 0 - tail.length)).value
    if x.isInf then unreadable else float x

/-- Reads a number. -/
def number (s : List Char) : Option (Json × List Char) := do
  let (negative, body) :=
    match s with
    | '-' :: rest => (true, rest)
    | rest => (false, rest)
  let (whole, rest) ← wholePart body
  let (fraction, rest) ← fractionPart rest
  let (exponent, rest) ← exponentPart rest
  some (numberValue negative whole fraction exponent, rest)

/-! ### Values -/

/-- The object of fields that are all readable by their keys. -/
def ofFields (fields : List (Option (List Char) × Json)) : Json :=
  match fields.mapM fun f => f.1.map fun key => (String.ofList key, f.2) with
  | some fields => obj fields
  | none => unreadable

mutual

/-- Reads a value after the blanks before it. -/
def value : Nat → List Char → Option (Json × List Char)
  | 0, _ => none
  | fuel + 1, s =>
    match skipBlanks s with
    | 'n' :: 'u' :: 'l' :: 'l' :: rest => some (null, rest)
    | 't' :: 'r' :: 'u' :: 'e' :: rest => some (bool true, rest)
    | 'f' :: 'a' :: 'l' :: 's' :: 'e' :: rest => some (bool false, rest)
    | '"' :: rest =>
      (stringRest rest).map fun (content, rest) =>
        (match content with
          | some cs => str (String.ofList cs)
          | none => unreadable, rest)
    | '[' :: rest =>
      match skipBlanks rest with
      | ']' :: rest => some (arr [], rest)
      | rest => (items fuel rest).map fun (js, rest) => (arr js, rest)
    | '\x7b' :: rest =>
      match skipBlanks rest with
      | '\x7d' :: rest => some (obj [], rest)
      | rest => (fields fuel rest).map fun (fs, rest) => (ofFields fs, rest)
    | rest => number rest

/-- Reads the values of a list up to its closing bracket; there is at least one. -/
def items : Nat → List Char → Option (List Json × List Char)
  | 0, _ => none
  | fuel + 1, s =>
    match value fuel s with
    | none => none
    | some (j, rest) =>
      match skipBlanks rest with
      | ',' :: rest => (items fuel rest).map fun (js, rest) => (j :: js, rest)
      | ']' :: rest => some ([j], rest)
      | _ => none

/-- Reads the fields of an object up to its closing brace; there is at least one. -/
def fields : Nat → List Char → Option (List (Option (List Char) × Json) × List Char)
  | 0, _ => none
  | fuel + 1, s =>
    match skipBlanks s with
    | '"' :: rest =>
      match stringRest rest with
      | none => none
      | some (key, rest) =>
        match skipBlanks rest with
        | ':' :: rest =>
          match value fuel rest with
          | none => none
          | some (j, rest) =>
            match skipBlanks rest with
            | ',' :: rest =>
              (fields fuel rest).map fun (fs, rest) => ((key, j) :: fs, rest)
            | '\x7d' :: rest => some ([(key, j)], rest)
            | _ => none
        | _ => none
    | _ => none

end

/-- The value of a text that holds one JSON value and blanks around it. -/
def read? (s : List Char) : Option Json :=
  match value (2 * s.length + 1) s with
  | some (j, rest) => if skipBlanks rest = [] then some j else none
  | none => none

end NodeTelemetry.Json
