import NodeTelemetry.Text.Cut

/-!
# Punycode

A label of a host name with characters beyond ASCII is written in ASCII: first its ASCII characters, then for each
other character, in ascending order, the distance from the one before in digits of base 36. The
distance counts the insertions that are skipped, and the weights of the digits adapt to the distances
seen so far.

## Main definitions

* `Punycode.encode`: the ASCII form of a label.
* `Punycode.decode?`: the label of an ASCII form.
-/

namespace NodeTelemetry.Url.Punycode

/-- The digit of a value below 36: a letter, then the ten numerals. -/
def digit (n : Nat) : Char :=
  if n < 26 then Char.ofNat (97 + n) else Char.ofNat (22 + n)

/-- The least and greatest weight of a digit between which the bias decides. -/
def threshold (place bias : Nat) : Nat :=
  if place ≤ bias then 1 else min 26 (place - bias)

/-- A distance in digits, the least one first. -/
def distance (bias : Nat) : Nat → Nat → Nat → List Char
  | 0, _, _ => []
  | fuel + 1, place, q =>
    let t := threshold place bias
    if q < t then [digit q]
    else digit (t + (q - t) % (36 - t)) :: distance bias fuel (place + 36) ((q - t) / (36 - t))

/-- Divides a distance by 35 until it is small, counting the divisions in steps of 36. -/
def settle : Nat → Nat → Nat → Nat × Nat
  | 0, k, d => (k, d)
  | fuel + 1, k, d => if 455 < d then settle fuel (k + 36) (d / 35) else (k, d)

/-- The bias after a distance, when `count` characters are written. -/
def adapt (d count : Nat) (first : Bool) : Nat :=
  let d := if first then d / 700 else d / 2
  let (k, d) := settle 32 0 (d + d / count)
  k + 36 * d / (d + 38)

/-- The state between characters. -/
structure State where
  written : List Char
  delta : Nat
  bias : Nat
  count : Nat

/-- Passes over one character while the characters of code point `n` are written. -/
def pass (basic n : Nat) (st : State) (c : Char) : State :=
  if c.toNat < n then { st with delta := st.delta + 1 }
  else if c.toNat = n then
    ⟨st.written ++ distance st.bias 32 36 st.delta, 0,
      adapt st.delta (st.count + 1) (st.count == basic), st.count + 1⟩
  else st

/-- Writes the characters of the given code points, which ascend. -/
def passes (label : List Char) (basic : Nat) : List Nat → Nat → State → State
  | [], _, st => st
  | n :: rest, next, st =>
    let st := label.foldl (pass basic n) { st with delta := st.delta + (n - next) * (st.count + 1) }
    passes label basic rest (n + 1) { st with delta := st.delta + 1 }

/-- The ASCII form of a label. -/
def encode (label : List Char) : List Char :=
  let basic := label.filter fun c => c.toNat < 0x80
  let others := ((label.map Char.toNat).filter fun n => 0x80 ≤ n).mergeSort.eraseDups
  let head := if basic.isEmpty then [] else basic ++ ['-']
  (passes label basic.length others 0x80 ⟨head, 0, 72, basic.length⟩).written

/-! ### Reading -/

/-- The value of a digit. -/
def digitValue? (c : Char) : Option Nat :=
  if c.isDigit then some (c.toNat - '0'.toNat + 26)
  else if c.isAlpha then some (c.toLower.toNat - 'a'.toNat)
  else none

/-- The least number that no count reaches. -/
def countLimit : Nat := UInt32.size

/-- Adds the distance at the front of a row of digits, the least digit first, to a sum. It gives the digits behind
it, too. -/
def addDistance? (bias place weight sum : Nat) : List Char → Option (Nat × List Char)
  | [] => none
  | c :: rest => do
    let d ← digitValue? c
    let sum := sum + d * weight
    let t := threshold place bias
    if countLimit ≤ sum then none
    else if d < t then some (sum, rest)
    else
      let weight := weight * (36 - t)
      if countLimit ≤ weight then none else addDistance? bias (place + 36) weight sum rest

/-- Puts in the characters that distances give. The last one had the code point `n`, and `i` is the place behind
it. -/
def insertAll? : Nat → Nat → Nat → Nat → List Char → List Char → Option (List Char)
  | _, _, _, _, label, [] => some label
  | 0, _, _, _, _, _ => none
  | fuel + 1, n, i, bias, label, digits => do
    let (sum, rest) ← addDistance? bias 36 1 i digits
    let count := label.length + 1
    let n := n + sum / count
    let place := sum % count
    if n.isValidChar then
      insertAll? fuel n (place + 1) (adapt (sum - i) count (i == 0))
        (label.insertIdx place (Char.ofNat n)) rest
    else none

/-- The label of an ASCII form. -/
def decode? (s : List Char) : Option (List Char) :=
  let (basic, digits) :=
    match Text.cutAtLast '-' s with
    | some (c :: basic, digits) => (c :: basic, digits)
    | _ => ([], s)
  insertAll? digits.length 0x80 0 72 basic digits

end NodeTelemetry.Url.Punycode
