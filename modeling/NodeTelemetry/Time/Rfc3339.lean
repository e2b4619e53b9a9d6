import NodeTelemetry.Decimal.Literal
import NodeTelemetry.Decimal.Power
import NodeTelemetry.Text.Blank
import NodeTelemetry.Time.Instant

/-!
# Timestamps as text

Timestamps are written as a date, a time of day and a zone. The fraction of the second has none, three,
six or nine digits, the fewest that are exact; a leap second is written as second 60; years outside
of 0 to 9999 have a sign.

The reader accepts more than the writer produces: blanks before the numbers and separators,
numbers with fewer digits, a year of any length behind a sign, any number of fraction digits, a
space for the letter between date and time, and zones as `Z`, as `UTC` or as an offset.

## Main definitions

* `Instant.text`: the written form.
* `Instant.read?`: the instant that a text gives.
-/

namespace NodeTelemetry.Time

/-- A number with zeros before it up to a width. -/
def padded (width n : Nat) : List Char :=
  let digits := (toString n).toList
  List.replicate (width - digits.length) '0' ++ digits

/-- A year: four digits from 0 to 9999, otherwise a sign and at least four digits. -/
def yearText (year : Int) : List Char :=
  if 0 ≤ year && year ≤ 9999 then padded 4 year.natAbs
  else (if year < 0 then '-' else '+') :: padded 4 year.natAbs

/-- The fraction of a second, with its point, in the fewest digits of 0, 3, 6 and 9. -/
def fractionText (nanos : Nat) : List Char :=
  if nanos = 0 then []
  else if nanos % 1000000 = 0 then '.' :: padded 3 (nanos / 1000000)
  else if nanos % 1000 = 0 then '.' :: padded 6 (nanos / 1000)
  else '.' :: padded 9 nanos

namespace Instant

/-- The written form of an instant in UTC, with the given text for the zone. -/
def text (zone : String) (t : Instant) : String :=
  let date := Date.ofDays (Int.fdiv t.seconds 86400)
  let ofDay := t.secondOfDay.toNat
  let second := ofDay % 60 + if t.isLeap then 1 else 0
  let nanos := t.nanos % nanosPerSecond
  String.ofList (yearText date.year ++ '-' :: padded 2 date.month ++ '-' :: padded 2 date.day ++
    'T' :: padded 2 (ofDay / 3600) ++ ':' :: padded 2 (ofDay / 60 % 60) ++
    ':' :: padded 2 second ++ fractionText nanos ++ zone.toList)

end Instant

/-! ### Reading -/

/-- At most `width` digits, at least one, as a number, and the rest. -/
def readDigits (width : Nat) (s : List Char) : Option (Nat × List Char) :=
  let digits := (s.take width).takeWhile Char.isDigit
  if digits = [] then none
  else some (Decimal.digitsValue digits, s.drop digits.length)

/-- A year: blanks, then up to four digits, or a sign and any number of digits. -/
def readYear (s : List Char) : Option (Int × List Char) :=
  match Text.trimStart s with
  | '-' :: rest => (readDigits rest.length rest).map fun (n, r) => (-(n : Int), r)
  | '+' :: rest => (readDigits rest.length rest).map fun (n, r) => ((n : Int), r)
  | rest => (readDigits 4 rest).map fun (n, r) => ((n : Int), r)

/-- Blanks, then a number of one or two digits that is at least `low` and at most `high`. -/
def readField (low high : Nat) (s : List Char) : Option (Nat × List Char) := do
  let (n, rest) ← readDigits 2 (Text.trimStart s)
  if low ≤ n && n ≤ high then some (n, rest) else none

/-- Blanks, then the given character. -/
def readMark (mark : Char) (s : List Char) : Option (List Char) :=
  match Text.trimStart s with
  | c :: rest => if c = mark then some rest else none
  | [] => none

/-- The nanoseconds of a fraction: nothing, or a point and digits, of which nine count. -/
def readFraction (s : List Char) : Option (Nat × List Char) :=
  match s with
  | '.' :: rest => do
    let (n, after) ← readDigits 9 rest
    let width := rest.length - after.length
    some (n * Decimal.tenTo (9 - width), after.dropWhile Char.isDigit)
  | _ => some (0, s)

/-- Exactly two digits as a number. -/
def readPair : List Char → Option (Nat × List Char)
  | a :: b :: rest =>
    if a.isDigit && b.isDigit then some (Decimal.digitsValue [a, b], rest) else none
  | _ => none

/-- The seconds that a zone is ahead of UTC: `Z` or `UTC` in letters of any case, or a sign, two digits of
hours and two of minutes, with colons and blanks between them. -/
def readZone (s : List Char) : Option (Int × List Char) :=
  if String.ofList ((s.take 3).map Char.toUpper) = "UTC" then some (0, s.drop 3)
  else
    let offset (negative : Bool) (rest : List Char) : Option (Int × List Char) := do
      let (hours, rest) ← readPair rest
      let (minutes, rest) ← readPair (rest.dropWhile fun c => c = ':' || Text.isBlank c)
      if minutes < 60 then
        let ahead : Int := hours * 3600 + minutes * 60
        some (if negative then -ahead else ahead, rest)
      else none
    match s with
    | 'Z' :: rest | 'z' :: rest => some (0, rest)
    | '+' :: rest => offset false rest
    | '-' :: rest | '\u2212' :: rest => offset true rest
    | _ => none

/-- The first and the last year of dates that can be represented. -/
def yearRange : Int × Int := (-262143, 262142)

namespace Instant

/-- The first and the last instant that can be represented. -/
def range : Int × Int :=
  (Date.toDays ⟨yearRange.1, 1, 1⟩ * 86400, Date.toDays ⟨yearRange.2, 12, 31⟩ * 86400 + 86399)

/-- The instant that a text gives. Second 60 is the leap second after second 59. -/
def read? (s : String) : Option Instant := do
  let (year, rest) ← readYear s.toList
  let rest ← readMark '-' rest
  let (month, rest) ← readField 1 12 rest
  let rest ← readMark '-' rest
  let (day, rest) ← readField 1 31 rest
  let rest ←
    match rest with
    | c :: rest => if c = 'T' || c = 't' || c = ' ' then some rest else none
    | [] => none
  let (hour, rest) ← readField 0 23 rest
  let rest ← readMark ':' rest
  let (minute, rest) ← readField 0 59 rest
  let rest ← readMark ':' rest
  let (second, rest) ← readField 0 60 rest
  let (nanos, rest) ← readFraction rest
  let (ahead, rest) ← readZone (Text.trimStart rest)
  let date : Date := ⟨year, month, day⟩
  let leap := second = 60
  let seconds := date.toDays * 86400 +
    (hour * 3600 + minute * 60 + (if leap then 59 else second) : Nat) - ahead
  if Text.trimStart rest = [] && date.isValid && yearRange.1 ≤ year && year ≤ yearRange.2 &&
      ahead.natAbs < 86400 && range.1 ≤ seconds && seconds ≤ range.2 then
    some ⟨seconds, nanos + if leap then nanosPerSecond else 0⟩
  else none

end Instant

end NodeTelemetry.Time
