/-!
# Lengths of time

How long a question to the network may stay open, in milliseconds, and how long what is kept counts, in nanoseconds.
-/

namespace NodeTelemetry.Time

/-- A length of time. -/
structure Span where
  millis : Nat
  deriving DecidableEq, Repr

namespace Span

/-- The span of a number of seconds. -/
def ofSeconds (n : Nat) : Span := ⟨1000 * n⟩

/-- Three digits after the point, without the zeros at their end. -/
def fractionText (millis : Nat) : String :=
  let digits := (toString (1000 + millis % 1000)).toList.drop 1
  match (digits.reverse.dropWhile (· = '0')).reverse with
  | [] => ""
  | kept => "." ++ String.ofList kept

/-- The written form: seconds with the fraction that they need, milliseconds below one second, and no time
at all in nanoseconds. -/
def text (s : Span) : String :=
  if s.millis = 0 then "0ns"
  else if s.millis < 1000 then toString s.millis ++ "ms"
  else toString (s.millis / 1000) ++ fractionText s.millis ++ "s"

end Span

/-- How long something that is kept counts. -/
structure Lifetime where
  nanos : Nat
  deriving DecidableEq, Repr

namespace Lifetime

/-- The lifetime of a number of seconds. -/
def ofSeconds (n : Nat) : Lifetime := ⟨1000000000 * n⟩

/-- A number that stands for a lifetime counts seconds. -/
instance : Coe Nat Lifetime := ⟨ofSeconds⟩

end Lifetime

end NodeTelemetry.Time
