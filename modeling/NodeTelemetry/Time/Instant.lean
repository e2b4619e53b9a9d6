import NodeTelemetry.Time.Civil

/-!
# Instants

An instant is a count of seconds since the start of 1970 in UTC and a count of nanoseconds. The
nanoseconds reach past one second only in a leap second, which is counted with the second
before it.

## Main definitions

* `Instant.since`: the signed time between two instants in nanoseconds.
-/

namespace NodeTelemetry.Time

/-- A point in time. -/
structure Instant where
  /-- Whole seconds since the start of 1970. -/
  seconds : Int
  /-- Nanoseconds into the second, from `10 ^ 9` on in the leap second that follows it. -/
  nanos : Nat
  deriving DecidableEq, Repr

namespace Instant

/-- The nanoseconds of a second. -/
def nanosPerSecond : Nat := 1000000000

/-- The second of the day, from 0 to 86399. -/
def secondOfDay (t : Instant) : Int :=
  Int.fmod t.seconds 86400

/-- Whether the instant lies in a leap second. -/
def isLeap (t : Instant) : Bool :=
  nanosPerSecond ≤ t.nanos

/-- The leap second that a difference of times of day still has to count: the one of the earlier
time of day, when the other lies behind it. -/
def leapAdjustment (a b : Instant) : Int :=
  if b.secondOfDay < a.secondOfDay then (if b.isLeap then 1 else 0)
  else if a.secondOfDay < b.secondOfDay then (if a.isLeap then -1 else 0)
  else 0

/-- The nanoseconds from `b` to `a`, negative when `b` is the later one. -/
def since (a b : Instant) : Int :=
  (a.seconds - b.seconds + leapAdjustment a b) * nanosPerSecond + ((a.nanos : Int) - b.nanos)

end Instant

end NodeTelemetry.Time
