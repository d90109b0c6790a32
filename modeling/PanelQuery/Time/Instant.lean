import PanelQuery.Time.Calendar

/-!
# Time - instants and spans

Instants count seconds from the beginning of 1970, without leap seconds; a leap second is the second
before it with a thousand million nanoseconds more.  Instants reach from the year -262143 to the
year 262142.  Spans are whole seconds, at most `2 ^ 63 - 1` milliseconds either way.

Main results:

- `Instant.minus?_eq_some`: going back by a span keeps the nanoseconds, and the seconds differ by
  the span.
-/

namespace PanelQuery
namespace Time

/-- A point in time. -/
structure Instant where
  second : Int
  nano : Nat
deriving DecidableEq, Repr

namespace Instant

/-- Seconds in a day. -/
def secondsInDay : Int := 86400

/-- The first second that is an instant: the beginning of the year -262143. -/
def firstSecond : Int := -8334601228800

/-- The last second that is an instant: the end of the year 262142. -/
def lastSecond : Int := 8210266876799

/-- The earliest instant. -/
def earliest : Instant := ⟨firstSecond, 0⟩

/-- Whether a second lies between the first and the last one. -/
def inReach (second : Int) : Bool :=
  firstSecond ≤ second && second ≤ lastSecond

/-- The instant of a second and nanoseconds, if there is one.  A thousand million nanoseconds and
more are a leap second, and that only follows a second 59. -/
def ofUnix? (second : Int) (nano : Nat) : Option Instant :=
  if inReach second && (nano < 1000000000 || (nano < 2000000000 && second % 60 == 59)) then
    some ⟨second, nano⟩
  else none

end Instant

/-- A length of time in whole seconds, forward or backward. -/
structure Span where
  seconds : Int
deriving DecidableEq, Repr

/-- The most milliseconds that a span may have. -/
def Span.greatestMillis : Int := 9223372036854775807

/-- The span of a number of seconds, if it is not too long. -/
def Span.ofSeconds? (seconds : Int) : Option Span :=
  if (seconds * 1000).natAbs ≤ Span.greatestMillis.natAbs then some ⟨seconds⟩ else none

/-- The instant a span before another, if there is one. -/
def Instant.minus? (t : Instant) (s : Span) : Option Instant :=
  if inReach (t.second - s.seconds) then some ⟨t.second - s.seconds, t.nano⟩ else none

/-- Going back by a span keeps the nanoseconds, and the seconds differ by the span. -/
theorem Instant.minus?_eq_some {t u : Instant} {s : Span} :
    t.minus? s = some u ↔
      Instant.inReach (t.second - s.seconds) = true ∧ u = ⟨t.second - s.seconds, t.nano⟩ := by
  unfold Instant.minus?
  split
  · rename_i h
    simp only [Option.some.injEq, h, true_and]
    exact eq_comm
  · rename_i h
    simp [h]

end Time
end PanelQuery
