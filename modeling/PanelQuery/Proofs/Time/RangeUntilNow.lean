import PanelQuery.Command.Run
import PanelQuery.Proofs.Time.WrittenDurations

/-!
# Time - ranges that end now

The command line asks for the time up to now by a written duration.  Such a range goes back from now
by the duration, but not beyond the earliest instant, and it runs forward unless the duration is
negative.

Main results:

- `TimeRange.nanoseconds_start_last`: where the range begins, as a number.
- `Command.rangeOf_spans_back`: the range of a written duration.
- `Command.rangeOf_backward`: a negative duration gives a range that runs backward.
-/

namespace PanelQuery

namespace Time

namespace Instant

/-- The latest instant. -/
def latest : Instant := ⟨lastSecond, 999999999⟩

/-- The nanoseconds from the beginning of 1970 to an instant outside leap seconds. -/
def nanoseconds (t : Instant) : Int :=
  t.second * 1000000000 + t.nano

/-- What a clock can show: an instant in reach; clocks do not show leap seconds. -/
structure IsClockTime (t : Instant) : Prop where
  inReach : Instant.inReach t.second = true
  nano_lt : t.nano < 1000000000

theorem inReach_iff {second : Int} :
    inReach second = true ↔ firstSecond ≤ second ∧ second ≤ lastSecond := by
  simp [inReach]

theorem nanoseconds_earliest : earliest.nanoseconds = firstSecond * 1000000000 := by
  simp [nanoseconds, earliest]

theorem nanoseconds_latest : latest.nanoseconds = lastSecond * 1000000000 + 999999999 := by
  simp [nanoseconds, latest]

end Instant

/-- The nanoseconds of a span. -/
def Span.nanoseconds (s : Span) : Int :=
  s.seconds * 1000000000

open Instant

/-- Whether there is an instant a span before one that a clock shows can be told from the
nanoseconds. -/
theorem Instant.IsClockTime.inReach_sub_iff {now : Instant} (hnow : now.IsClockTime)
    (length : Span) :
    Instant.inReach (now.second - length.seconds) = true ↔
      earliest.nanoseconds ≤ now.nanoseconds - length.nanoseconds ∧
        now.nanoseconds - length.nanoseconds ≤ latest.nanoseconds := by
  have hnano := hnow.nano_lt
  rw [inReach_iff, nanoseconds_earliest, nanoseconds_latest, Instant.nanoseconds,
    Span.nanoseconds]
  omega

end Time

open Time Time.Instant

namespace TimeRange

/-- A range ends at an instant and goes back from there by a span; where there is no instant that
early, it begins at the earliest one. -/
structure SpansBack (r : TimeRange) (now : Instant) (length : Span) : Prop where
  stop : r.stop = now
  spans : earliest.nanoseconds ≤ now.nanoseconds - length.nanoseconds →
    r.stop.nanoseconds - r.start.nanoseconds = length.nanoseconds
  clamped : now.nanoseconds - length.nanoseconds < earliest.nanoseconds → r.start = earliest

/-- A range does not end before it begins. -/
def RunsForward (r : TimeRange) : Prop :=
  r.start.nanoseconds ≤ r.stop.nanoseconds

section

variable {now : Instant} {length : Span}

theorem stop_last (now : Instant) (length : Span) : (last now length).stop = now :=
  rfl

/-- A range that would begin too early begins at the earliest instant. -/
theorem start_last_of_early (hnow : now.IsClockTime)
    (hearly : now.nanoseconds - length.nanoseconds < earliest.nanoseconds) :
    (last now length).start = earliest := by
  have hout : ¬ inReach (now.second - length.seconds) = true := by
    rw [hnow.inReach_sub_iff]
    omega
  rw [last_from, Instant.minus?, if_neg hout, Option.getD_none]

/-- A range that would not begin too late begins a span before now, or at the earliest instant if
that is later. -/
theorem nanoseconds_start_last (hnow : now.IsClockTime)
    (hlate : now.nanoseconds - length.nanoseconds ≤ latest.nanoseconds) :
    (last now length).start.nanoseconds =
      max earliest.nanoseconds (now.nanoseconds - length.nanoseconds) := by
  by_cases hearly : now.nanoseconds - length.nanoseconds < earliest.nanoseconds
  · rw [start_last_of_early hnow hearly]
    omega
  · -- Neither too early nor too late, so the fallback for both is not needed.
    have hin : inReach (now.second - length.seconds) = true := by
      rw [hnow.inReach_sub_iff]
      omega
    have hstart : (last now length).start.nanoseconds = now.nanoseconds - length.nanoseconds := by
      rw [last_from, Instant.minus?, if_pos hin, Option.getD_some]
      simp only [Instant.nanoseconds, Span.nanoseconds]
      omega
    omega

theorem spansBack_last (hnow : now.IsClockTime)
    (hlate : now.nanoseconds - length.nanoseconds ≤ latest.nanoseconds) :
    (last now length).SpansBack now length where
  stop := stop_last now length
  spans hreached := by
    have hstart := nanoseconds_start_last hnow hlate
    rw [stop_last]
    omega
  clamped := start_last_of_early hnow

/-- A span that is not negative leads to no instant that is too late. -/
theorem le_latest_of_nonneg (hnow : now.IsClockTime) (hlength : 0 ≤ length.seconds) :
    now.nanoseconds - length.nanoseconds ≤ latest.nanoseconds := by
  have hnano := hnow.nano_lt
  have hreach := inReach_iff.1 hnow.inReach
  rw [nanoseconds_latest, Instant.nanoseconds, Span.nanoseconds]
  omega

theorem earliest_le_of_isClockTime (hnow : now.IsClockTime) :
    earliest.nanoseconds ≤ now.nanoseconds := by
  have hreach := inReach_iff.1 hnow.inReach
  rw [nanoseconds_earliest, Instant.nanoseconds]
  omega

theorem runsForward_last (hnow : now.IsClockTime) (hlength : 0 ≤ length.seconds) :
    (last now length).RunsForward := by
  have hstart := nanoseconds_start_last hnow (le_latest_of_nonneg hnow hlength)
  have hearliest := earliest_le_of_isClockTime hnow
  have hback : 0 ≤ length.nanoseconds := by
    rw [Span.nanoseconds]
    omega
  rw [RunsForward, stop_last]
  omega

/-- The longer of two spans leads to no later beginning. -/
theorem nanoseconds_start_last_anti {longer : Span} (hnow : now.IsClockTime)
    (hlate : now.nanoseconds - length.nanoseconds ≤ latest.nanoseconds)
    (hlonger : length.seconds ≤ longer.seconds) :
    (last now longer).start.nanoseconds ≤ (last now length).start.nanoseconds := by
  have hback : length.nanoseconds ≤ longer.nanoseconds := by
    rw [Span.nanoseconds, Span.nanoseconds]
    omega
  have hstart := nanoseconds_start_last hnow hlate
  have hstart' : (last now longer).start.nanoseconds =
      max earliest.nanoseconds (now.nanoseconds - longer.nanoseconds) :=
    nanoseconds_start_last hnow (by omega)
  omega

end

end TimeRange

namespace Command

open TimeRange

theorem rangeOf_of_parse (now : Instant) {text : String} {length : Span}
    (h : Span.parse text = .ok length) : rangeOf now text = .ok (last now length) := by
  rw [rangeOf, h]

/-- Every written duration gives a range that ends now.  It goes back from now by the duration, or
to the earliest instant if there is none so far back, as long as the duration does not lead past the
latest instant; and one that is not negative never does, and gives a range that runs forward.  Of
two durations the longer does not give the later beginning, unless the shorter leads past the latest
instant. -/
theorem rangeOf_spans_back {now : Instant} (hnow : now.IsClockTime) :
    (∀ text length, Span.parse text = .ok length →
      ∃ r, rangeOf now text = .ok r ∧ r.stop = now ∧
        (now.nanoseconds - length.nanoseconds ≤ latest.nanoseconds → r.SpansBack now length) ∧
        (0 ≤ length.seconds → r.SpansBack now length ∧ r.RunsForward)) ∧
      ∀ text text' length longer, Span.parse text = .ok length → Span.parse text' = .ok longer →
        length.seconds ≤ longer.seconds →
        now.nanoseconds - length.nanoseconds ≤ latest.nanoseconds →
        ∃ r r', rangeOf now text = .ok r ∧ rangeOf now text' = .ok r' ∧
          r'.start.nanoseconds ≤ r.start.nanoseconds := by
  constructor
  · intro text length hparse
    refine ⟨last now length, rangeOf_of_parse now hparse, stop_last now length,
      spansBack_last hnow, ?_⟩
    intro hlength
    exact ⟨spansBack_last hnow (le_latest_of_nonneg hnow hlength), runsForward_last hnow hlength⟩
  · intro text text' length longer hparse hparse' hlonger hlate
    exact ⟨_, _, rangeOf_of_parse now hparse, rangeOf_of_parse now hparse',
      nanoseconds_start_last_anti hnow hlate hlonger⟩

/-- An instant of the year 2023, a quarter of a second after a full one. -/
def autumnClock : Instant :=
  ⟨1700000000, 250000000⟩

theorem autumnClock_isClockTime : autumnClock.IsClockTime :=
  ⟨by decide, by decide⟩

theorem rangeOf_spans_back_autumnClock :
    autumnClock.IsClockTime ∧
      (∃ r, rangeOf autumnClock " 2W" = .ok r ∧ r.SpansBack autumnClock ⟨1209600⟩ ∧
        r.RunsForward) ∧
      (∃ r, rangeOf autumnClock "300000y" = .ok r ∧ r.start = earliest) ∧
      ∃ r r', rangeOf autumnClock "-1h" = .ok r ∧ rangeOf autumnClock "300000y" = .ok r' ∧
        r'.start.nanoseconds ≤ r.start.nanoseconds := by
  have hweeks : Span.parse " 2W" = .ok ⟨1209600⟩ := by decide +kernel
  have hyears : Span.parse "300000y" = .ok ⟨9460800000000⟩ := by decide +kernel
  have hhour : Span.parse "-1h" = .ok ⟨-3600⟩ := by decide +kernel
  rcases rangeOf_spans_back autumnClock_isClockTime with ⟨hranges, hlonger⟩
  rcases hranges _ _ hweeks with ⟨r, hr, -, -, hforward⟩
  rcases hranges _ _ hyears with ⟨s, hs, -, -, hclamped⟩
  exact ⟨autumnClock_isClockTime, ⟨r, hr, hforward (by decide)⟩,
    ⟨s, hs, (hclamped (by decide)).1.clamped (by decide)⟩,
    hlonger _ _ _ _ hhour hyears (by decide) (by decide)⟩

/-- The range of a negative duration ends before it begins. -/
theorem rangeOf_backward :
    ¬ ∀ (now : Instant) (text : String) (length : Span), now.IsClockTime →
      Span.parse text = .ok length →
        ∃ r, rangeOf now text = .ok r ∧ r.SpansBack now length ∧ r.RunsForward := by
  intro hclaim
  have hhour : Span.parse "-1h" = .ok ⟨-3600⟩ := by decide +kernel
  rcases hclaim autumnClock "-1h" _ autumnClock_isClockTime hhour with ⟨r, hr, -, hforward⟩
  rw [rangeOf_of_parse autumnClock hhour, Except.ok.injEq] at hr
  rw [← hr, RunsForward] at hforward
  exact absurd hforward (by decide)

end Command
end PanelQuery
