import PanelQuery.Json.Decoder
import PanelQuery.Time.Rfc3339

/-!
# Time - ranges

The time range of a dashboard, and the range that ends now.

Main results:

- `TimeRange.last_from`: a range that ends now begins a span before, or at the earliest instant when
  there is no instant that far from now.
-/

namespace PanelQuery

open Time

/-- A range of time. -/
structure TimeRange where
  start : Instant
  stop : Instant
deriving DecidableEq, Repr

namespace TimeRange

/-- The range of a length that ends now; it begins at the earliest instant if it would begin at
none. -/
def last (now : Instant) (length : Span) : TimeRange where
  start := (now.minus? length).getD .earliest
  stop := now

theorem last_from (now : Instant) (length : Span) :
    (last now length).start = (now.minus? length).getD .earliest :=
  rfl

/-- Read an instant. -/
def decodeInstant : Json.Decoder Instant
  | .string s =>
    match Instant.parse? s with
    | some t => .ok t
    | none => .error (.invalidTime s)
  | v => .error (.wrongType v .text)

/-- The fields of a range. -/
def fields : Json.RecordDecoder TimeRange :=
  TimeRange.mk
    <$> .required "from" decodeInstant
    <*> .required "to" decodeInstant

/-- Read a range. -/
def decode : Json.Decoder TimeRange :=
  fields.decode "TimeRange"

/-- A range as a document. -/
def toJson (r : TimeRange) : Json :=
  .object [("from", .string r.start.write), ("to", .string r.stop.write)]

end TimeRange
end PanelQuery
