import PanelQuery.Main
import PanelQuery.Proofs.KeyTable
import PanelQuery.Proofs.Correspondence
import PanelQuery.Proofs.FirstFault
import PanelQuery.Proofs.Json.Decoder
import PanelQuery.Proofs.Json.Ordered
import PanelQuery.Proofs.Json.Refusals
import PanelQuery.Proofs.Json.Readings
import PanelQuery.Proofs.Json.KeySpelling
import PanelQuery.Proofs.Target.Folding
import PanelQuery.Proofs.Target.EditorDocument
import PanelQuery.Proofs.Target.NormalForm
import PanelQuery.Proofs.Target.AggregationLists
import PanelQuery.Proofs.Target.OperatorLists
import PanelQuery.Proofs.Target.RowFaults
import PanelQuery.Proofs.Target.RowReading
import PanelQuery.Proofs.Target.DocumentFaults
import PanelQuery.Proofs.Target.KeySpelling
import PanelQuery.Proofs.Query.FilterNarrowing
import PanelQuery.Proofs.Query.SameClause
import PanelQuery.Proofs.Query.TimeClause
import PanelQuery.Proofs.Query.LabelTable
import PanelQuery.Proofs.Query.LabelKeys
import PanelQuery.Proofs.Query.RefreshBody
import PanelQuery.Proofs.Datasource.PanelRefresh
import PanelQuery.Proofs.Datasource.Session
import PanelQuery.Proofs.Datasource.LookupCalls
import PanelQuery.Proofs.Datasource.ResolvedLookups
import PanelQuery.Proofs.Datasource.ConditionValues
import PanelQuery.Proofs.Datasource.Declarations
import PanelQuery.Proofs.Datasource.BoundBefore
import PanelQuery.Proofs.Service.Delivery
import PanelQuery.Proofs.Lookup.SuggestionPairs
import PanelQuery.Proofs.Datasource.LookupAnswers
import PanelQuery.Proofs.Settings.Precedence
import PanelQuery.Proofs.Template.PatternRendering
import PanelQuery.Proofs.Template.Backslashes
import PanelQuery.Proofs.Template.SpeltText
import PanelQuery.Proofs.Text.WrittenIntegers
import PanelQuery.Proofs.Time.WrittenDurations
import PanelQuery.Proofs.Time.RangeUntilNow
import PanelQuery.Proofs.Datasource.LookupBodies
import PanelQuery.Proofs.Target.SurplusOperators
import PanelQuery.Proofs.Files.Extension
import PanelQuery.Proofs.Command.CompiledInOrder
import PanelQuery.Proofs.Command.OfflineCompile
