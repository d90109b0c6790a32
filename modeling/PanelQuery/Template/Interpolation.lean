import PanelQuery.Template.Dashboard
import PanelQuery.Template.Segment

/-!
# Templates - interpolation

Writing the values of variables into a template.  A reference to a variable without a value stays as
it is.  Query text takes one step more: a set of values in braces becomes a list joined by `or`.
Lookup text is written as patterns, and the target of a lookup loses its backslashes again.

Main results:

- `resolve_literal`: text without references resolves to itself.
-/

namespace PanelQuery
namespace Template

namespace Dashboard

/-- A reference with its value written in; the reference's own format goes before the given one. -/
def resolveReference (d : Dashboard) (scope : Scope) (rendering : Rendering) (ref : Reference) :
    String :=
  match d.valueOf scope ref.name with
  | some value => ((ref.format.bind Rendering.ofName?).getD rendering).write value
  | none => ref.raw

/-- A segment with its value written in. -/
def resolveSegment (d : Dashboard) (scope : Scope) (rendering : Rendering) : Segment → String
  | .literal text => text
  | .reference ref => d.resolveReference scope rendering ref

/-- A template with the values of its variables written in. -/
def resolve (d : Dashboard) (scope : Scope) (rendering : Rendering) (text : String) : String :=
  String.join ((segments text).map (d.resolveSegment scope rendering))

end Dashboard

/-- Every comma as the word that joins alternatives. -/
def joinAlternatives (cs : List Char) : List Char :=
  cs.flatMap fun c => if c == ',' then [' ', 'o', 'r', ' '] else [c]

/-- Spell out sets of values: from the first opening brace on, every comma becomes `or`. -/
def spellSets (text : String) : String :=
  let cs := text.toList
  String.ofList (cs.takeWhile (· != '{') ++ joinAlternatives (cs.dropWhile (· != '{')))

/-- A text without its backslashes. -/
def stripBackslashes (text : String) : String :=
  String.ofList (text.toList.filter (· != '\\'))

namespace Dashboard

/-- Query text with values written in and sets of values spelt out. -/
def resolveQuery (d : Dashboard) (scope : Scope) (text : String) : String :=
  spellSets (d.resolve scope .glob text)

/-- Lookup text with values written in as patterns. -/
def resolveLookup (d : Dashboard) (text : String) : String :=
  d.resolve [] .regex text

/-- The target of a free lookup, without the backslashes of its patterns. -/
def resolveLookupTarget (d : Dashboard) (text : String) : String :=
  stripBackslashes (d.resolveLookup text)

/-- The adhoc filters that a data source sees, as one condition. -/
def filterCondition (d : Dashboard) (source : String) : String :=
  AdhocFilter.writeAll (d.filtersOf source)

/-- Text that is one literal run resolves to itself. -/
theorem resolve_literal {text : String} (h : segments text = [.literal text]) (d : Dashboard)
    (scope : Scope) (rendering : Rendering) : d.resolve scope rendering text = text := by
  simp [resolve, h, resolveSegment, String.join]

end Dashboard
end Template
end PanelQuery
