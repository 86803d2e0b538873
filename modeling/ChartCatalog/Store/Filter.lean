import ChartCatalog.Json.Value

/-!
# Document filters

A filter selects JSON documents by the values found along dotted member paths such as
`repo.name`. A path walks object members only: a step into anything but an object finds
nothing. Values are compared as JSON values, so the integer `1` and the decimal `1.0`
differ.

* `eq path value` holds when the path reaches a value equal to `value`;
* `notIn path values` holds when the path reaches nothing, or a value outside `values`;
* `all filters` holds when every filter holds, so `all []` always holds.
-/

set_option autoImplicit false

namespace ChartCatalog

/-- A query over documents. -/
inductive Filter where
  | eq (path : List String) (value : Json)
  | notIn (path : List String) (values : List Json)
  | all (filters : List Filter)
  deriving Inhabited

namespace Filter

/-- The member keys of a dotted path, split at every dot. -/
def pathOf (dotted : String) : List String := (dotted.toList.splitOn '.').map String.ofList

/-- The filter on a document's key member `_id`. -/
def onId (id : String) : Filter := .eq ["_id"] (.str id)

/-- The filter on the text at a dotted path. -/
def textAt (dotted : String) (text : String) : Filter := .eq (pathOf dotted) (.str text)

mutual

/-- Whether a document satisfies a filter. -/
def «matches» : Filter → Json → Bool
  | .eq path value, doc =>
    match doc.walk? path with
    | some found => found == value
    | none => false
  | .notIn path values, doc =>
    match doc.walk? path with
    | some found => !values.contains found
    | none => true
  | .all filters, doc => matchesEvery filters doc

/-- Whether a document satisfies every filter of a list. -/
def matchesEvery : List Filter → Json → Bool
  | [], _ => true
  | f :: rest, doc => f.matches doc && matchesEvery rest doc

end

/-- A conjunction holds exactly when each of its filters does. -/
theorem matches_all (filters : List Filter) (doc : Json) :
    (Filter.all filters).matches doc = filters.all (fun f => f.matches doc) := by
  simp only [Filter.matches]
  induction filters with
  | nil => simp [matchesEvery]
  | cons f rest ih => simp [matchesEvery, ih]

end Filter

end ChartCatalog
