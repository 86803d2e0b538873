import ChartCatalog.Json.Value
import ChartCatalog.Catalog.Model
import ChartCatalog.Error
import ChartCatalog.Text.Blank

/-!
# Repository objects

The cluster describes each chart repository as an untyped JSON object. Fields are read
along paths of member names through nested objects. A field that is missing, reached
through something that is not an object, or `null`, is absent; a field present with the
wrong type is an error naming the path and the type found.

From such an object the watch cache takes the repository's name (`metadata.name`, which
must be present and non-empty), its namespace and URL (`metadata.namespace` and
`spec.url`, empty when absent), whether it is ready (the first condition of type
`Ready` in `status.conditions` has status `True`), and the URL of its index
(`status.url`, unless blank).
-/

set_option autoImplicit false

namespace ChartCatalog.Json

/-- The name of the kind of a value, as errors give it. -/
def kindName : Json → String
  | .null => "null"
  | .bool _ => "bool"
  | .num _ => "number"
  | .str _ => "string"
  | .arr _ => "list"
  | .obj _ => "map"

/-- The error of a field of the wrong type. -/
def wrongType (path : List String) (expected : String) (found : Json) : CatalogError :=
  .parse ("Field " ++ ".".intercalate path ++ " is a " ++ kindName found ++ ", expected a " ++
    expected)

/-- The text at a path: absent when missing or `null`, an error when not text. -/
def nestedText? (value : Json) (path : List String) : Outcome (Option String) :=
  match value.walk? path with
  | none | some .null => .ok none
  | some (.str s) => .ok (some s)
  | some other => .error (wrongType path "string" other)

/-- The list at a path: absent when missing or `null`, an error when not a list. -/
def nestedList? (value : Json) (path : List String) : Outcome (Option (List Json)) :=
  match value.walk? path with
  | none | some .null => .ok none
  | some (.arr items) => .ok (some items)
  | some other => .error (wrongType path "list" other)

end ChartCatalog.Json

namespace ChartCatalog.RepoObject

open Json

/-- The repository's name, from `metadata.name`. -/
def name (obj : Json) : Outcome String := do
  match ← nestedText? obj ["metadata", "name"] with
  | some n => if n.isEmpty then throw missingName else pure n
  | none => throw missingName
where
  /-- The error of an object without a name. -/
  missingName : CatalogError := .parse "Required field metadata.name not found"

/-- The repository an object describes, without credentials. -/
def repo (obj : Json) : Outcome Repo := do
  let n ← name obj
  let ns ← nestedText? obj ["metadata", "namespace"]
  let url ← nestedText? obj ["spec", "url"]
  pure ⟨n, ns.getD "", url.getD "", none⟩

/-- Whether the first `Ready` condition among conditions has status `True`. -/
def readyAmong : List Json → Outcome Bool
  | [] => .ok false
  | condition :: rest => do
    if (← nestedText? condition ["type"]) == some "Ready" then
      pure ((← nestedText? condition ["status"]) == some "True")
    else readyAmong rest

/-- Whether the repository is ready. -/
def isReady (obj : Json) : Outcome Bool := do
  match ← nestedList? obj ["status", "conditions"] with
  | none => pure false
  | some conditions => readyAmong conditions

/-- The URL of the repository's index, unless blank. -/
def statusUrl (obj : Json) : Outcome (Option String) := do
  let url ← nestedText? obj ["status", "url"]
  pure (url.filter fun u => !(Text.trim u).isEmpty)

end ChartCatalog.RepoObject
