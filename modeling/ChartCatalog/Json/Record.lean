import ChartCatalog.Json.Value

/-!
# Reading records from JSON

A record is read from an object by member name, or from an array by position, the
first item giving the first field. A field either is required or has a default used
when it is missing; a field that is present must have the expected type, and `null`
stands only for an absent optional value. An array may not hold more items than the
record has fields.
-/

set_option autoImplicit false

namespace ChartCatalog.Json

/-- The fields of a value that holds a record. -/
inductive Fields where
  | named (members : List (String × Json))
  | positional (items : List Json)

/-- The fields of an object or array, with at most `count` items for an array. -/
def fieldsOf (count : Nat) : Json → Except String Fields
  | .obj members => .ok (.named members)
  | .arr items => if items.length ≤ count then .ok (.positional items) else .error "too many items"
  | _ => .error "expected a record"

/-- The field at a position, or under a name. -/
def Fields.get? (fields : Fields) (index : Nat) (name : String) : Option Json :=
  match fields with
  | .named members => members.lookup name
  | .positional items => items[index]?

/-- A required field. -/
def Fields.need {α : Type} (fields : Fields) (index : Nat) (name : String)
    (read : Json → Except String α) : Except String α :=
  match fields.get? index name with
  | some v => read v
  | none => .error ("missing field " ++ name)

/-- A field with a default. -/
def Fields.withDefault {α : Type} (fields : Fields) (index : Nat) (name : String)
    (read : Json → Except String α) (default : α) : Except String α :=
  match fields.get? index name with
  | some v => read v
  | none => .ok default

/-- A text value. -/
def readText : Json → Except String String
  | .str s => .ok s
  | _ => .error "expected a string"

/-- A boolean value. -/
def readBool : Json → Except String Bool
  | .bool b => .ok b
  | _ => .error "expected a boolean"

/-- A list of values of one kind. -/
def readList {α : Type} (read : Json → Except String α) : Json → Except String (List α)
  | .arr items => items.mapM read
  | _ => .error "expected a list"

/-- An optional value: `null` is absent. -/
def readOption {α : Type} (read : Json → Except String α) : Json → Except String (Option α)
  | .null => .ok none
  | v => (read v).map some

end ChartCatalog.Json
