/-!
# TOML values

The values of a TOML document (TOML 1.0): text, 64-bit integers, floats, booleans,
date-times, arrays, and tables of named values. A float and a date-time are kept as
they are written, since the configuration has no field of those types and reading one
where another type is expected is an error either way.
-/

set_option autoImplicit false

namespace ChartCatalog.Toml

/-- A TOML value. -/
inductive Value where
  | string (text : String)
  | integer (value : Int)
  | float (text : String)
  | boolean (value : Bool)
  | datetime (text : String)
  | array (items : List Value)
  | table (entries : List (String × Value))
  deriving Inhabited, Repr

/-- The entry of a table under a key. -/
def Value.get? (v : Value) (key : String) : Option Value :=
  match v with
  | .table entries => entries.lookup key
  | _ => none

end ChartCatalog.Toml
