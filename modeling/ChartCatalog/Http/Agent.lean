import ChartCatalog.Text.Blank

/-!
# User agent

Requests name the catalog and its version in the `User-Agent` header, with an optional
comment in parentheses, such as the name of the application that embeds it.
-/

set_option autoImplicit false

namespace ChartCatalog.Http

/-- The `User-Agent` value: `chartsync/<version>`, and ` (<comment>)` when the trimmed
comment is not empty. -/
def userAgent (version : String) (comment : Option String) : String :=
  let base := "chartsync/" ++ version
  match comment with
  | some c =>
    let c := Text.trim c
    if c.isEmpty then base else base ++ " (" ++ c ++ ")"
  | none => base

end ChartCatalog.Http
