/-!
# Catalog errors

Every fallible operation of the catalog reports one `CatalogError`: a kind, which says
which part of the work failed, and a message for people. The kinds are the transport
of a request, the parsing of content, the catalog store, a chart artifact (archive or
icon), input that ends before a whole archive block, a repository object that is not
ready, the construction of a client or store, and the local file system.
-/

set_option autoImplicit false

namespace ChartCatalog

/-- The part of the work that failed. -/
inductive ErrorKind where
  | transport
  | parse
  | store
  | artifact
  | unexpectedEof
  | notReady
  | init
  | io
  deriving DecidableEq, Repr, Inhabited

/-- A failure: its kind and its message. -/
structure CatalogError where
  kind : ErrorKind
  message : String
  deriving DecidableEq, Repr, Inhabited

/-- The outcome of a fallible catalog operation. -/
abbrev Outcome (α : Type) := Except CatalogError α

namespace CatalogError

/-- A transport failure. -/
def transport (message : String) : CatalogError := ⟨.transport, message⟩
/-- A content that does not parse. -/
def parse (message : String) : CatalogError := ⟨.parse, message⟩
/-- A store failure. -/
def store (message : String) : CatalogError := ⟨.store, message⟩
/-- An artifact failure. -/
def artifact (message : String) : CatalogError := ⟨.artifact, message⟩
/-- Input that ends inside an archive block. -/
def unexpectedEof (message : String) : CatalogError := ⟨.unexpectedEof, message⟩
/-- A repository object that is not ready. -/
def notReady (message : String) : CatalogError := ⟨.notReady, message⟩
/-- A client or store that could not be built. -/
def init (message : String) : CatalogError := ⟨.init, message⟩
/-- A file system failure. -/
def io (message : String) : CatalogError := ⟨.io, message⟩

end CatalogError

end ChartCatalog
