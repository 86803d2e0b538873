import ChartCatalog.Error

/-!
# HTTP exchanges

The catalog reads the web with GET requests only: a request is a URL and the
`Authorization` value it carries, if any, and a response is a status, a content type
and the whole body. A transport failure (no connection, a broken body) is an error; a
response of any status is an answer, and `checked` turns a status outside 2xx into the
transport error `HTTP <status> from <url>`.

A `Fetch` is any way of answering requests. `Canned` answers from a table of responses
by exact URL: a URL routed to no response refuses the connection, and a URL not in the
table answers 404 with the body `not found`.
-/

set_option autoImplicit false

namespace ChartCatalog.Http

/-- A GET request: its URL and its `Authorization` value. -/
structure Request where
  url : String
  auth : Option String
  deriving DecidableEq, Repr, Inhabited

/-- A fully read HTTP response. -/
structure Response where
  status : Nat
  contentType : Option String
  body : ByteArray
  deriving Inhabited

/-- Whether a status is a success, 2xx. -/
def Response.isSuccess (r : Response) : Bool := 200 ≤ r.status && r.status < 300

/-- A response, or the error of a status outside 2xx. -/
def Response.checked (r : Response) (url : String) : Outcome Response :=
  if r.isSuccess then .ok r
  else .error (.transport ("HTTP " ++ toString r.status ++ " from " ++ url))

/-- A way of answering GET requests. -/
abbrev Fetch := Request → Outcome Response

/-- Responses given in advance, by exact URL; `none` refuses the connection. -/
structure Canned where
  routes : List (String × Option Response)
  deriving Inhabited

namespace Canned

/-- The answer for a URL not in the table. -/
def notFound : Response := ⟨404, none, "not found".toUTF8⟩

/-- The table with a URL routed to a response, or to a refused connection. -/
def route (c : Canned) (url : String) (response : Option Response) : Canned :=
  ⟨(url, response) :: c.routes.filter (·.1 != url)⟩

/-- The table without a URL. -/
def unroute (c : Canned) (url : String) : Canned :=
  ⟨c.routes.filter (·.1 != url)⟩

/-- Answers a request from the table. -/
def fetch (c : Canned) : Fetch := fun request =>
  match c.routes.lookup request.url with
  | some (some response) => .ok response
  | some none => .error (.transport ("connection refused: " ++ request.url))
  | none => .ok notFound

end Canned

end ChartCatalog.Http
