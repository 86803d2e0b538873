import ChartCatalog.Http.Exchange

/-!
# Computations that read the web

`Online σ` computations read a `Fetch` that answers their GET requests, keep a state of
type `σ` and the list of requests sent, and may stop with an error. An error keeps what
was done before it: the state changes that succeeded and the requests that were sent
stay, because the error layer sits above the state (`ExceptT` over `StateM`).

Every request goes through `Online.get`, which records it before it is answered, so the
request list is exactly the requests sent, refused ones included.
-/

set_option autoImplicit false

namespace ChartCatalog.Http

/-- A state together with the requests sent so far. -/
structure Traced (σ : Type) where
  state : σ
  requests : Array Request

/-- A computation that sends GET requests and changes a state of type `σ`. -/
abbrev Online (σ α : Type) := ReaderT Fetch (ExceptT CatalogError (StateM (Traced σ))) α

namespace Online

variable {σ α : Type}

/-- Runs a computation against a fetch and a state, with no request sent yet. -/
def run (m : Online σ α) (fetch : Fetch) (state : σ) : Except CatalogError α × Traced σ :=
  (ExceptT.run (ReaderT.run m fetch)).run ⟨state, #[]⟩

/-- A value, or the error of an outcome. -/
def ofOutcome (o : Outcome α) : Online σ α :=
  match o with
  | .ok value => pure value
  | .error e => throw e

/-- Sends a GET request, recording it, and gives the response. -/
def get (url : String) (auth : Option String) : Online σ Response := do
  let request : Request := ⟨url, auth⟩
  modifyThe (Traced σ) fun s => { s with requests := s.requests.push request }
  let fetch ← read
  ofOutcome (fetch request)

/-- Sends a GET request whose response must have a 2xx status. -/
def getChecked (url : String) (auth : Option String) : Online σ Response := do
  let response ← get url auth
  ofOutcome (response.checked url)

/-- The state as it is now. -/
def current : Online σ σ := do
  return (← getThe (Traced σ)).state

/-- Reads the state. -/
def reading (f : σ → Outcome α) : Online σ α := do
  ofOutcome (f (← current))

/-- Changes the state: the answer and the next state, or an error that changes nothing. -/
def writing (f : σ → Outcome (α × σ)) : Online σ α := do
  let (value, next) ← ofOutcome (f (← current))
  modifyThe (Traced σ) fun s => { s with state := next }
  pure value

/-- Runs a computation on a part of the state, given how to read that part and how to
put it back. -/
def focus {τ : Type} (view : σ → τ) (update : σ → τ → σ) (m : Online τ α) : Online σ α := do
  let fetch ← read
  let s ← getThe (Traced σ)
  let (result, t) := (ExceptT.run (ReaderT.run m fetch)).run ⟨view s.state, s.requests⟩
  set ({ state := update s.state t.state, requests := t.requests } : Traced σ)
  ofOutcome result

end Online

end ChartCatalog.Http
