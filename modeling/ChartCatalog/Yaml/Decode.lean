import ChartCatalog.Yaml.Document

/-!
# Decoding typed values from a YAML document

Decoders read a document's events from left to right into typed values: text,
booleans, optional values, lists, maps with text keys, and records of named fields.

An alias is followed by a jump to the event its anchor marks, decoding the value there
and then going on after the alias. The number of jumps is limited to one hundred per
event of the document, which bounds the work on documents whose aliases nest.

The rules for each kind of value:
* text is any scalar, whatever its style or tag;
* a boolean is a plain scalar `true`, `True`, `TRUE`, `false`, `False` or `FALSE`
  (a literal block scalar tagged `!!bool` counts as plain);
* an optional value is absent for a plain scalar that is empty, `~`, `null`, `Null`
  or `NULL` (with a `!!null` tag only those four spellings are allowed) and for an
  empty document; any other node is present;
* a list, a map or a record may also be written as an empty plain scalar or an empty
  document, which reads as empty;
* in a map a later key replaces an earlier equal one; in a record unknown keys are
  skipped with their values, unread, and a field given twice is an error.
-/

set_option autoImplicit false

namespace ChartCatalog.Yaml

/-- Where decoding stands: the position in the events and the jumps taken so far. -/
structure Cursor where
  pos : Nat
  jumps : Nat

/-- A decoder of values of type `α` from a document. -/
abbrev Decoder (α : Type) := ReaderT Document (StateT Cursor (Except String)) α

namespace Decoder

/-- Takes the next event. -/
def next : Decoder Loaded := do
  let doc ← read
  let c ← get
  match doc.events[c.pos]? with
  | some e =>
    set { c with pos := c.pos + 1 }
    pure e
  | none => throw "unexpected end of the document"

/-- Looks at the next event without taking it. -/
def peek : Decoder Loaded := do
  let doc ← read
  let c ← get
  match doc.events[c.pos]? with
  | some e => pure e
  | none => throw "unexpected end of the document"

/-- Runs a decoder at the event an anchor marks, then returns to where decoding was. -/
def jump {α : Type} (id : Nat) (k : Decoder α) : Decoder α := do
  let doc ← read
  let c ← get
  let jumps := c.jumps + 1
  if jumps > doc.events.size * 100 then throw "repetition limit exceeded"
  match doc.anchors.lookup id with
  | none => throw "unresolved alias"
  | some target =>
    set ({ pos := target, jumps := jumps } : Cursor)
    let v ← k
    modify fun c' => { c' with pos := c.pos }
    pure v

/-- Takes the next node's first event, following an alias, and decodes the node with
`body`, which is given that event. -/
def resolve {α : Type} (body : Loaded → Decoder α) : Decoder α := do
  match ← next with
  | .alias id => jump id (do body (← next))
  | e => body e

/-- Whether an event is the empty plain scalar or the empty document, both of which
read as an empty collection. -/
def isEmptyNode : Loaded → Bool
  | .void => true
  | .scalar text .plain _ => text.isEmpty
  | _ => false

/-- Skips one node, not following aliases. -/
def skipNode : Decoder Unit := do
  let doc ← read
  let rec go : Nat → Int → Decoder Unit
    | 0, _ => throw "unexpected end of the document"
    | fuel + 1, depth => do
      let depth := match ← next with
        | .sequenceStart _ | .mappingStart _ => depth + 1
        | .sequenceEnd | .mappingEnd => depth - 1
        | _ => depth
      if depth == 0 then pure () else go fuel depth
  go (doc.events.size + 1) 0

/-- Text, from any scalar. -/
def textFrom : Loaded → Decoder String
  | .scalar text _ _ => pure text
  | _ => throw "invalid type, expected a string"

/-- Text. -/
def text : Decoder String := resolve textFrom

/-- The full tag of booleans. -/
def boolTag : String := "tag:yaml.org,2002:bool"

/-- The full tag of nulls. -/
def nullTag : String := "tag:yaml.org,2002:null"

/-- The boolean a scalar spells. -/
def boolOfText (t : String) : Option Bool :=
  if t == "true" || t == "True" || t == "TRUE" then some true
  else if t == "false" || t == "False" || t == "FALSE" then some false
  else none

/-- Whether a scalar spells null. -/
def isNullText (t : String) : Bool := t == "~" || t == "null" || t == "Null" || t == "NULL"

/-- A boolean, from a plain scalar (or a literal one tagged as a boolean). -/
def flagFrom : Loaded → Decoder Bool
  | .scalar t style tag =>
    let eligible := style == .plain || (style == .literal && tag == some boolTag)
    match eligible, boolOfText t with
    | true, some b => pure b
    | _, _ => throw "invalid type, expected a boolean"
  | _ => throw "invalid type, expected a boolean"

/-- A boolean. -/
def flag : Decoder Bool := resolve flagFrom

/-- An optional value, decoded with `body` when present. -/
def optionalFrom {α : Type} (body : Loaded → Decoder α) (e : Loaded) : Decoder (Option α) :=
  match e with
  | .scalar t .plain (some tag) =>
    if tag == nullTag then
      if isNullText t then pure none else throw "invalid value, expected null"
    else some <$> body e
  | .scalar t .plain none =>
    if t.isEmpty || isNullText t then pure none else some <$> body e
  | .void => pure none
  | _ => some <$> body e

/-- An optional value. -/
def optional {α : Type} (body : Loaded → Decoder α) : Decoder (Option α) :=
  resolve (optionalFrom body)

/-- A value whose absence means the default. -/
def orDefault {α : Type} (body : Loaded → Decoder α) (default : α) : Decoder α := do
  pure ((← optional body).getD default)

/-- A list, each item decoded with `item`. -/
def listFrom {α : Type} (item : Decoder α) (e : Loaded) : Decoder (List α) := do
  match e with
  | .sequenceStart _ =>
    let doc ← read
    let rec go : Nat → Array α → Decoder (List α)
      | 0, _ => throw "unexpected end of the document"
      | fuel + 1, acc => do
        match ← peek with
        | .sequenceEnd | .void =>
          let _ ← next
          pure acc.toList
        | _ => go fuel (acc.push (← item))
    go (doc.events.size + 1) #[]
  | e => if isEmptyNode e then pure [] else throw "invalid type, expected a sequence"

/-- Inserts a key and value into a list sorted by key, replacing an equal key. -/
def insertSorted {α : Type} (key : String) (value : α) :
    List (String × α) → List (String × α)
  | [] => [(key, value)]
  | (k, v) :: rest =>
    if key == k then (key, value) :: rest
    else if key < k then (key, value) :: (k, v) :: rest
    else (k, v) :: insertSorted key value rest

/-- A map with text keys, sorted by key, each value decoded with `value`. -/
def mapFrom {α : Type} (value : Decoder α) (e : Loaded) : Decoder (List (String × α)) := do
  match e with
  | .mappingStart _ =>
    let doc ← read
    let rec go : Nat → List (String × α) → Decoder (List (String × α))
      | 0, _ => throw "unexpected end of the document"
      | fuel + 1, acc => do
        match ← peek with
        | .mappingEnd | .void =>
          let _ ← next
          pure acc
        | _ =>
          let k ← text
          let v ← value
          go fuel (insertSorted k v acc)
    go (doc.events.size + 1) []
  | e => if isEmptyNode e then pure [] else throw "invalid type, expected a mapping"

/-- A record: starting from `init`, each key that `field` knows updates the record with
the decoder it gives; other keys are skipped. A known key may appear once. -/
def recordFrom {σ : Type} (init : σ) (field : String → Option (σ → Decoder σ)) (e : Loaded) :
    Decoder σ := do
  match e with
  | .mappingStart _ =>
    let doc ← read
    let rec go : Nat → σ → List String → Decoder σ
      | 0, _, _ => throw "unexpected end of the document"
      | fuel + 1, acc, seen => do
        match ← peek with
        | .mappingEnd | .void =>
          let _ ← next
          pure acc
        | _ =>
          let k ← text
          match field k with
          | some update =>
            if seen.contains k then throw ("duplicate field " ++ k)
            go fuel (← update acc) (k :: seen)
          | none =>
            skipNode
            go fuel acc seen
    go (doc.events.size + 1) init []
  | e => if isEmptyNode e then pure init else throw "invalid type, expected a mapping"

/-- Runs a decoder on a whole document. -/
def run {α : Type} (d : Decoder α) (doc : Document) : Except String α :=
  (StateT.run (ReaderT.run d doc) ⟨0, 0⟩).map Prod.fst

end Decoder

end ChartCatalog.Yaml
