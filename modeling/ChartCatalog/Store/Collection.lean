import ChartCatalog.Store.Table
import ChartCatalog.Store.Filter
import ChartCatalog.Json.Text
import ChartCatalog.Error

/-!
# Document collections

A collection is a named table of JSON objects keyed by their `_id`. Every write names
its document by a selector object whose `_id` member is text; the stored document is
the given object with `_id` set to that text. A batch of writes is checked whole before
any is applied, so a rejected batch leaves the collection as it was, and a later write
of a key in the batch replaces an earlier one. Reads and removals visit documents in
key order.

The key of a stored document stays what its write named, even when an update later
changes the document's `_id` member.
-/

set_option autoImplicit false

namespace ChartCatalog

/-- A named table of JSON documents keyed by `_id`. -/
structure Collection where
  name : String
  docs : Table Json
  deriving Inhabited

namespace Collection

/-- The empty collection of a name. -/
def empty (name : String) : Collection := ⟨name, .empty⟩

/-- The number of documents. -/
def size (c : Collection) : Nat := c.docs.size

/-- Whether the collection has no document. -/
def isEmpty (c : Collection) : Bool := c.docs.rows.isEmpty

/-- The key and stored form of one write, or why the write is refused: the selector
needs a text `_id` and the document must be an object. -/
def checkWrite (c : Collection) (selector doc : Json) : Outcome (String × Json) :=
  match selector.get? "_id" with
  | some (.str id) =>
    match doc with
    | .obj fields => .ok (id, .obj (Json.insertField "_id" (.str id) fields))
    | _ => .error (.store ("Document for " ++ id ++ " in " ++ c.name ++ " is not an object"))
  | _ => .error (.store ("Upsert into " ++ c.name ++ " requires a string _id selector, got " ++
      selector.render))

/-- Writes a batch of selector and document pairs after checking all of them, and
counts the writes. -/
def bulkUpsert (c : Collection) (writes : List (Json × Json)) : Outcome (Nat × Collection) := do
  let checked ← writes.mapM fun (selector, doc) => c.checkWrite selector doc
  pure (checked.length,
    { c with docs := checked.foldl (fun docs (id, doc) => docs.insert id doc) c.docs })

/-- Writes one document under a key. -/
def upsert (c : Collection) (id : String) (doc : Json) : Outcome Collection :=
  (c.bulkUpsert [(.obj [("_id", .str id)], doc)]).map Prod.snd

/-- Sets the given members on every matching document, and counts those documents. -/
def updateFields (c : Collection) (filter : Filter) (fields : List (String × Json)) :
    Nat × Collection :=
  let (count, docs) := c.docs.update fun _ doc =>
    if filter.matches doc then
      match doc with
      | .obj members =>
        some (.obj (fields.foldl (fun acc (k, v) => Json.insertField k v acc) members))
      | _ => none
    else none
  (count, { c with docs := docs })

/-- Removes every matching document, and counts them. -/
def removeAll (c : Collection) (filter : Filter) : Nat × Collection :=
  let (count, docs) := c.docs.removeWhere fun _ doc => filter.matches doc
  (count, { c with docs := docs })

/-- The matching documents, in key order. -/
def find (c : Collection) (filter : Filter) : List Json :=
  c.docs.select fun _ doc => filter.matches doc

/-- The first matching document in key order. -/
def findOne (c : Collection) (filter : Filter) : Option Json :=
  (c.docs.values.find? fun doc => filter.matches doc)

end Collection

end ChartCatalog
