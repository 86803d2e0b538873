/-!
# Keyed tables

A table holds rows under text keys, in increasing key order with no key twice. Both
catalog backends are built from such tables: the relational one keys its rows by
primary key, the document one keys each document by its `_id`. Key order is the order
of code points, which is also the byte order of the keys' UTF-8 text, so listing a
table gives what a byte-ordered index gives.

Inserting a key replaces the row already under it (`get?_insert`).
-/

set_option autoImplicit false

namespace ChartCatalog

/-- Rows under text keys, in increasing key order. -/
structure Table (α : Type) where
  rows : List (String × α)
  deriving Inhabited

namespace Table

variable {α : Type}

/-- The table without rows. -/
def empty : Table α := ⟨[]⟩

/-- Puts a row in key order into a row list, replacing the row of the same key. -/
def insertRow (key : String) (value : α) : List (String × α) → List (String × α)
  | [] => [(key, value)]
  | (k, v) :: rest =>
    if key < k then (key, value) :: (k, v) :: rest
    else if key == k then (key, value) :: rest
    else (k, v) :: insertRow key value rest

/-- The table with a row put under a key, replacing the row already there. -/
def insert (table : Table α) (key : String) (value : α) : Table α :=
  ⟨insertRow key value table.rows⟩

/-- The row under a key. -/
def get? (table : Table α) (key : String) : Option α :=
  table.rows.lookup key

/-- The rows, in key order. -/
def values (table : Table α) : List α :=
  table.rows.map Prod.snd

/-- The number of rows. -/
def size (table : Table α) : Nat :=
  table.rows.length

/-- The rows that satisfy a test, in key order. -/
def select (table : Table α) (keep : String → α → Bool) : List α :=
  (table.rows.filter fun (k, v) => keep k v).map Prod.snd

/-- Removes the rows that satisfy a test, and counts them. -/
def removeWhere (table : Table α) (drop : String → α → Bool) : Nat × Table α :=
  let kept := table.rows.filter fun (k, v) => !drop k v
  (table.rows.length - kept.length, ⟨kept⟩)

/-- Changes the rows on which `change` gives a new row, and counts them. -/
def update (table : Table α) (change : String → α → Option α) : Nat × Table α :=
  table.rows.foldr (fun (k, v) (count, acc) =>
    match change k v with
    | some v' => (count + 1, ⟨(k, v') :: acc.rows⟩)
    | none => (count, ⟨(k, v) :: acc.rows⟩)) (0, empty)

/-- After inserting a row, its key finds it. -/
theorem get?_insert (table : Table α) (key : String) (value : α) :
    (table.insert key value).get? key = some value := by
  unfold insert get?
  induction table.rows with
  | nil => simp [insertRow]
  | cons kv rest ih =>
    obtain ⟨k, v⟩ := kv
    simp only [insertRow]
    split
    · simp
    · split
      · simp
      · rename_i heq
        simp only [List.lookup_cons]
        have : (key == k) = false := by simpa using heq
        simp [this, ih]

end Table

end ChartCatalog
