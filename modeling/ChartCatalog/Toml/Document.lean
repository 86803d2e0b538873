import ChartCatalog.Toml.Lexeme

/-!
# TOML documents

A document is a sequence of lines, each blank, a comment, a key/value pair or a table
header, optionally followed by a comment. Pairs go into the table of the last header,
or the root table before any header.

Tables are built as a tree whose nodes remember how they came to be, because TOML allows
each table to be defined once:

* a header `[a.b]` defines table `a.b`, creating `a` implicitly on the way; an implicit
  table may be defined later by its own header, a defined one may not;
* dotted keys `a.b = 1` create tables too; they may be extended by more dotted keys and
  get sub-tables from headers, but are never defined by a header of their own;
* a header `[[a]]` appends a table to the array of tables `a`; later headers and pairs
  reach into its last table;
* a value given after `=` (an inline table or an array included) is final: no header or
  dotted key may reach into it, and no key may be given twice.

Inline tables `{ k = v, … }` follow the same rules inside, on one line and without a
trailing comma; arrays may span lines, hold comments and end with a comma.
-/

set_option autoImplicit false

namespace ChartCatalog.Toml

/-- How a table came to be. -/
inductive TableKind where
  /-- Created on the way to a header's table. -/
  | implicit
  /-- Defined by a header. -/
  | defined
  /-- Created by a dotted key. -/
  | dotted
  deriving DecidableEq, Repr

/-- A node of the table tree under construction. -/
inductive Node where
  /-- A value given after `=`. -/
  | leaf (value : Value)
  | table (kind : TableKind) (entries : List (String × Node))
  /-- An array of tables, each made by a `[[…]]` header. -/
  | tables (items : List (List (String × Node)))

mutual

/-- The value a node stands for. -/
def Node.toValue : Node → Value
  | .leaf v => v
  | .table _ entries => .table (entriesToValue entries)
  | .tables items => .array (tablesToValue items)

/-- The values of the entries of a table node. -/
def entriesToValue : List (String × Node) → List (String × Value)
  | [] => []
  | (k, n) :: rest => (k, n.toValue) :: entriesToValue rest

/-- The tables of an array of tables. -/
def tablesToValue : List (List (String × Node)) → List Value
  | [] => []
  | entries :: rest => .table (entriesToValue entries) :: tablesToValue rest

end

/-- The entries of a table with the entry under a key changed: `change` sees the entry or
its absence and gives the new entry, or refuses. -/
def changeEntry (entries : List (String × Node)) (key : String)
    (change : Option Node → Option Node) : Option (List (String × Node)) :=
  match entries.lookup key with
  | some node => do
    let node ← change (some node)
    some (entries.map fun (k, n) => if k == key then (k, node) else (k, n))
  | none => do
    let node ← change none
    some (entries ++ [(key, node)])

/-- Applies a change to the entries of the last table of an array of tables. -/
def changeLast (items : List (List (String × Node)))
    (change : List (String × Node) → Option (List (String × Node))) :
    Option (List (List (String × Node))) :=
  match items.reverse with
  | last :: before => do
    let last ← change last
    some ((last :: before).reverse)
  | [] => none

/-- Walks to the table at a path and changes its entries. Missing tables on the way are
created with kind `create`; `through` decides which existing tables may be entered; an
array of tables is entered through its last table. -/
def changeAt (create : TableKind) (through : TableKind → Bool)
    (change : List (String × Node) → Option (List (String × Node))) :
    List String → List (String × Node) → Option (List (String × Node))
  | [], entries => change entries
  | k :: rest, entries =>
    changeEntry entries k fun
      | none => (changeAt create through change rest []).map (.table create ·)
      | some (.table kind inner) =>
        if through kind then (changeAt create through change rest inner).map (.table kind ·)
        else none
      | some (.tables items) =>
        (changeLast items (changeAt create through change rest)).map .tables
      | some (.leaf _) => none

/-- Puts a value under a dotted key into a table's entries. -/
def insertPair (path : List String) (value : Value) (entries : List (String × Node)) :
    Option (List (String × Node)) :=
  match path.reverse with
  | last :: before =>
    changeAt .dotted (· != .defined)
      (fun inner => changeEntry inner last fun
        | none => some (.leaf value)
        | some _ => none)
      before.reverse entries
  | [] => none

/-- Defines the table of a header in the root entries. -/
def defineTable (path : List String) (root : List (String × Node)) :
    Option (List (String × Node)) :=
  match path.reverse with
  | last :: before =>
    changeAt .implicit (fun _ => true)
      (fun inner => changeEntry inner last fun
        | none => some (.table .defined [])
        | some (.table .implicit entries) => some (.table .defined entries)
        | some _ => none)
      before.reverse root
  | [] => none

/-- Appends a table to the array of tables of a header in the root entries. -/
def appendTable (path : List String) (root : List (String × Node)) :
    Option (List (String × Node)) :=
  match path.reverse with
  | last :: before =>
    changeAt .implicit (fun _ => true)
      (fun inner => changeEntry inner last fun
        | none => some (.tables [[]])
        | some (.tables items) => some (.tables (items ++ [[]]))
        | some _ => none)
      before.reverse root
  | [] => none

/-- Puts a pair into the table of the current header. -/
def insertUnder (header : List String) (path : List String) (value : Value)
    (root : List (String × Node)) : Option (List (String × Node)) :=
  changeAt .implicit (fun _ => true) (insertPair path value) header root

mutual

/-- A value: a string, boolean, array, inline table, date-time or number; `fuel` bounds
the nesting. -/
def value : Nat → List Char → Option (Value × List Char)
  | 0, _ => none
  | fuel + 1, cs =>
    match cs with
    | '"' :: _ | '\'' :: _ => (string cs).map fun (s, rest) => (.string s, rest)
    | 't' :: 'r' :: 'u' :: 'e' :: rest => some (.boolean true, rest)
    | 'f' :: 'a' :: 'l' :: 's' :: 'e' :: rest => some (.boolean false, rest)
    | '[' :: rest => arrayItems fuel [] rest
    | '{' :: rest => inlineTable fuel [] (skipBlanks rest)
    | _ => if looksLikeDateTime cs then dateTime cs else number cs

/-- The items of an array after its opening bracket, or after a comma. -/
def arrayItems : Nat → List Value → List Char → Option (Value × List Char)
  | 0, _, _ => none
  | fuel + 1, items, cs => do
    let cs ← skipSpace (cs.length + 1) cs
    match cs with
    | ']' :: rest => some (.array items.reverse, rest)
    | _ =>
      let (item, rest) ← value fuel cs
      let rest ← skipSpace (rest.length + 1) rest
      match rest with
      | ',' :: more => arrayItems fuel (item :: items) more
      | ']' :: more => some (.array (item :: items).reverse, more)
      | _ => none

/-- The pairs of an inline table after its opening brace, or after a comma. -/
def inlineTable : Nat → List (String × Node) → List Char → Option (Value × List Char)
  | 0, _, _ => none
  | fuel + 1, entries, cs =>
    match cs with
    | '}' :: rest => if entries.isEmpty then some (.table [], rest) else none
    | _ => do
      let (path, rest) ← key cs
      let rest ← match skipBlanks rest with
        | '=' :: more => some (skipBlanks more)
        | _ => none
      let (v, rest) ← value fuel rest
      let entries ← insertPair path v entries
      match skipBlanks rest with
      | ',' :: more => inlineTable fuel entries (skipBlanks more)
      | '}' :: more => some (.table (entriesToValue entries), more)
      | _ => none

end

/-- The characters after the end of a line: blanks, an optional comment, and a line end
or the end of the text. -/
def endOfLine (cs : List Char) : Option (List Char) := do
  let cs ← skipComment (skipBlanks cs)
  match cs with
  | [] => some []
  | _ => lineEnd? cs

/-- A header's key between its brackets: `[` or `[[` already read, `closing` to come. -/
def headerKey (closing : List Char) (cs : List Char) : Option (List String × List Char) := do
  let (path, rest) ← key (skipBlanks cs)
  let rest := skipBlanks rest
  if rest.take closing.length == closing then some (path, rest.drop closing.length) else none

/-- Reads the lines of a document into its root entries, with the current header. -/
def lines : Nat → List String → List (String × Node) → List Char → Option (List (String × Node))
  | 0, _, _, _ => none
  | fuel + 1, header, root, cs =>
    let cs := skipBlanks cs
    match cs with
    | [] => some root
    | '[' :: '[' :: rest => do
      let (path, rest) ← headerKey [']', ']'] rest
      let root ← appendTable path root
      lines fuel path root (← endOfLine rest)
    | '[' :: rest => do
      let (path, rest) ← headerKey [']'] rest
      let root ← defineTable path root
      lines fuel path root (← endOfLine rest)
    | '#' :: _ => do lines fuel header root (← endOfLine cs)
    | _ =>
      match lineEnd? cs with
      | some rest => lines fuel header root rest
      | none => do
        let (path, rest) ← key cs
        let rest ← match skipBlanks rest with
          | '=' :: more => some (skipBlanks more)
          | _ => none
        let (v, rest) ← value (rest.length + 1) rest
        let root ← insertUnder header path v root
        lines fuel header root (← endOfLine rest)

/-- The root table of a document, or `none` when it is not valid TOML. -/
def parse? (text : String) : Option Value :=
  let cs := match text.toList with
    | '﻿' :: rest => rest
    | cs => cs
  (lines (cs.length + 1) [] [] cs).map fun root => .table (entriesToValue root)

end ChartCatalog.Toml
