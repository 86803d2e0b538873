import ChartCatalog.Store.Catalog
import ChartCatalog.Disk

/-!
# Opening a catalog store

A relational store lives in a database file. Opening it first creates the directories
above the file, then opens the file itself, which fails when the path is a directory or
a file with content that does not start with the database header.
A store opened again at the same path finds what was stored there (`Catalog.reopen`).
A document store lives in memory and always opens empty.
-/

set_option autoImplicit false

namespace ChartCatalog

namespace Catalog

/-- The first sixteen bytes of every database file: `SQLite format 3` and a zero byte. -/
def databaseHeader : List UInt8 := "SQLite format 3".toUTF8.toList ++ [0]

/-- Whether the bytes of an existing file can be a database: empty, or starting with the
header. -/
def isDatabaseFile (bytes : ByteArray) : Bool :=
  bytes.isEmpty || bytes.toList.take 16 == databaseHeader

/-- Opens the relational store in the database file at a path of a disk. -/
def openFile (disk : Disk) (path : String) : Outcome Catalog :=
  let created : Outcome Unit :=
    match Disk.parent? path with
    | some above =>
      match disk.createDirAll above with
      | .ok () => .ok ()
      | .error e => .error (.io ("Failed to create directory " ++ above ++ ": " ++ e.message))
    | none => .ok ()
  match created with
  | .error e => .error e
  | .ok () =>
    match disk.read path with
    | .error .isDirectory => .error (.store ("unable to open database file: " ++ path))
    | .ok bytes =>
      if isDatabaseFile bytes then .ok emptyRelational
      else .error (.store "file is not a database")
    | .error _ => .ok emptyRelational

end Catalog

end ChartCatalog
