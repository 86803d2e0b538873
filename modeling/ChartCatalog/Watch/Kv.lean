import ChartCatalog.Store.Table
import ChartCatalog.Error

/-!
# The key-value cache

The watch cache keeps byte values under text keys. The store may be unreachable; then
every call fails with the same store error and nothing changes, while the values held
stay as they were for when it comes back.
-/

set_option autoImplicit false

namespace ChartCatalog

/-- Byte values under text keys, and whether the store can be reached. -/
structure KvStore where
  entries : Table ByteArray
  offline : Bool
  deriving Inhabited

namespace KvStore

/-- The empty, reachable store. -/
def empty : KvStore := ⟨.empty, false⟩

/-- The error of every call while the store is unreachable. -/
def unreachable : CatalogError := .store "key-value store unreachable"

/-- Checks that the store is reachable. -/
def ping (kv : KvStore) : Outcome Unit :=
  if kv.offline then .error unreachable else .ok ()

/-- The value under a key. -/
def get (kv : KvStore) (key : String) : Outcome (Option ByteArray) :=
  if kv.offline then .error unreachable else .ok (kv.entries.get? key)

/-- Puts a value under a key. -/
def set (kv : KvStore) (key : String) (value : ByteArray) : Outcome KvStore :=
  if kv.offline then .error unreachable else .ok { kv with entries := kv.entries.insert key value }

/-- Removes a key, telling whether it was there. -/
def del (kv : KvStore) (key : String) : Outcome (Bool × KvStore) :=
  if kv.offline then .error unreachable
  else
    let (count, entries) := kv.entries.removeWhere fun k _ => k == key
    .ok (count > 0, { kv with entries := entries })

end KvStore

end ChartCatalog
