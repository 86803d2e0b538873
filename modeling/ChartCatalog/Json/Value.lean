/-!
# JSON values

The dynamic values that documents of the catalog store, repository objects of the
cluster API, and requests and answers are made of.

A number is either an integer or a decimal. Integers are the numbers written without a
fraction or exponent that fit in 64 bits (unsigned, or signed when negative); every
other number is a decimal, kept as its digits and a power of ten. The two kinds are
never equal to one another, so `1` and `1.0` are different values, while two decimals
are equal when they denote the same number.

Object members are kept in increasing byte order of their keys, with no key twice:
`Json.set` and `Json.ofFields` keep that order, so two objects with the same members
are the same value.
-/

set_option autoImplicit false

namespace ChartCatalog

/-- A JSON number: an integer, or a decimal `mantissa · 10 ^ exponent`. -/
inductive Number where
  | int (value : Int)
  | decimal (mantissa : Int) (exponent : Int)
  deriving Inhabited, Repr

/-- A JSON value. -/
inductive Json where
  | null
  | bool (value : Bool)
  | num (value : Number)
  | str (value : String)
  | arr (items : List Json)
  | obj (fields : List (String × Json))
  deriving Inhabited, Repr

namespace Number

/-- The decimal with the fewest digits in its mantissa: trailing zeros move into the
exponent. -/
def normalize (mantissa exponent : Int) (fuel : Nat) : Int × Int :=
  match fuel with
  | 0 => (mantissa, exponent)
  | fuel + 1 =>
    if mantissa != 0 && mantissa % 10 == 0 then normalize (mantissa / 10) (exponent + 1) fuel
    else if mantissa == 0 then (0, 0)
    else (mantissa, exponent)

/-- Numbers are equal when they are of one kind and denote the same value. -/
def beq : Number → Number → Bool
  | .int a, .int b => a == b
  | .decimal m e, .decimal m' e' =>
    let (m, e) := normalize m e (m.natAbs.log2 + 1)
    let (m', e') := normalize m' e' (m'.natAbs.log2 + 1)
    m == m' && e == e'
  | _, _ => false

instance : BEq Number := ⟨beq⟩

end Number

namespace Json

/-- Structural equality, with numbers compared as `Number.beq` does. -/
def beq : Json → Json → Bool
  | .null, .null => true
  | .bool a, .bool b => a == b
  | .num a, .num b => a == b
  | .str a, .str b => a == b
  | .arr xs, .arr ys => beqList xs ys
  | .obj xs, .obj ys => beqFields xs ys
  | _, _ => false
where
  /-- Item-wise equality of two lists. -/
  beqList : List Json → List Json → Bool
    | [], [] => true
    | x :: xs, y :: ys => beq x y && beqList xs ys
    | _, _ => false
  /-- Member-wise equality of two member lists. -/
  beqFields : List (String × Json) → List (String × Json) → Bool
    | [], [] => true
    | (k, x) :: xs, (k', y) :: ys => k == k' && beq x y && beqFields xs ys
    | _, _ => false

instance : BEq Json := ⟨beq⟩

/-- A whole number as a JSON integer. -/
def nat (n : Nat) : Json := .num (.int n)

/-- Inserts a member into a key-ordered member list, replacing one of the same key. -/
def insertField (key : String) (value : Json) : List (String × Json) → List (String × Json)
  | [] => [(key, value)]
  | (k, v) :: rest =>
    if key < k then (key, value) :: (k, v) :: rest
    else if key == k then (key, value) :: rest
    else (k, v) :: insertField key value rest

/-- An object of the given members; a later member replaces an earlier one of the same
key. -/
def ofFields (fields : List (String × Json)) : Json :=
  .obj (fields.foldl (fun acc (k, v) => insertField k v acc) [])

/-- The member of an object under a key. -/
def get? (value : Json) (key : String) : Option Json :=
  match value with
  | .obj fields => fields.lookup key
  | _ => none

/-- An object with one member set; other values are returned unchanged. -/
def set (value : Json) (key : String) (member : Json) : Json :=
  match value with
  | .obj fields => .obj (insertField key member fields)
  | other => other

/-- An object with one member removed. -/
def erase (value : Json) (key : String) : Json :=
  match value with
  | .obj fields => .obj (fields.filter fun (k, _) => k != key)
  | other => other

/-- The value reached by walking object members along a path of keys. -/
def walk? (value : Json) : List String → Option Json
  | [] => some value
  | key :: rest => match value.get? key with
    | some inner => walk? inner rest
    | none => none

/-- The text of a string value. -/
def getStr? : Json → Option String
  | .str s => some s
  | _ => none

/-- The items of an array value. -/
def getArr? : Json → Option (List Json)
  | .arr items => some items
  | _ => none

/-- The truth value of a boolean. -/
def getBool? : Json → Option Bool
  | .bool b => some b
  | _ => none

/-- The value of a non-negative integer. -/
def getNat? : Json → Option Nat
  | .num (.int n) => if 0 ≤ n then some n.toNat else none
  | _ => none

/-- Whether a value is an object. -/
def isObj : Json → Bool
  | .obj _ => true
  | _ => false

/-- Inserting a key and then looking it up finds the inserted value. -/
theorem lookup_insertField (key : String) (value : Json) (fields : List (String × Json)) :
    (insertField key value fields).lookup key = some value := by
  induction fields with
  | nil => simp [insertField]
  | cons kv rest ih =>
    obtain ⟨k, v⟩ := kv
    simp only [insertField]
    split
    · simp
    · split
      · simp
      · rename_i hlt heq
        simp only [List.lookup_cons]
        have : (key == k) = false := by simpa using heq
        simp [this, ih]

end Json

end ChartCatalog
