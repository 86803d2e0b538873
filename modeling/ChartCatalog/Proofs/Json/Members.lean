import ChartCatalog.Json.Value
import ChartCatalog.Store.Filter

/-!
# Members of JSON objects

What a program can read from an object is its member under each key (`Json.get?`), and
paths of keys walk from member to member (`Json.walk?`). Setting a member changes the
member under its key only (`lookup_insertField_eq_ite`), and an object built from a list
of members holds, under each key, the last member of the list with that key
(`get?_ofFields`).

Two objects with the same member under every key (`SameMembers`) are read alike: by any
path of keys (`walk?_cons_eq`), and so by every filter that walks such paths.
-/

set_option autoImplicit false

namespace ChartCatalog.Json

/-! ## Setting members -/

/-- Setting a member changes what its key finds and nothing else. -/
theorem lookup_insertField_eq_ite (key : String) (value : Json) (fields : List (String × Json))
    (k : String) :
    (insertField key value fields).lookup k = if k = key then some value else fields.lookup k := by
  by_cases same : k = key
  · subst same
    simp [lookup_insertField]
  · simp only [same, if_false]
    induction fields with
    | nil => simp [insertField, List.lookup_cons, beq_false_of_ne same]
    | cons field rest ih =>
      obtain ⟨k', v'⟩ := field
      unfold insertField
      split
      · simp [List.lookup_cons, beq_false_of_ne same]
      · split
        · rename_i replaced
          have replaced : key = k' := by simpa using replaced
          subst replaced
          simp [List.lookup_cons, beq_false_of_ne same]
        · simp only [List.lookup_cons, ih]

/-- Setting members one after another: each key finds the last member set under it, or
what it found before. -/
theorem lookup_foldl_insertField (fields acc : List (String × Json)) (k : String) :
    (fields.foldl (fun acc (key, value) => insertField key value acc) acc).lookup k =
      (fields.reverse.lookup k).or (acc.lookup k) := by
  induction fields generalizing acc with
  | nil => simp
  | cons field rest ih =>
    obtain ⟨key, value⟩ := field
    rw [List.foldl_cons, ih, lookup_insertField_eq_ite, List.reverse_cons, List.lookup_append]
    by_cases same : k = key
    · subst same
      simp
    · simp [same, List.lookup_cons, beq_false_of_ne same]

/-- An object built from a list of members holds, under each key, the last member of the
list with that key. -/
theorem get?_ofFields (fields : List (String × Json)) (k : String) :
    (ofFields fields).get? k = fields.reverse.lookup k := by
  simp [ofFields, get?, lookup_foldl_insertField]

theorem get?_set_obj (fields : List (String × Json)) (key : String) (member : Json) (k : String) :
    ((Json.obj fields).set key member).get? k = if k = key then some member else fields.lookup k := by
  simp [set, get?, lookup_insertField_eq_ite]

/-- A path walks on from the member under its first key. -/
theorem walk?_cons_of_get? {value inner : Json} {key : String} (member : value.get? key = some inner)
    (rest : List String) : value.walk? (key :: rest) = inner.walk? rest := by
  simp [walk?, member]

/-! ## Objects with the same members -/

/-- Two objects with the same member under every key. -/
def SameMembers (a b : Json) : Prop :=
  ∃ fields fields', a = .obj fields ∧ b = .obj fields' ∧ ∀ k, fields.lookup k = fields'.lookup k

theorem SameMembers.refl (fields : List (String × Json)) : SameMembers (.obj fields) (.obj fields) :=
  ⟨fields, fields, rfl, rfl, fun _ => rfl⟩

theorem SameMembers.symm {a b : Json} (same : SameMembers a b) : SameMembers b a := by
  obtain ⟨fields, fields', rfl, rfl, lookups⟩ := same
  exact ⟨fields', fields, rfl, rfl, fun k => (lookups k).symm⟩

theorem SameMembers.trans {a b c : Json} (ab : SameMembers a b) (bc : SameMembers b c) :
    SameMembers a c := by
  obtain ⟨fields, fields', rfl, rfl, lookups⟩ := ab
  obtain ⟨_, fields'', same, rfl, lookups'⟩ := bc
  cases same
  exact ⟨fields, fields'', rfl, rfl, fun k => (lookups k).trans (lookups' k)⟩

theorem SameMembers.get?_eq {a b : Json} (same : SameMembers a b) (k : String) :
    a.get? k = b.get? k := by
  obtain ⟨fields, fields', rfl, rfl, lookups⟩ := same
  exact lookups k

/-- Objects with the same members are walked alike along every path of keys. -/
theorem SameMembers.walk?_cons_eq {a b : Json} (same : SameMembers a b) (k : String)
    (rest : List String) : a.walk? (k :: rest) = b.walk? (k :: rest) := by
  simp only [walk?, same.get?_eq k]

/-- Objects with the same members, given a member each, have the same members again. -/
theorem SameMembers.set {a b : Json} (same : SameMembers a b) (key : String) (member : Json) :
    SameMembers (a.set key member) (b.set key member) := by
  obtain ⟨fields, fields', rfl, rfl, lookups⟩ := same
  refine ⟨_, _, rfl, rfl, fun k => ?_⟩
  simp [lookup_insertField_eq_ite, lookups k]

end ChartCatalog.Json
