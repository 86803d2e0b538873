import ChartCatalog.Proofs.Store.Mirror
import ChartCatalog.Store.Collection

/-!
# Document collections as maps keyed by `_id`

A collection is meant to be a finite map from keys to JSON objects, each object holding
its key as its `_id` member (`Collection.KeyedById`). Every operation keeps the documents
objects in strictly increasing key order (`Collection.Wellformed`), and on every such
collection each operation does what its contract says (`Collection.Contract`): a batch of
writes is refused whole when one of its writes is refused, and is otherwise stored write
by write under the keys the selectors name, the last write of a key winning; removal and
update act on exactly the matching documents and count them; finding lists the matching
documents in key order, and finding one gives the first of them.

Every write sets the `_id` member of what it stores to the key it stores it under, but an
update that sets `_id` itself leaves the document under its old key with another `_id`.
So a collection stays keyed by `_id` along every run of operations whose updates leave
`_id` alone (`Collection.KeyedById.runOps`), and along no other in general
(`update_of_id_leaves_old_key`).
-/

set_option autoImplicit false

namespace ChartCatalog

namespace Json

theorem isObj_iff {doc : Json} : doc.isObj = true ↔ ∃ fields, doc = .obj fields := by
  cases doc <;> simp [isObj]

/-- A document with members set in turn, the last one set under a key winning; a value
that is no object has no members to set. -/
def merge (doc : Json) (fields : List (String × Json)) : Json :=
  fields.foldl (fun acc field => acc.set field.1 field.2) doc

theorem merge_obj (members fields : List (String × Json)) :
    merge (.obj members) fields =
      .obj (fields.foldl (fun acc field => insertField field.1 field.2 acc) members) := by
  induction fields generalizing members with
  | nil => rfl
  | cons field rest ih => exact ih (insertField field.1 field.2 members)

theorem merge_of_isObj_false {doc : Json} (notObj : doc.isObj = false)
    (fields : List (String × Json)) : merge doc fields = doc := by
  have setKeeps : ∀ key member, doc.set key member = doc := by
    intro key member
    cases doc with
    | obj members => cases notObj
    | _ => rfl
  induction fields with
  | nil => rfl
  | cons field rest ih =>
    show merge (doc.set field.1 field.2) rest = doc
    rw [setKeeps]
    exact ih

theorem merge_isObj {doc : Json} (isObject : doc.isObj = true) (fields : List (String × Json)) :
    (merge doc fields).isObj = true := by
  obtain ⟨members, rfl⟩ := isObj_iff.1 isObject
  rw [merge_obj]
  rfl

theorem get?_merge_obj (members fields : List (String × Json)) (k : String) :
    (merge (.obj members) fields).get? k = (fields.reverse.lookup k).or (members.lookup k) := by
  rw [merge_obj]
  exact lookup_foldl_insertField fields members k

/-- Setting members keeps the member under every key that is not set. -/
theorem get?_merge_of_not_mem (doc : Json) {fields : List (String × Json)} {k : String}
    (notSet : k ∉ fields.map Prod.fst) : (merge doc fields).get? k = doc.get? k := by
  cases doc with
  | obj members =>
    have missing : fields.reverse.lookup k = none :=
      Table.lookup_eq_none_iff_not_mem.2 (by simpa [List.map_reverse] using notSet)
    rw [get?_merge_obj, missing, Option.none_or]
    rfl
  | _ =>
    rw [merge_of_isObj_false]
    rfl

end Json

namespace Collection

open Json

/-! ## The invariants -/

/-- The documents of a collection are objects in strictly increasing key order. -/
structure Wellformed (c : Collection) : Prop where
  sorted : c.docs.Sorted
  objects : ∀ k doc, (k, doc) ∈ c.docs.rows → doc.isObj = true

/-- A well-formed collection each of whose documents holds its key as its `_id` member. -/
structure KeyedById (c : Collection) : Prop extends c.Wellformed where
  keyed : ∀ k doc, (k, doc) ∈ c.docs.rows → doc.get? "_id" = some (.str k)

theorem KeyedById.empty (name : String) : (Collection.empty name).KeyedById where
  sorted := Table.Sorted.empty
  objects _ _ member := by cases member
  keyed _ _ member := by cases member

/-! ## Writes -/

/-- A write the collection takes: a selector whose `_id` is text, and an object. -/
def Accepts (write : Json × Json) : Prop :=
  (∃ id, write.1.get? "_id" = some (.str id)) ∧ write.2.isObj = true

/-- The key a write's selector names. -/
def keyOf (write : Json × Json) : String :=
  match write.1.get? "_id" with
  | some (.str id) => id
  | _ => ""

/-- A write as it is stored: under its key, with the key as `_id`. -/
def stored (write : Json × Json) : String × Json :=
  (keyOf write, write.2.set "_id" (.str (keyOf write)))

theorem checkWrite_of_accepts (c : Collection) {write : Json × Json} (accepts : Accepts write) :
    c.checkWrite write.1 write.2 = .ok (stored write) := by
  obtain ⟨⟨id, named⟩, isObject⟩ := accepts
  obtain ⟨fields, isFields⟩ := isObj_iff.1 isObject
  obtain ⟨selector, doc⟩ := write
  simp only at named isFields
  subst isFields
  simp [checkWrite, named, stored, keyOf, Json.set]

theorem checkWrite_refused (c : Collection) {write : Json × Json} (refused : ¬Accepts write) :
    ∃ e, c.checkWrite write.1 write.2 = .error e := by
  obtain ⟨selector, doc⟩ := write
  unfold checkWrite
  split
  · -- the selector names a text key, so the document is at fault: it is no object
    rename_i id named
    cases doc with
    | obj fields => exact absurd ⟨⟨id, named⟩, rfl⟩ refused
    | _ => exact ⟨_, rfl⟩
  · exact ⟨_, rfl⟩

/-- Checking a batch stores every write when each is taken, for any check that takes
each write as `checkWrite` does. -/
theorem mapM_of_accepts (writes : List (Json × Json)) (check : Json × Json → Outcome (String × Json))
    (accepts : ∀ w ∈ writes, check w = .ok (stored w)) :
    writes.mapM check = .ok (writes.map stored) := by
  induction writes with
  | nil => rfl
  | cons w rest ih =>
    have first := accepts w List.mem_cons_self
    have others := ih fun w' member => accepts w' (List.mem_cons_of_mem _ member)
    simp only [List.mapM_cons, first, others, List.map_cons]
    rfl

/-- Checking a batch fails when one write is refused. -/
theorem mapM_of_refused (writes : List (Json × Json)) (check : Json × Json → Outcome (String × Json))
    (refused : ∃ w ∈ writes, ∃ e, check w = .error e) :
    ∃ e, writes.mapM check = .error e := by
  induction writes with
  | nil => simp at refused
  | cons w rest ih =>
    rw [List.mapM_cons]
    cases first : check w with
    | error e => exact ⟨e, rfl⟩
    | ok stored =>
      obtain ⟨w', member, e, failed⟩ := refused
      rcases List.mem_cons.1 member with rfl | inRest
      · rw [first] at failed
        cases failed
      · obtain ⟨e', others⟩ := ih ⟨w', inRest, e, failed⟩
        simp only [others]
        exact ⟨e', rfl⟩

/-- A batch whose writes are all taken stores each under its key, in order, and counts
them. -/
theorem bulkUpsert_of_accepts (c : Collection) {writes : List (Json × Json)}
    (accepts : ∀ w ∈ writes, Accepts w) :
    c.bulkUpsert writes = .ok (writes.length, ⟨c.name, c.docs.insertAll (writes.map stored)⟩) := by
  unfold bulkUpsert
  rw [mapM_of_accepts writes _ fun w member => c.checkWrite_of_accepts (accepts w member)]
  simp only [bind, Except.bind, pure, Except.pure, List.length_map]
  rfl

/-- A batch is refused exactly when one of its writes is. -/
theorem bulkUpsert_refused_iff (c : Collection) (writes : List (Json × Json)) :
    (∃ e, c.bulkUpsert writes = .error e) ↔ ∃ w ∈ writes, ¬Accepts w := by
  constructor
  · rintro ⟨e, refused⟩
    by_contra allTaken
    rw [c.bulkUpsert_of_accepts fun w member => not_not.1 fun no => allTaken ⟨w, member, no⟩]
      at refused
    cases refused
  · rintro ⟨w, member, refused⟩
    obtain ⟨e, failed⟩ := mapM_of_refused writes (fun w => c.checkWrite w.1 w.2)
      ⟨w, member, c.checkWrite_refused refused⟩
    unfold bulkUpsert
    rw [failed]
    exact ⟨e, rfl⟩

/-- A stored write is an object holding its key as `_id`. -/
theorem stored_keyed {write : Json × Json} (accepts : Accepts write) :
    (stored write).2.isObj = true ∧ (stored write).2.get? "_id" = some (.str (stored write).1) := by
  obtain ⟨fields, isFields⟩ := isObj_iff.1 accepts.2
  simp only [stored, isFields]
  exact ⟨rfl, by simp [Json.set, get?, lookup_insertField]⟩

/-- What a taken batch leaves under each key: the last write of the key, or what was there
for a key no write names. -/
theorem mem_bulkUpsert (c : Collection) (wellformed : c.Wellformed) {writes : List (Json × Json)}
    {k : String} {doc : Json} :
    (k, doc) ∈ (c.docs.insertAll (writes.map stored)).rows ↔
      (writes.map stored).reverse.lookup k = some doc ∨
        ((k, doc) ∈ c.docs.rows ∧ k ∉ writes.map keyOf) := by
  rw [Table.mem_insertAll wellformed.sorted, List.map_map]
  rfl

/-- A stored write found by its key is the stored form of a write of the batch. -/
theorem lookup_stored {writes : List (Json × Json)} {k : String} {doc : Json}
    (found : (writes.map stored).reverse.lookup k = some doc) :
    ∃ w ∈ writes, stored w = (k, doc) := by
  rw [← List.map_reverse] at found
  obtain ⟨before, after, rows, -⟩ := List.lookup_eq_some_iff.1 found
  have member : (k, doc) ∈ writes.reverse.map stored := by
    rw [rows]
    simp
  obtain ⟨w, inBatch, same⟩ := List.mem_map.1 member
  exact ⟨w, List.mem_reverse.1 inBatch, same⟩

/-- A document after a taken batch is a fresh write, an object holding its key as `_id`,
or one that was there before. -/
theorem fresh_or_kept {c : Collection} (wellformed : c.Wellformed) {writes : List (Json × Json)}
    (accepts : ∀ w ∈ writes, Accepts w) {k : String} {doc : Json}
    (member : (k, doc) ∈ (c.docs.insertAll (writes.map stored)).rows) :
    (doc.isObj = true ∧ doc.get? "_id" = some (.str k)) ∨ (k, doc) ∈ c.docs.rows := by
  rcases (c.mem_bulkUpsert wellformed).1 member with written | ⟨kept, -⟩
  · obtain ⟨w, inBatch, same⟩ := lookup_stored written
    have fresh := stored_keyed (accepts w inBatch)
    rw [same] at fresh
    exact .inl fresh
  · exact .inr kept

theorem Wellformed.insertAll {c : Collection} (wellformed : c.Wellformed) {writes : List (Json × Json)}
    (accepts : ∀ w ∈ writes, Accepts w) :
    (⟨c.name, c.docs.insertAll (writes.map stored)⟩ : Collection).Wellformed where
  sorted := wellformed.sorted.insertAll _
  objects k doc member := by
    rcases fresh_or_kept wellformed accepts member with fresh | kept
    · exact fresh.1
    · exact wellformed.objects k doc kept

theorem KeyedById.insertAll {c : Collection} (keyed : c.KeyedById) {writes : List (Json × Json)}
    (accepts : ∀ w ∈ writes, Accepts w) :
    (⟨c.name, c.docs.insertAll (writes.map stored)⟩ : Collection).KeyedById where
  toWellformed := keyed.toWellformed.insertAll accepts
  keyed k doc member := by
    rcases fresh_or_kept keyed.toWellformed accepts member with fresh | kept
    · exact fresh.2
    · exact keyed.keyed k doc kept

/-! ## Updates, removals and reads -/

/-- Updating sets the members on every matching object and counts those objects. -/
theorem updateFields_eq_rows (c : Collection) (f : Filter) (fields : List (String × Json)) :
    c.updateFields f fields =
      ((c.docs.rows.filter fun row => f.matches row.2 && row.2.isObj).length,
        ⟨c.name, ⟨c.docs.rows.map fun row =>
          (row.1, if f.matches row.2 then merge row.2 fields else row.2)⟩⟩) := by
  unfold updateFields
  rw [Table.update_eq]
  -- a row changes exactly when the filter selects it and it is an object
  refine Prod.ext (congrArg List.length (List.filter_congr fun row _ => ?_))
    (congrArg (Collection.mk c.name) (congrArg Table.mk (List.map_congr_left fun row _ => ?_)))
  · obtain ⟨k, doc⟩ := row
    cases f.matches doc <;> cases doc <;> rfl
  · obtain ⟨k, doc⟩ := row
    cases selected : f.matches doc
    · rfl
    · cases doc with
      | obj members => simp [merge_obj]
      | _ =>
        simp only [if_true]
        rw [merge_of_isObj_false] <;> rfl

/-- Removing counts the matching documents and keeps the others in order. -/
theorem removeAll_exact (c : Collection) (f : Filter) :
    (c.removeAll f).1 = (c.docs.rows.filter fun row => f.matches row.2).length ∧
      (c.removeAll f).2.docs.rows = c.docs.rows.filter fun row => !f.matches row.2 :=
  ⟨Table.removeWhere_count (t := c.docs) fun _ doc => f.matches doc, rfl⟩

/-- Finding one document gives the first document that finding all of them lists. -/
theorem findOne_eq_head_find (c : Collection) (f : Filter) :
    c.findOne f = (c.find f).head? := by
  simp only [findOne, find, Table.values, Table.select, List.find?_map, List.head?_map,
    List.head?_filter]
  rfl

theorem mem_updateFields {c : Collection} {f : Filter} {fields : List (String × Json)} {k : String}
    {doc : Json} :
    (k, doc) ∈ (c.updateFields f fields).2.docs.rows ↔
      ∃ old, (k, old) ∈ c.docs.rows ∧ doc = if f.matches old then merge old fields else old := by
  rw [updateFields_eq_rows]
  simp only [List.mem_map, Prod.mk.injEq]
  constructor
  · rintro ⟨⟨k', old⟩, member, rfl, rfl⟩
    exact ⟨old, member, rfl⟩
  · rintro ⟨old, member, rfl⟩
    exact ⟨(k, old), member, rfl, rfl⟩

/-- On objects alone, updating counts the matching documents. -/
theorem updateFields_count {c : Collection} (wellformed : c.Wellformed) (f : Filter)
    (fields : List (String × Json)) :
    (c.updateFields f fields).1 = (c.docs.rows.filter fun row => f.matches row.2).length := by
  rw [updateFields_eq_rows]
  refine congrArg List.length (List.filter_congr fun row member => ?_)
  rw [wellformed.objects row.1 row.2 member, Bool.and_true]

theorem mem_removeAll {c : Collection} {f : Filter} {k : String} {doc : Json} :
    (k, doc) ∈ (c.removeAll f).2.docs.rows ↔ (k, doc) ∈ c.docs.rows ∧ f.matches doc = false := by
  rw [(removeAll_exact c f).2]
  simp

theorem Wellformed.updateFields {c : Collection} (wellformed : c.Wellformed) (f : Filter)
    (fields : List (String × Json)) : (c.updateFields f fields).2.Wellformed where
  sorted := by
    rw [updateFields_eq_rows]
    exact List.pairwise_map.2 wellformed.sorted
  objects k doc member := by
    obtain ⟨old, kept, rfl⟩ := mem_updateFields.1 member
    have isObject := wellformed.objects k old kept
    split
    · exact merge_isObj isObject fields
    · exact isObject

theorem KeyedById.updateFields {c : Collection} (keyed : c.KeyedById) (f : Filter)
    {fields : List (String × Json)} (keepsId : "_id" ∉ fields.map Prod.fst) :
    (c.updateFields f fields).2.KeyedById where
  toWellformed := keyed.toWellformed.updateFields f fields
  keyed k doc member := by
    obtain ⟨old, kept, rfl⟩ := mem_updateFields.1 member
    split
    · rw [get?_merge_of_not_mem old keepsId]
      exact keyed.keyed k old kept
    · exact keyed.keyed k old kept

theorem Wellformed.removeAll {c : Collection} (wellformed : c.Wellformed) (f : Filter) :
    (c.removeAll f).2.Wellformed where
  sorted := wellformed.sorted.filter _
  objects k doc member := wellformed.objects k doc (mem_removeAll.1 member).1

theorem KeyedById.removeAll {c : Collection} (keyed : c.KeyedById) (f : Filter) :
    (c.removeAll f).2.KeyedById where
  toWellformed := keyed.toWellformed.removeAll f
  keyed k doc member := keyed.keyed k doc (mem_removeAll.1 member).1

/-- In a collection keyed by `_id`, the filter on `_id` finds the document under that key,
and nothing else. -/
theorem KeyedById.find_onId {c : Collection} (keyed : c.KeyedById) (key : String) :
    c.find (Filter.onId key) = (c.docs.get? key).toList := by
  have onKey : ∀ k doc, (k, doc) ∈ c.docs.rows → (Filter.onId key).matches doc = (k == key) := by
    intro k doc member
    rw [Filter.onId, Filter.matches_eq_of_walk? (walk?_single (keyed.keyed k doc member)),
      Json.str_beq_str]
  exact Table.select_of_key keyed.sorted onKey

/-! ## Runs of calls -/

/-- One call on a collection: the writes `bulkUpsert`, `upsert`, `updateFields` and
`removeAll`, and the reads `find` and `findOne`. -/
inductive Op where
  | bulkUpsert (writes : List (Json × Json))
  | upsert (id : String) (doc : Json)
  | updateFields (filter : Filter) (fields : List (String × Json))
  | removeAll (filter : Filter)
  | find (filter : Filter)
  | findOne (filter : Filter)

/-- The collection after a call: a refused write leaves it as it was, and reads leave it. -/
def perform (c : Collection) : Op → Collection
  | .bulkUpsert writes =>
    match c.bulkUpsert writes with
    | .ok (_, written) => written
    | .error _ => c
  | .upsert id doc =>
    match c.upsert id doc with
    | .ok written => written
    | .error _ => c
  | .updateFields f fields => (c.updateFields f fields).2
  | .removeAll f => (c.removeAll f).2
  | .find _ => c
  | .findOne _ => c

/-- The collection after a run of calls, one after the other. -/
def runOps (c : Collection) (ops : List Op) : Collection :=
  ops.foldl perform c

/-- Whether a call is an update that sets `_id`. -/
def Op.setsId : Op → Bool
  | .updateFields _ fields => fields.any fun field => field.1 == "_id"
  | _ => false

theorem runOps_cons (c : Collection) (op : Op) (ops : List Op) :
    c.runOps (op :: ops) = (c.perform op).runOps ops := rfl

theorem not_mem_of_setsId {f : Filter} {fields : List (String × Json)}
    (keeps : (Op.updateFields f fields).setsId = false) : "_id" ∉ fields.map Prod.fst := by
  simp only [Op.setsId, List.any_eq_false, beq_iff_eq] at keeps
  intro member
  obtain ⟨field, inFields, named⟩ := List.mem_map.1 member
  exact keeps field inFields named

/-- One write is a batch of one. -/
theorem perform_upsert (c : Collection) (id : String) (doc : Json) :
    c.perform (.upsert id doc) = c.perform (.bulkUpsert [(.obj [("_id", .str id)], doc)]) := by
  simp only [perform, upsert]
  cases c.bulkUpsert [(.obj [("_id", .str id)], doc)] <;> rfl

/-- A batch leaves the collection as it was, or it is taken whole. -/
theorem perform_bulkUpsert_cases (c : Collection) (writes : List (Json × Json)) :
    c.perform (.bulkUpsert writes) = c ∨
      ((∀ w ∈ writes, Accepts w) ∧
        c.perform (.bulkUpsert writes) = ⟨c.name, c.docs.insertAll (writes.map stored)⟩) := by
  by_cases allTaken : ∀ w ∈ writes, Accepts w
  · right
    refine ⟨allTaken, ?_⟩
    simp only [perform, c.bulkUpsert_of_accepts allTaken]
  · left
    obtain ⟨e, refused⟩ := (c.bulkUpsert_refused_iff writes).2 (by simpa using allTaken)
    simp only [perform, refused]

theorem Wellformed.perform_bulkUpsert {c : Collection} (wellformed : c.Wellformed)
    (writes : List (Json × Json)) : (c.perform (.bulkUpsert writes)).Wellformed := by
  rcases c.perform_bulkUpsert_cases writes with same | ⟨allTaken, written⟩
  · rw [same]
    exact wellformed
  · rw [written]
    exact wellformed.insertAll allTaken

theorem KeyedById.perform_bulkUpsert {c : Collection} (keyed : c.KeyedById)
    (writes : List (Json × Json)) : (c.perform (.bulkUpsert writes)).KeyedById := by
  rcases c.perform_bulkUpsert_cases writes with same | ⟨allTaken, written⟩
  · rw [same]
    exact keyed
  · rw [written]
    exact keyed.insertAll allTaken

/-- Every call keeps a collection well formed. -/
theorem Wellformed.perform {c : Collection} (wellformed : c.Wellformed) (op : Op) :
    (c.perform op).Wellformed := by
  cases op with
  | bulkUpsert writes => exact wellformed.perform_bulkUpsert writes
  | upsert id doc =>
    rw [perform_upsert]
    exact wellformed.perform_bulkUpsert _
  | updateFields f fields => exact wellformed.updateFields f fields
  | removeAll f => exact wellformed.removeAll f
  | find f => exact wellformed
  | findOne f => exact wellformed

/-- Every call but an update that sets `_id` keeps a collection keyed by `_id`. -/
theorem KeyedById.perform {c : Collection} (keyed : c.KeyedById) {op : Op}
    (keeps : op.setsId = false) : (c.perform op).KeyedById := by
  cases op with
  | bulkUpsert writes => exact keyed.perform_bulkUpsert writes
  | upsert id doc =>
    rw [perform_upsert]
    exact keyed.perform_bulkUpsert _
  | updateFields f fields => exact keyed.updateFields f (not_mem_of_setsId keeps)
  | removeAll f => exact keyed.removeAll f
  | find f => exact keyed
  | findOne f => exact keyed

theorem Wellformed.runOps {c : Collection} (wellformed : c.Wellformed) (ops : List Op) :
    (c.runOps ops).Wellformed := by
  induction ops generalizing c with
  | nil => exact wellformed
  | cons op rest ih =>
    rw [runOps_cons]
    exact ih (wellformed.perform op)

theorem KeyedById.runOps {c : Collection} (keyed : c.KeyedById) {ops : List Op}
    (keeps : ∀ op ∈ ops, op.setsId = false) : (c.runOps ops).KeyedById := by
  induction ops generalizing c with
  | nil => exact keyed
  | cons op rest ih =>
    rw [runOps_cons]
    exact ih (keyed.perform (keeps op List.mem_cons_self))
      fun op' member => keeps op' (List.mem_cons_of_mem _ member)

/-! ## The contract -/

/-- One write of an object stores it under its key with the key as `_id`; one write of
anything else is refused. -/
theorem upsert_eq (c : Collection) (id : String) (doc : Json) :
    c.upsert id doc =
      if doc.isObj then .ok ⟨c.name, c.docs.insert id (doc.set "_id" (.str id))⟩
      else .error (.store ("Document for " ++ id ++ " in " ++ c.name ++ " is not an object")) := by
  cases doc <;> simp [upsert, bulkUpsert, checkWrite, get?, Json.set, isObj, Except.map, bind,
    Except.bind, pure, Except.pure]

/-- What each call does on a collection, read off its result. -/
structure Contract (c : Collection) : Prop where
  /-- A batch is refused exactly when one of its writes is. -/
  refused : ∀ writes, (∃ e, c.bulkUpsert writes = .error e) ↔ ∃ w ∈ writes, ¬Accepts w
  /-- A taken batch is counted whole, and leaves under each key the last write of the
  key, or what was there for a key no write names. -/
  written : ∀ writes, (∀ w ∈ writes, Accepts w) →
    ∃ after, c.bulkUpsert writes = .ok (writes.length, after) ∧
      ∀ k doc, (k, doc) ∈ after.docs.rows ↔
        (writes.map stored).reverse.lookup k = some doc ∨
          ((k, doc) ∈ c.docs.rows ∧ k ∉ writes.map keyOf)
  /-- One write stores an object under its key, and refuses anything else. -/
  upserted : ∀ id doc, c.upsert id doc =
    if doc.isObj then .ok ⟨c.name, c.docs.insert id (doc.set "_id" (.str id))⟩
    else .error (.store ("Document for " ++ id ++ " in " ++ c.name ++ " is not an object"))
  /-- Removing drops exactly the matching documents and counts them. -/
  removed : ∀ f, (c.removeAll f).1 = (c.docs.rows.filter fun row => f.matches row.2).length ∧
    ∀ k doc, (k, doc) ∈ (c.removeAll f).2.docs.rows ↔ (k, doc) ∈ c.docs.rows ∧ f.matches doc = false
  /-- Updating sets the members on exactly the matching documents and counts them. -/
  updated : ∀ f fields,
    (c.updateFields f fields).1 = (c.docs.rows.filter fun row => f.matches row.2).length ∧
      ∀ k doc, (k, doc) ∈ (c.updateFields f fields).2.docs.rows ↔
        ∃ old, (k, old) ∈ c.docs.rows ∧ doc = if f.matches old then merge old fields else old
  /-- Finding lists the matching documents by strictly increasing key, and finding one
  gives the first of them. -/
  found : ∀ f, ∃ rows : List (String × Json), rows.Pairwise (fun a b => a.1 < b.1) ∧
    (∀ k doc, (k, doc) ∈ rows ↔ (k, doc) ∈ c.docs.rows ∧ f.matches doc = true) ∧
    c.find f = rows.map Prod.snd ∧ c.findOne f = (rows.map Prod.snd).head?

theorem Wellformed.contract {c : Collection} (wellformed : c.Wellformed) : c.Contract where
  refused := c.bulkUpsert_refused_iff
  written writes allTaken :=
    ⟨_, c.bulkUpsert_of_accepts allTaken, fun _ _ => c.mem_bulkUpsert wellformed⟩
  upserted := c.upsert_eq
  removed f := ⟨(removeAll_exact c f).1, fun _ _ => mem_removeAll⟩
  updated f fields := ⟨updateFields_count wellformed f fields, fun _ _ => mem_updateFields⟩
  found f := by
    refine ⟨c.docs.rows.filter fun row => f.matches row.2, wellformed.sorted.filter _,
      fun k doc => by simp, rfl, ?_⟩
    rw [findOne_eq_head_find]
    rfl

/-- Along every run of calls from an empty collection, each call does what its contract
says, and the collection stays keyed by `_id` as long as no update sets `_id`. -/
theorem collection_calls_keep_contract_and_keys (name : String) (ops : List Op) :
    ((Collection.empty name).runOps ops).Contract ∧
      ((∀ op ∈ ops, op.setsId = false) → ((Collection.empty name).runOps ops).KeyedById) :=
  ⟨((KeyedById.empty name).toWellformed.runOps ops).contract,
    fun keeps => (KeyedById.empty name).runOps keeps⟩

theorem collection_calls_keep_contract_and_keys_of_writes :
    (∀ op ∈ [Op.upsert "a" (.obj []), Op.bulkUpsert [(.obj [("_id", .str "b")], .obj [])],
        Op.removeAll (Filter.onId "a")], op.setsId = false) ∧
      ((Collection.empty "charts").runOps [Op.upsert "a" (.obj []),
        Op.bulkUpsert [(.obj [("_id", .str "b")], .obj [])], Op.removeAll (Filter.onId "a")]).KeyedById :=
  have keeps : ∀ op ∈ [Op.upsert "a" (.obj []), Op.bulkUpsert [(.obj [("_id", .str "b")], .obj [])],
      Op.removeAll (Filter.onId "a")], op.setsId = false := by
    simp [Op.setsId]
  ⟨keeps, (collection_calls_keep_contract_and_keys "charts" _).2 keeps⟩

/-- An update that sets `_id` leaves the document under its old key: afterwards two
documents have `_id` "b", and the collection is keyed by `_id` no longer. -/
theorem update_of_id_leaves_old_key :
    let c := (Collection.empty "charts").runOps [Op.upsert "a" (.obj []), Op.upsert "b" (.obj []),
      Op.updateFields (Filter.onId "a") [("_id", .str "b")]];
    (c.find (Filter.onId "b")).length = 2 ∧ ¬c.KeyedById := by
  intro c
  have twice : (c.find (Filter.onId "b")).length = 2 := by decide +kernel
  refine ⟨twice, fun keyed => ?_⟩
  have atMostOnce : (c.find (Filter.onId "b")).length ≤ 1 := by
    rw [keyed.find_onId]
    cases c.docs.get? "b" <;> simp
  omega

end Collection

end ChartCatalog
