import ChartCatalog.Store.Table
import Mathlib.Data.String.Basic
import Mathlib.Data.List.Basic
import Mathlib.Data.List.Forall2

/-!
# Laws of keyed tables

A table is meant to be a finite map from text keys to rows, kept as a row list in
strictly increasing key order (`Table.Sorted`). Every write keeps that order: inserting
a row, removing rows and changing rows in place. Under it the rows after a write are
described by membership alone (`mem_insert`, `mem_removeWhere`, `mem_update`), and two
sorted row lists with the same members are the same list (`rows_eq_of_mem_iff`), which is
how listings of two stores are compared.

Inserting a list of rows one after another leaves, under each key written, the row
written last (`mem_insertAll`): the reverse of the list, looked up at the key.
-/

set_option autoImplicit false

namespace ChartCatalog.Table

variable {α : Type}

/-- Keys strictly increase along the rows. -/
def Sorted (t : Table α) : Prop := t.rows.Pairwise fun a b => a.1 < b.1

/-- The rows of a list of rows inserted one after another, each under its key. -/
def insertAll (t : Table α) (entries : List (String × α)) : Table α :=
  entries.foldl (fun acc entry => acc.insert entry.1 entry.2) t

/-! ## Sorted row lists -/

/-- Two sorted row lists with the same rows are the same list. -/
theorem rows_eq_of_mem_iff {rows rows' : List (String × α)}
    (sorted : rows.Pairwise fun a b => a.1 < b.1) (sorted' : rows'.Pairwise fun a b => a.1 < b.1)
    (same : ∀ row, row ∈ rows ↔ row ∈ rows') : rows = rows' := by
  have distinct : ∀ {l : List (String × α)}, l.Pairwise (fun a b => a.1 < b.1) → l.Nodup :=
    fun h => h.imp fun lt => ne_of_apply_ne Prod.fst (ne_of_lt lt)
  refine List.Perm.eq_of_pairwise ?_ sorted sorted' ((List.perm_ext_iff_of_nodup
    (distinct sorted) (distinct sorted')).2 same)
  intro a b _ _ ab ba
  exact absurd ab (lt_asymm ba)

theorem insertRow_mem {key k : String} {value v : α} :
    ∀ {rows : List (String × α)}, rows.Pairwise (fun a b => a.1 < b.1) →
      ((k, v) ∈ insertRow key value rows ↔ (k = key ∧ v = value) ∨ ((k, v) ∈ rows ∧ k ≠ key))
  | [], _ => by simp [insertRow]
  | (k', v') :: rest, sorted => by
    obtain ⟨above, sortedRest⟩ := List.pairwise_cons.1 sorted
    simp only [insertRow]
    split
    · rename_i below
      -- every key of the list is at least `k'`, so none is `key`
      have fresh : ∀ row ∈ (k', v') :: rest, row.1 ≠ key := by
        intro row member equal
        rcases List.mem_cons.1 member with rfl | inRest
        · exact lt_irrefl _ (equal ▸ below)
        · exact lt_irrefl _ (lt_trans below (equal ▸ above row inRest))
      have := fresh (k, v)
      grind
    · split
      · rename_i _ same
        have same : key = k' := by simpa using same
        subst same
        have fresh : ∀ row ∈ rest, row.1 ≠ key := fun row member equal =>
          lt_irrefl _ (equal ▸ above row member)
        have := fresh (k, v)
        grind
      · rename_i notBelow notSame
        have after : k' < key :=
          lt_of_le_of_ne (not_lt.1 notBelow) (Ne.symm (by simpa using notSame))
        have ih := @insertRow_mem key k value v _ sortedRest
        simp only [List.mem_cons, ih, Prod.mk.injEq]
        constructor
        · rintro ((⟨rfl, rfl⟩) | (⟨rfl, rfl⟩) | ⟨inRest, ne⟩)
          · exact .inr ⟨.inl ⟨rfl, rfl⟩, (ne_of_lt after)⟩
          · exact .inl ⟨rfl, rfl⟩
          · exact .inr ⟨.inr inRest, ne⟩
        · rintro (⟨rfl, rfl⟩ | ⟨(⟨rfl, rfl⟩) | inRest, ne⟩)
          · exact .inr (.inl ⟨rfl, rfl⟩)
          · exact .inl ⟨rfl, rfl⟩
          · exact .inr (.inr ⟨inRest, ne⟩)

theorem insertRow_sorted {key : String} {value : α} :
    ∀ {rows : List (String × α)}, rows.Pairwise (fun a b => a.1 < b.1) →
      (insertRow key value rows).Pairwise (fun a b => a.1 < b.1)
  | [], _ => by simp [insertRow]
  | (k', v') :: rest, sorted => by
    obtain ⟨above, sortedRest⟩ := List.pairwise_cons.1 sorted
    simp only [insertRow]
    split
    · rename_i below
      refine List.Pairwise.cons (fun row member => ?_) sorted
      rcases List.mem_cons.1 member with rfl | inRest
      · exact below
      · exact lt_trans below (above row inRest)
    · split
      · rename_i _ same
        have same : key = k' := by simpa using same
        subst same
        exact List.Pairwise.cons above sortedRest
      · rename_i notBelow notSame
        have after : k' < key :=
          lt_of_le_of_ne (not_lt.1 notBelow) (Ne.symm (by simpa using notSame))
        refine List.Pairwise.cons (fun row member => ?_) (insertRow_sorted sortedRest)
        obtain ⟨k, v⟩ := row
        rcases (insertRow_mem sortedRest).1 member with ⟨rfl, rfl⟩ | ⟨inRest, _⟩
        · exact after
        · exact above _ inRest

/-! ## Writes keep the key order -/

variable {t : Table α}

theorem Sorted.empty : (empty : Table α).Sorted := List.Pairwise.nil

theorem Sorted.insert (sorted : t.Sorted) (key : String) (value : α) :
    (t.insert key value).Sorted :=
  insertRow_sorted sorted

theorem mem_insert (sorted : t.Sorted) {key k : String} {value v : α} :
    (k, v) ∈ (t.insert key value).rows ↔ (k = key ∧ v = value) ∨ ((k, v) ∈ t.rows ∧ k ≠ key) :=
  insertRow_mem sorted

theorem Sorted.removeWhere (sorted : t.Sorted) (drop : String → α → Bool) :
    (t.removeWhere drop).2.Sorted :=
  sorted.filter _

theorem mem_removeWhere {drop : String → α → Bool} {k : String} {v : α} :
    (k, v) ∈ (t.removeWhere drop).2.rows ↔ (k, v) ∈ t.rows ∧ drop k v = false := by
  simp [removeWhere]

/-- Removing rows counts the rows that the test drops. -/
theorem removeWhere_count (drop : String → α → Bool) :
    (t.removeWhere drop).1 = (t.rows.filter fun row => drop row.1 row.2).length := by
  have split := t.rows.length_eq_length_filter_add fun row => drop row.1 row.2
  simp only [removeWhere]
  omega

/-- Selecting from a table with rows removed selects the rows that stay. -/
theorem select_removeWhere (drop keep : String → α → Bool) :
    (t.removeWhere drop).2.select keep = t.select fun k v => !drop k v && keep k v := by
  simp [select, removeWhere, List.filter_filter, Bool.and_comm]

/-- Changing rows in place changes each row by itself and counts the changed rows. -/
theorem update_eq (change : String → α → Option α) :
    t.update change = ((t.rows.filter fun row => (change row.1 row.2).isSome).length,
      ⟨t.rows.map fun row => (row.1, (change row.1 row.2).getD row.2)⟩) := by
  obtain ⟨rows⟩ := t
  simp only [update]
  induction rows with
  | nil => rfl
  | cons row rest ih =>
    obtain ⟨k, v⟩ := row
    simp only [List.foldr_cons, ih]
    rcases changed : change k v with _ | v' <;> simp [changed]

/-- No row changes exactly when the change gives nothing on every row. -/
theorem update_count_eq_zero_iff (change : String → α → Option α) :
    (t.update change).1 = 0 ↔ ∀ k v, (k, v) ∈ t.rows → change k v = none := by
  rw [update_eq]
  simp only [List.length_eq_zero_iff, List.filter_eq_nil_iff, Option.isSome_iff_ne_none, ne_eq,
    not_not, Prod.forall]

theorem Sorted.update (sorted : t.Sorted) (change : String → α → Option α) :
    (t.update change).2.Sorted := by
  rw [update_eq]
  exact List.pairwise_map.2 sorted

theorem Sorted.insertAll (sorted : t.Sorted) (entries : List (String × α)) :
    (t.insertAll entries).Sorted := by
  induction entries generalizing t with
  | nil => exact sorted
  | cons entry rest ih => exact ih (sorted.insert entry.1 entry.2)

/-- A key is missing from a row list exactly when no row has it. -/
theorem lookup_eq_none_iff_not_mem {rows : List (String × α)} {k : String} :
    rows.lookup k = none ↔ k ∉ rows.map Prod.fst := by
  rw [List.lookup_eq_none_iff]
  simp only [List.mem_map, not_exists, not_and, bne_iff_ne, ne_eq]
  exact ⟨fun none row member same => none row member same.symm,
    fun none row member same => none row member same.symm⟩

/-- Looking a key up among entries made from items finds the entry of the first item with
that key. -/
theorem lookup_map_entries {β : Type} (items : List β) (key : β → String) (value : β → α)
    (k : String) :
    (items.map fun x => (key x, value x)).lookup k = (items.find? fun x => key x == k).map value := by
  induction items with
  | nil => rfl
  | cons x rest ih =>
    by_cases same : key x = k
    · simp [same]
    · have differs : (k == key x) = false := by simpa using Ne.symm same
      simp [List.lookup_cons, differs, same, ih]

/-- After inserting a list of rows, a key written holds the row written last under it, and
every other row is as before. -/
theorem mem_insertAll (sorted : t.Sorted) (entries : List (String × α)) {k : String} {v : α} :
    (k, v) ∈ (t.insertAll entries).rows ↔
      entries.reverse.lookup k = some v ∨ ((k, v) ∈ t.rows ∧ k ∉ entries.map Prod.fst) := by
  induction entries generalizing t with
  | nil => simp [insertAll]
  | cons entry rest ih =>
    obtain ⟨key, value⟩ := entry
    change (k, v) ∈ (insertAll (t.insert key value) rest).rows ↔ _
    rw [ih (sorted.insert key value), mem_insert sorted]
    by_cases written : k ∈ rest.map Prod.fst
    · have found : rest.reverse.lookup k ≠ none := fun none =>
        lookup_eq_none_iff_not_mem.1 none (by simpa [List.map_reverse] using written)
      obtain ⟨w, hw⟩ := Option.ne_none_iff_exists'.1 found
      simp [List.lookup_append, hw, written]
    · have missing : rest.reverse.lookup k = none :=
        lookup_eq_none_iff_not_mem.2 (by simpa [List.map_reverse] using written)
      by_cases same : k = key
      · subst same
        simp [List.lookup_append, missing, written, eq_comm]
      · have differs : (k == key) = false := by simpa using same
        simp only [List.reverse_cons, List.lookup_append, missing, Option.none_or,
          List.lookup_cons, differs, List.lookup_nil]
        simp [same, written]

/-- In a sorted table a key finds exactly the row stored under it. -/
theorem get?_eq_some_iff (sorted : t.Sorted) {k : String} {v : α} :
    t.get? k = some v ↔ (k, v) ∈ t.rows := by
  obtain ⟨rows⟩ := t
  simp only [get?]
  induction rows with
  | nil => simp
  | cons row rest ih =>
    obtain ⟨k', v'⟩ := row
    obtain ⟨above, sortedRest⟩ := List.pairwise_cons.1 sorted
    by_cases same : k = k'
    · subst same
      have fresh : (k, v) ∉ rest := fun member => lt_irrefl _ (above (k, v) member)
      simp [fresh, eq_comm]
    · have differs : (k == k') = false := by simpa using same
      simp [List.lookup_cons, same, differs, ih sortedRest]

/-- Inserting a row leaves what every other key finds. -/
theorem get?_insert_ne (sorted : t.Sorted) {key k : String} (value : α) (other : k ≠ key) :
    (t.insert key value).get? k = t.get? k := by
  apply Option.ext
  intro v
  rw [get?_eq_some_iff (sorted.insert key value), get?_eq_some_iff sorted, mem_insert sorted]
  constructor
  · rintro (⟨same, -⟩ | ⟨member, -⟩)
    · exact absurd same other
    · exact member
  · intro member
    exact .inr ⟨member, other⟩

/-- Inserting the row a key already holds leaves a sorted table as it was. -/
theorem insert_self (sorted : t.Sorted) {key : String} {v : α} (found : t.get? key = some v) :
    t.insert key v = t := by
  have present := (get?_eq_some_iff sorted).1 found
  have same : (t.insert key v).rows = t.rows := by
    refine rows_eq_of_mem_iff (sorted.insert key v) sorted fun ⟨k, w⟩ => ?_
    rw [mem_insert sorted]
    constructor
    · rintro (⟨rfl, rfl⟩ | ⟨member, -⟩)
      · exact present
      · exact member
    · intro member
      by_cases here : k = key
      · subst here
        exact .inl ⟨rfl, Option.some.inj (((get?_eq_some_iff sorted).2 member).symm.trans found)⟩
      · exact .inr ⟨member, here⟩
  obtain ⟨rows⟩ := t
  exact congrArg Table.mk same

/-- After removing rows, a key finds its row when the row stays. -/
theorem get?_removeWhere (sorted : t.Sorted) (drop : String → α → Bool) (k : String) :
    (t.removeWhere drop).2.get? k = (t.get? k).filter fun v => !drop k v := by
  apply Option.ext
  intro v
  rw [get?_eq_some_iff (sorted.removeWhere drop), mem_removeWhere, Option.filter_eq_some_iff,
    get?_eq_some_iff sorted]
  simp

/-- In a sorted table, a test that can hold only of the row under one key finds that row,
if the row passes the rest of the test. -/
theorem find?_values_of_key (sorted : t.Sorted) {p : α → Bool} {key : String} {extra : α → Bool}
    (onKey : ∀ k v, (k, v) ∈ t.rows → p v = (k == key && extra v)) :
    t.values.find? p = (t.get? key).filter extra := by
  obtain ⟨rows⟩ := t
  simp only [values, get?] at onKey ⊢
  induction rows with
  | nil => rfl
  | cons row rest ih =>
    obtain ⟨k, v⟩ := row
    obtain ⟨above, sortedRest⟩ := List.pairwise_cons.1 sorted
    have restTest : ∀ k' v', (k', v') ∈ rest → p v' = (k' == key && extra v') :=
      fun k' v' member => onKey k' v' (List.mem_cons_of_mem _ member)
    have first := onKey k v List.mem_cons_self
    by_cases same : k = key
    · subst same
      -- every later row has a larger key, so the test fails on it
      have later : (rest.map Prod.snd).find? p = none := by
        refine List.find?_eq_none.2 fun w member => ?_
        obtain ⟨⟨k', w⟩, inRest, rfl⟩ := List.mem_map.1 member
        have larger : k' ≠ k := Ne.symm (ne_of_lt (above (k', w) inRest))
        simp [restTest k' w inRest, larger]
      cases passes : extra v <;> simp [first, passes, later, Option.filter]
    · have differs : (k == key) = false := by simpa using same
      have differs' : (key == k) = false := by simpa using Ne.symm same
      simp [first, differs, differs', List.lookup_cons, ih sortedRest restTest]

/-- In a sorted table, a test that holds exactly of the row under one key selects that row
alone. -/
theorem select_of_key (sorted : t.Sorted) {keep : String → α → Bool} {key : String}
    (onKey : ∀ k v, (k, v) ∈ t.rows → keep k v = (k == key)) :
    t.select keep = (t.get? key).toList := by
  obtain ⟨rows⟩ := t
  simp only [select, get?] at onKey ⊢
  induction rows with
  | nil => rfl
  | cons row rest ih =>
    obtain ⟨k, v⟩ := row
    obtain ⟨above, sortedRest⟩ := List.pairwise_cons.1 sorted
    have restTest : ∀ k' v', (k', v') ∈ rest → keep k' v' = (k' == key) :=
      fun k' v' member => onKey k' v' (List.mem_cons_of_mem _ member)
    have first := onKey k v List.mem_cons_self
    by_cases same : k = key
    · subst same
      -- every later row has a larger key, so the test drops it
      have later : rest.filter (fun row => keep row.1 row.2) = [] := by
        refine List.filter_eq_nil_iff.2 fun row inRest => ?_
        obtain ⟨k', w⟩ := row
        have larger : k' ≠ k := Ne.symm (ne_of_lt (above (k', w) inRest))
        simp [restTest k' w inRest, larger]
      simp [first, later]
    · have differs : (k == key) = false := by simpa using same
      have differs' : (key == k) = false := by simpa using Ne.symm same
      simp [first, differs, differs', List.lookup_cons, ih sortedRest restTest]

/-- In a sorted table, inserting under a key that is present is changing in place the row
under that key, when the change touches no other key. -/
theorem insert_eq_update (sorted : t.Sorted) {key : String} {old new : α}
    (found : t.get? key = some old) {change : String → α → Option α}
    (changesOld : change key old = some new) (onlyKey : ∀ k v, k ≠ key → change k v = none) :
    t.insert key new = (t.update change).2 := by
  have present := (get?_eq_some_iff sorted).1 found
  have changed := sorted.update change
  rw [update_eq] at changed ⊢
  suffices same : (t.insert key new).rows =
      t.rows.map fun row => (row.1, (change row.1 row.2).getD row.2) by
    rw [← same]
  refine rows_eq_of_mem_iff (sorted.insert key new) changed fun ⟨k, w⟩ => ?_
  rw [mem_insert sorted, List.mem_map]
  constructor
  · rintro (⟨rfl, rfl⟩ | ⟨member, other⟩)
    · exact ⟨(k, old), present, by simp [changesOld]⟩
    · exact ⟨(k, w), member, by simp [onlyKey k w other]⟩
  · rintro ⟨⟨k', v⟩, member, written⟩
    simp only [Prod.mk.injEq] at written
    obtain ⟨rfl, rfl⟩ := written
    by_cases here : k' = key
    · subst here
      -- the key holds one row only, the one found
      have same : v = old := Option.some.inj
        (((get?_eq_some_iff sorted).2 member).symm.trans found)
      subst same
      simp [changesOld]
    · simp [onlyKey k' v here, here, member]

/-! ## Two tables side by side -/

variable {β : Type}

/-- Rows under the same key, related by a relation that may read the key. -/
def RowRel (R : String → α → β → Prop) (a : String × α) (b : String × β) : Prop :=
  a.1 = b.1 ∧ R a.1 a.2 b.2

/-- Two tables with the same keys in the same order, whose rows under each key are
related. -/
def Rel (R : String → α → β → Prop) (t : Table α) (u : Table β) : Prop :=
  List.Forall₂ (RowRel R) t.rows u.rows

variable {R : String → α → β → Prop} {u : Table β}

theorem Rel.empty : Rel R (Table.empty : Table α) (Table.empty : Table β) := List.Forall₂.nil

theorem Rel.keys (rel : Rel R t u) : t.rows.map Prod.fst = u.rows.map Prod.fst := by
  obtain ⟨rows⟩ := t
  obtain ⟨rows'⟩ := u
  change List.Forall₂ (RowRel R) rows rows' at rel
  induction rel with
  | nil => rfl
  | cons related _ ih => simp [related.1, ih]

theorem Rel.exists_of_mem_right (rel : Rel R t u) {k : String} {b : β} (member : (k, b) ∈ u.rows) :
    ∃ a, (k, a) ∈ t.rows ∧ R k a b := by
  obtain ⟨rows⟩ := t
  obtain ⟨rows'⟩ := u
  change List.Forall₂ (RowRel R) rows rows' at rel
  change (k, b) ∈ rows' at member
  induction rel with
  | nil => simp at member
  | @cons row row' _ _ first _ ih =>
    rcases List.mem_cons.1 member with here | later
    · subst here
      obtain ⟨k', a⟩ := row
      obtain ⟨same, related⟩ := first
      simp only at same related
      subst same
      exact ⟨a, List.mem_cons_self, related⟩
    · obtain ⟨a, inRest, related⟩ := ih later
      exact ⟨a, List.mem_cons_of_mem _ inRest, related⟩

/-- Related tables, read the other way round. -/
theorem Rel.swap (rel : Rel R t u) : Rel (fun k b a => R k a b) u t := by
  refine List.Forall₂.flip (List.Forall₂.imp ?_ rel)
  rintro ⟨k, a⟩ ⟨k', b⟩ ⟨same, related⟩
  simp only at same related
  subst same
  exact ⟨rfl, related⟩

theorem Rel.exists_of_mem_left (rel : Rel R t u) {k : String} {a : α} (member : (k, a) ∈ t.rows) :
    ∃ b, (k, b) ∈ u.rows ∧ R k a b :=
  rel.swap.exists_of_mem_right member

/-- A table is related to itself by a relation that holds of each of its rows with itself. -/
theorem Rel.refl {S : String → α → α → Prop} (related : ∀ k v, (k, v) ∈ t.rows → S k v v) :
    Rel S t t :=
  List.forall₂_same.2 fun row member => ⟨rfl, related row.1 row.2 member⟩

theorem Rel.size_eq (rel : Rel R t u) : t.size = u.size := rel.length_eq

theorem Rel.sorted (rel : Rel R t u) (sorted : t.Sorted) : u.Sorted := by
  have keys : (u.rows.map Prod.fst).Pairwise (· < ·) := rel.keys ▸ List.pairwise_map.2 sorted
  exact List.pairwise_map.1 keys

theorem rel_insertRow {key : String} {a : α} {b : β} (related : R key a b) :
    ∀ {rows : List (String × α)} {rows' : List (String × β)}, List.Forall₂ (RowRel R) rows rows' →
      List.Forall₂ (RowRel R) (insertRow key a rows) (insertRow key b rows') := by
  intro rows rows' rel
  induction rel with
  | nil => simp [insertRow, RowRel, related]
  | @cons row row' rest rest' head tail ih =>
    obtain ⟨k, v⟩ := row
    obtain ⟨k', w⟩ := row'
    obtain ⟨same, first⟩ := head
    simp only at same
    subst same
    simp only [insertRow]
    -- both rows lists are split at the same key
    split
    · exact .cons ⟨rfl, related⟩ (.cons ⟨rfl, first⟩ tail)
    · split
      · exact .cons ⟨rfl, related⟩ tail
      · exact .cons ⟨rfl, first⟩ ih

theorem Rel.insert (rel : Rel R t u) {key : String} {a : α} {b : β} (related : R key a b) :
    Rel R (t.insert key a) (u.insert key b) :=
  rel_insertRow related rel

theorem rel_filter {p : String → α → Bool} {q : String → β → Bool}
    (agree : ∀ k a b, R k a b → p k a = q k b) :
    ∀ {rows : List (String × α)} {rows' : List (String × β)}, List.Forall₂ (RowRel R) rows rows' →
      List.Forall₂ (RowRel R) (rows.filter fun row => p row.1 row.2)
        (rows'.filter fun row => q row.1 row.2)
  | [], [], .nil => .nil
  | (k, v) :: _, (k', w) :: _, .cons ⟨same, first⟩ tail => by
    simp only at same
    subst same
    have decision := agree k v w first
    simp only [List.filter_cons, decision]
    split
    · exact .cons ⟨rfl, first⟩ (rel_filter agree tail)
    · exact rel_filter agree tail

/-- Tables related row by row lose related rows to tests that agree on related rows, and
lose as many. -/
theorem Rel.removeWhere (rel : Rel R t u) {drop : String → α → Bool} {drop' : String → β → Bool}
    (agree : ∀ k a b, R k a b → drop k a = drop' k b) :
    (t.removeWhere drop).1 = (u.removeWhere drop').1 ∧
      Rel R (t.removeWhere drop).2 (u.removeWhere drop').2 := by
  have kept := rel_filter (p := fun k a => !drop k a) (q := fun k b => !drop' k b)
    (fun k a b related => by rw [agree k a b related]) rel
  have same := List.Forall₂.length_eq rel
  have sameKept := List.Forall₂.length_eq kept
  exact ⟨by simp only [Table.removeWhere, same, sameKept], kept⟩

theorem rel_cases {r : α → β → Prop} {x : Option α} {y : Option β} (rel : Option.Rel r x y) :
    (x = none ∧ y = none) ∨ ∃ a b, x = some a ∧ y = some b ∧ r a b := by
  cases rel with
  | none => exact .inl ⟨rfl, rfl⟩
  | some related => exact .inr ⟨_, _, rfl, rfl, related⟩

theorem rel_isSome_eq {r : α → β → Prop} {x : Option α} {y : Option β} (rel : Option.Rel r x y) :
    x.isSome = y.isSome := by
  cases rel <;> rfl

theorem rel_getD {r : α → β → Prop} {x : Option α} {y : Option β} (rel : Option.Rel r x y)
    {a : α} {b : β} (related : r a b) : r (x.getD a) (y.getD b) := by
  cases rel with
  | none => exact related
  | some changed => exact changed

/-- Tables related row by row stay related under changes that agree on related rows, and
change as many rows. -/
theorem Rel.update (rel : Rel R t u) {change : String → α → Option α}
    {change' : String → β → Option β}
    (agree : ∀ k a b, R k a b → Option.Rel (R k) (change k a) (change' k b)) :
    (t.update change).1 = (u.update change').1 ∧ Rel R (t.update change).2 (u.update change').2 := by
  rw [update_eq, update_eq]
  have isSome_eq : ∀ k a b, R k a b → (change k a).isSome = (change' k b).isSome :=
    fun k a b related => rel_isSome_eq (agree k a b related)
  refine ⟨List.Forall₂.length_eq (rel_filter isSome_eq rel), ?_⟩
  refine List.forall₂_map_left_iff.2 (List.forall₂_map_right_iff.2 (List.Forall₂.imp ?_ rel))
  rintro ⟨k, a⟩ ⟨k', b⟩ ⟨same, related⟩
  simp only at same
  subst same
  exact ⟨rfl, rel_getD (agree k a b related) related⟩

/-- Under each key, related tables hold related rows or none. -/
theorem Rel.get? (rel : Rel R t u) (key : String) : Option.Rel (R key) (t.get? key) (u.get? key) := by
  obtain ⟨rows⟩ := t
  obtain ⟨rows'⟩ := u
  change List.Forall₂ (RowRel R) rows rows' at rel
  simp only [Table.get?]
  induction rel with
  | nil => exact .none
  | @cons row row' _ _ first _ ih =>
    obtain ⟨k, v⟩ := row
    obtain ⟨k', w⟩ := row'
    obtain ⟨same, related⟩ := first
    simp only at same related
    subst same
    by_cases found : key = k
    · subst found
      simpa [List.lookup_cons] using related
    · have differs : (key == k) = false := by simpa using found
      simp only [List.lookup_cons, differs]
      exact ih

/-- Related tables keep related rows under tests that agree on related rows. -/
theorem Rel.select (rel : Rel R t u) {keep : String → α → Bool} {keep' : String → β → Bool}
    (agree : ∀ k a b, R k a b → keep k a = keep' k b) :
    List.Forall₂ (fun a b => ∃ k, R k a b) (t.select keep) (u.select keep') := by
  refine List.forall₂_map_left_iff.2 (List.forall₂_map_right_iff.2 ?_)
  exact List.Forall₂.imp (fun a b related => ⟨a.1, related.2⟩) (rel_filter agree rel)

end ChartCatalog.Table
