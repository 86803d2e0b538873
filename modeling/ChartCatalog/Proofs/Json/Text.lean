import ChartCatalog.Proofs.Store.Table
import ChartCatalog.Json.Text

/-!
# JSON text read back

The reader takes back every value the writer prints, as long as the value holds no
numbers and each of its objects lists its members in strictly increasing key order
(`Json.Canonical`): `parse?_render`. An object built member by member, as every record
of the catalog is, has that order (`Canonical.ofFields`).

The proof follows the reader. A string body reads back one escaped character at a time
(`readString_escapeChar`). Values, the items of an array after the first and the members
of an object after the first are read by three functions that recurse on one fuel, so
the three statements are proved together: one step lemma for each function says that it
reads what the writer put first and hands the rest on with less fuel, and induction on
the fuel assembles them (`reads_render`). A text has more characters than its reading
takes fuel, so the fuel the whole text gives is enough.
-/

set_option autoImplicit false

namespace ChartCatalog.Json

/-! ## Values the reader takes back -/

/-- A value without numbers whose objects list their members in strictly increasing key
order. -/
inductive Canonical : Json → Prop
  | null : Canonical .null
  | bool (b : Bool) : Canonical (.bool b)
  | str (s : String) : Canonical (.str s)
  | arr {items : List Json} (each : ∀ item ∈ items, Canonical item) : Canonical (.arr items)
  | obj {fields : List (String × Json)} (sorted : fields.Pairwise fun a b => a.1 < b.1)
      (each : ∀ field ∈ fields, Canonical field.2) : Canonical (.obj fields)

attribute [simp] Canonical.null Canonical.bool Canonical.str

@[simp] theorem canonical_arr_iff {items : List Json} :
    (Json.arr items).Canonical ↔ ∀ item ∈ items, item.Canonical :=
  ⟨fun canonical => by cases canonical with | arr each => exact each, .arr⟩

/-- An object is canonical when its keys, as listed, strictly increase and its members are
canonical. -/
theorem Canonical.obj_of_keys {fields : List (String × Json)} {keys : List String}
    (named : fields.map Prod.fst = keys) (sorted : keys.Pairwise (· < ·))
    (each : ∀ field ∈ fields, field.2.Canonical) : (Json.obj fields).Canonical := by
  subst named
  exact .obj (List.pairwise_map.1 sorted) each

theorem insertField_eq_insertRow (key : String) (value : Json) (fields : List (String × Json)) :
    insertField key value fields = Table.insertRow key value fields := by
  induction fields with
  | nil => rfl
  | cons field rest ih =>
    obtain ⟨k, v⟩ := field
    simp only [insertField, Table.insertRow, ih]

/-- A member set after every member of smaller key goes last. -/
theorem insertField_of_lt {key : String} {fields : List (String × Json)}
    (above : ∀ field ∈ fields, field.1 < key) (value : Json) :
    insertField key value fields = fields ++ [(key, value)] := by
  induction fields with
  | nil => rfl
  | cons field rest ih =>
    obtain ⟨k, v⟩ := field
    have smaller : k < key := above (k, v) List.mem_cons_self
    have notBelow : ¬key < k := fun below => lt_asymm below smaller
    have differs : (key == k) = false := beq_false_of_ne (ne_of_gt smaller)
    simp only [insertField, notBelow, differs, if_false, Bool.false_eq_true, List.cons_append,
      ih fun field member => above field (List.mem_cons_of_mem _ member)]

/-- Setting members one after another keeps an object canonical. -/
theorem canonical_foldl_insertField :
    ∀ (fields acc : List (String × Json)), (acc.Pairwise fun a b => a.1 < b.1) →
      (∀ field ∈ acc, field.2.Canonical) → (∀ field ∈ fields, field.2.Canonical) →
      (Json.obj (fields.foldl (fun acc field => insertField field.1 field.2 acc) acc)).Canonical
  | [], acc, sorted, each, _ => .obj sorted each
  | field :: rest, acc, sorted, each, fresh => by
    have sorted' : (insertField field.1 field.2 acc).Pairwise fun a b => a.1 < b.1 := by
      rw [insertField_eq_insertRow]
      exact Table.insertRow_sorted sorted
    have each' : ∀ m ∈ insertField field.1 field.2 acc, m.2.Canonical := by
      intro m member
      obtain ⟨k, v⟩ := m
      rw [insertField_eq_insertRow, Table.insertRow_mem sorted] at member
      rcases member with ⟨-, rfl⟩ | ⟨kept, -⟩
      · exact fresh field List.mem_cons_self
      · exact each (k, v) kept
    exact canonical_foldl_insertField rest _ sorted' each'
      fun m member => fresh m (List.mem_cons_of_mem _ member)

/-- An object built member by member is canonical when its members are. -/
theorem Canonical.ofFields {fields : List (String × Json)}
    (each : ∀ field ∈ fields, field.2.Canonical) : (ofFields fields).Canonical :=
  canonical_foldl_insertField fields [] List.Pairwise.nil (fun _ member => by cases member) each

/-! ## Strings -/

theorem hexValue?_hexDigit : ∀ n, n < 16 → hexValue? (Text.hexDigit n) = some n := by
  decide

/-- Reading a string body takes back one escaped character. -/
theorem readString_escapeChar (read : Array Char) (c : Char) (rest : List Char) :
    readString read (escapeChar c ++ rest) = readString (read.push c) rest := by
  unfold escapeChar
  split
  · simp [readString]
  · simp [readString]
  · simp [readString]
  · simp [readString]
  · simp [readString]
  · rename_i _ notBackslash _ _ _
    split
    · rename_i backspace
      have named : Char.ofNat 8 = c := by rw [← Char.ofNat_toNat c, eq_of_beq backspace]
      rw [← named]
      simp [readString]
    · split
      · rename_i _ formFeed
        have named : Char.ofNat 12 = c := by rw [← Char.ofNat_toNat c, eq_of_beq formFeed]
        rw [← named]
        simp [readString]
      · split
        · -- a control character is written as four hexadecimal digits
          rename_i _ _ control
          have high := hexValue?_hexDigit (c.toNat / 16) (by omega)
          have low := hexValue?_hexDigit (c.toNat % 16) (by omega)
          have whole : c.toNat / 16 * 16 + c.toNat % 16 = c.toNat := by omega
          have zero : hexValue? '0' = some 0 := rfl
          have notSurrogate : ¬0xD800 ≤ c.toNat ∧ ¬0xDC00 ≤ c.toNat := by omega
          simp [readString, hex4?, zero, high, low, whole, notSurrogate, Char.ofNat_toNat]
        · rename_i _ _ plain
          have notEscape : c ≠ '\\' := notBackslash
          simp [readString, notEscape, plain]

/-- Reading a string body takes back every escaped character, up to the closing quote. -/
theorem readString_escaped (read : Array Char) (cs rest : List Char) :
    readString read (cs.flatMap escapeChar ++ '"' :: rest) =
      some (String.ofList (read.toList ++ cs), rest) := by
  induction cs generalizing read with
  | nil => simp [readString]
  | cons c cs ih =>
    rw [List.flatMap_cons, List.append_assoc, readString_escapeChar, ih]
    simp

theorem quote_toList (s : String) :
    (quote s).toList = '"' :: (s.toList.flatMap escapeChar ++ ['"']) := by
  simp [quote]

/-- The body of a quoted string reads back as the string. -/
theorem readString_quote (s : String) (rest : List Char) :
    readString #[] (s.toList.flatMap escapeChar ++ '"' :: rest) = some (s, rest) := by
  rw [readString_escaped]
  simp

/-! ## The text of a value -/

/-- The text of array items after the first, each after a comma, and the closing bracket. -/
def itemsTail : List Json → List Char
  | [] => [']']
  | item :: rest => ',' :: ((render item).toList ++ itemsTail rest)

/-- The text of an object member: its quoted key, a colon and its value. -/
def memberText (field : String × Json) : List Char :=
  (quote field.1).toList ++ ':' :: (render field.2).toList

/-- The text of object members after the first, each after a comma, and the closing
brace. -/
def membersTail : List (String × Json) → List Char
  | [] => ['}']
  | field :: rest => ',' :: (memberText field ++ membersTail rest)

theorem renderItems_toList (item : Json) (rest : List Json) :
    (",".intercalate (render.renderItems (item :: rest))).toList ++ [']'] =
      (render item).toList ++ itemsTail rest := by
  induction rest generalizing item with
  | nil => simp [render.renderItems, itemsTail]
  | cons next rest ih =>
    rw [render.renderItems, render.renderItems, String.intercalate_cons_cons, ← render.renderItems,
      String.toList_append, String.toList_append, List.append_assoc, List.append_assoc, ih]
    simp [itemsTail]

theorem renderFields_toList (field : String × Json) (rest : List (String × Json)) :
    (",".intercalate (render.renderFields (field :: rest))).toList ++ ['}'] =
      memberText field ++ membersTail rest := by
  induction rest generalizing field with
  | nil => simp [render.renderFields, membersTail, memberText]
  | cons next rest ih =>
    rw [render.renderFields, render.renderFields, String.intercalate_cons_cons,
      ← render.renderFields, String.toList_append, String.toList_append, List.append_assoc,
      List.append_assoc, ih]
    simp [membersTail, memberText]

theorem render_arr_cons (item : Json) (rest : List Json) :
    (render (.arr (item :: rest))).toList = '[' :: ((render item).toList ++ itemsTail rest) := by
  have opening : ("[" : String).toList = ['['] := rfl
  have closing : ("]" : String).toList = [']'] := rfl
  rw [render, String.toList_append, String.toList_append, opening, closing, List.append_assoc,
    renderItems_toList, List.singleton_append]

theorem render_obj_cons (field : String × Json) (rest : List (String × Json)) :
    (render (.obj (field :: rest))).toList = '{' :: (memberText field ++ membersTail rest) := by
  have opening : ("\x7b" : String).toList = ['\x7b'] := rfl
  have closing : ("\x7d" : String).toList = ['\x7d'] := rfl
  rw [render, String.toList_append, String.toList_append, opening, closing, List.append_assoc,
    renderFields_toList, List.singleton_append]

theorem memberText_eq (key : String) (value : Json) :
    memberText (key, value) =
      '"' :: (key.toList.flatMap escapeChar ++ '"' :: ':' :: (render value).toList) := by
  simp [memberText, quote_toList]

/-- The text of a canonical value starts with a character that is no blank and closes no
array. -/
theorem render_head {v : Json} (canonical : v.Canonical) :
    ∃ c t, (render v).toList = c :: t ∧ isSpace c = false ∧ c ≠ ']' := by
  cases canonical with
  | null => exact ⟨'n', ['u', 'l', 'l'], rfl, rfl, by decide⟩
  | bool b =>
    cases b
    · exact ⟨'f', ['a', 'l', 's', 'e'], rfl, rfl, by decide⟩
    · exact ⟨'t', ['r', 'u', 'e'], rfl, rfl, by decide⟩
  | str s => exact ⟨'"', _, by rw [render, quote_toList], rfl, by decide⟩
  | arr _ => exact ⟨'[', _, by rw [render, String.toList_append, String.toList_append]; rfl, rfl,
      by decide⟩
  | obj _ _ => exact ⟨'\x7b', _, by rw [render, String.toList_append, String.toList_append]; rfl,
      rfl, by decide⟩

theorem itemsTail_length_pos (items : List Json) : 0 < (itemsTail items).length := by
  cases items <;> simp [itemsTail]

theorem membersTail_length_pos (fields : List (String × Json)) :
    0 < (membersTail fields).length := by
  cases fields <;> simp [membersTail]

theorem render_length_pos {v : Json} (canonical : v.Canonical) : 0 < (render v).toList.length := by
  obtain ⟨c, t, text, -⟩ := render_head canonical
  simp [text]

/-! ## One step of each reader -/

theorem readValue_bracket {fuel : Nat} {c : Char} {text : List Char} (notSpace : isSpace c = false)
    (notClose : c ≠ ']') : readValue (fuel + 1) ('[' :: c :: text) = readItems fuel #[] (c :: text) := by
  simp only [readValue, List.dropWhile_cons_of_neg (by simp [isSpace] : ¬isSpace '[' = true),
    List.dropWhile_cons_of_neg (by simp [notSpace] : ¬isSpace c = true)]
  split
  · rename_i after same
    exact absurd (List.cons.inj same).1 notClose
  · rfl

theorem readValue_brace (fuel : Nat) (text : List Char) :
    readValue (fuel + 1) ('\x7b' :: '"' :: text) = readMembers fuel [] ('"' :: text) := by
  simp [readValue, isSpace]

/-- An item followed by a comma: the items after it are read on. -/
theorem readItems_comma {fuel : Nat} {items : Array Json} {cs more : List Char} {item : Json}
    (read : readValue fuel cs = some (item, ',' :: more)) :
    readItems (fuel + 1) items cs = readItems fuel (items.push item) more := by
  simp [readItems, read, isSpace]

/-- An item followed by the closing bracket ends the array. -/
theorem readItems_close {fuel : Nat} {items : Array Json} {cs more : List Char} {item : Json}
    (read : readValue fuel cs = some (item, ']' :: more)) :
    readItems (fuel + 1) items cs = some (.arr (items.push item).toList, more) := by
  simp [readItems, read, isSpace]

/-- A member followed by a comma: it is set, and the members after it are read on. -/
theorem readMembers_comma {fuel : Nat} {fields : List (String × Json)} {key : String}
    {text more : List Char} {value : Json} (read : readValue fuel text = some (value, ',' :: more)) :
    readMembers (fuel + 1) fields ('"' :: (key.toList.flatMap escapeChar ++ '"' :: ':' :: text)) =
      readMembers fuel (insertField key value fields) more := by
  simp [readMembers, readString_quote, read, isSpace]

/-- A member followed by the closing brace is set, and ends the object. -/
theorem readMembers_close {fuel : Nat} {fields : List (String × Json)} {key : String}
    {text more : List Char} {value : Json} (read : readValue fuel text = some (value, '\x7d' :: more)) :
    readMembers (fuel + 1) fields ('"' :: (key.toList.flatMap escapeChar ++ '"' :: ':' :: text)) =
      some (.obj (insertField key value fields), more) := by
  simp [readMembers, readString_quote, read, isSpace]

/-! ## Reading back what was written -/

/-- With more fuel than the text has characters, a canonical value reads back from its text. -/
def ReadsValues (fuel : Nat) : Prop :=
  ∀ v : Json, v.Canonical → (render v).toList.length < fuel → ∀ rest,
    readValue fuel ((render v).toList ++ rest) = some (v, rest)

/-- With more fuel than the text has characters, array items read back from the text of the
first and of those after it, after the items already read. -/
def ReadsItems (fuel : Nat) : Prop :=
  ∀ (acc : Array Json) (item : Json) (items : List Json), item.Canonical →
    (∀ x ∈ items, x.Canonical) → ((render item).toList ++ itemsTail items).length < fuel →
    ∀ rest, readItems fuel acc ((render item).toList ++ itemsTail items ++ rest) =
      some (.arr (acc.toList ++ item :: items), rest)

/-- With more fuel than the text has characters, object members read back from the text of
the first and of those after it, when they continue the members already read in
increasing key order. -/
def ReadsMembers (fuel : Nat) : Prop :=
  ∀ (fields : List (String × Json)) (field : String × Json) (members : List (String × Json)),
    ((fields ++ field :: members).Pairwise fun a b => a.1 < b.1) →
    (∀ m ∈ field :: members, m.2.Canonical) → (memberText field ++ membersTail members).length < fuel →
    ∀ rest, readMembers fuel fields (memberText field ++ membersTail members ++ rest) =
      some (.obj (fields ++ field :: members), rest)

theorem readsValues_succ {fuel : Nat} (items : ReadsItems fuel) (members : ReadsMembers fuel) :
    ReadsValues (fuel + 1) := by
  intro v canonical short rest
  cases canonical with
  | null => simp [render, readValue, isSpace]
  | bool b => cases b <;> simp [render, readValue, isSpace]
  | str s =>
    rw [render, quote_toList]
    simp [readValue, isSpace, readString_quote]
  | @arr list each =>
    cases list with
    | nil => simp [render, render.renderItems, readValue, isSpace]
    | cons item rest' =>
      rw [render_arr_cons] at short ⊢
      obtain ⟨c, t, text, notSpace, notClose⟩ := render_head (each item List.mem_cons_self)
      have read := items #[] item rest' (each item List.mem_cons_self)
        (fun x member => each x (List.mem_cons_of_mem _ member)) (by simpa using short) rest
      rw [text] at read ⊢
      simp only [List.cons_append] at read ⊢
      rw [readValue_bracket notSpace notClose, read]
      rfl
  | @obj list sorted each =>
    cases list with
    | nil => simp [render, render.renderFields, readValue, isSpace]
    | cons field rest' =>
      rw [render_obj_cons] at short ⊢
      have read := members [] field rest' sorted each (by simpa using short) rest
      obtain ⟨key, value⟩ := field
      rw [memberText_eq] at read ⊢
      simp only [List.cons_append] at read ⊢
      rw [readValue_brace, read]
      rfl

theorem readsItems_succ {fuel : Nat} (values : ReadsValues fuel) (items : ReadsItems fuel) :
    ReadsItems (fuel + 1) := by
  intro acc item list canonical each short rest
  have itemShort : (render item).toList.length < fuel := by
    have := itemsTail_length_pos list
    simp only [List.length_append] at short
    omega
  have read := values item canonical itemShort (itemsTail list ++ rest)
  rw [List.append_assoc]
  cases list with
  | nil =>
    rw [readItems_close read]
    simp
  | cons next rest' =>
    have restShort : ((render next).toList ++ itemsTail rest').length < fuel := by
      have := render_length_pos canonical
      simp only [itemsTail, List.length_append, List.length_cons] at short ⊢
      omega
    have more := items (acc.push item) next rest' (each next List.mem_cons_self)
      (fun x member => each x (List.mem_cons_of_mem _ member)) restShort rest
    simp only [itemsTail, List.cons_append] at read ⊢
    rw [readItems_comma read, more]
    simp

theorem readsMembers_succ {fuel : Nat} (values : ReadsValues fuel) (members : ReadsMembers fuel) :
    ReadsMembers (fuel + 1) := by
  intro fields field list sorted each short rest
  obtain ⟨key, value⟩ := field
  -- the members read so far all have keys below this one, which therefore goes last
  have above : ∀ f ∈ fields, f.1 < key := fun f member =>
    (List.pairwise_append.1 sorted).2.2 f member (key, value) List.mem_cons_self
  have valueShort : (render value).toList.length < fuel := by
    have := membersTail_length_pos list
    rw [memberText_eq] at short
    simp only [List.length_append, List.length_cons] at short
    omega
  have read := values value (each (key, value) List.mem_cons_self) valueShort (membersTail list ++ rest)
  rw [memberText_eq, List.append_assoc]
  simp only [List.cons_append, List.append_assoc]
  cases list with
  | nil =>
    rw [readMembers_close read, insertField_of_lt above]
    simp
  | cons next rest' =>
    have restShort : (memberText next ++ membersTail rest').length < fuel := by
      rw [memberText_eq] at short
      simp only [membersTail, List.length_append, List.length_cons] at short ⊢
      omega
    have sorted' : ((fields ++ [(key, value)]) ++ next :: rest').Pairwise fun a b => a.1 < b.1 := by
      simpa using sorted
    have more := members (fields ++ [(key, value)]) next rest' sorted'
      (fun m member => each m (List.mem_cons_of_mem _ member)) restShort rest
    simp only [membersTail, List.cons_append] at read ⊢
    rw [readMembers_comma read, insertField_of_lt above, more]
    simp

theorem reads_zero : ReadsValues 0 ∧ ReadsItems 0 ∧ ReadsMembers 0 :=
  ⟨fun _ _ short => absurd short (Nat.not_lt_zero _),
    fun _ _ _ _ _ short => absurd short (Nat.not_lt_zero _),
    fun _ _ _ _ _ short => absurd short (Nat.not_lt_zero _)⟩

/-- The three readers take back what was written, with any fuel beyond the text's length. -/
theorem reads_render (fuel : Nat) : ReadsValues fuel ∧ ReadsItems fuel ∧ ReadsMembers fuel := by
  induction fuel with
  | zero => exact reads_zero
  | succ fuel ih =>
    obtain ⟨values, items, members⟩ := ih
    exact ⟨readsValues_succ items members, readsItems_succ values items,
      readsMembers_succ values members⟩

/-- A canonical value reads back from its text, whatever follows it. -/
theorem readValue_render {v : Json} (canonical : v.Canonical) {fuel : Nat}
    (enough : (render v).toList.length < fuel) (rest : List Char) :
    readValue fuel ((render v).toList ++ rest) = some (v, rest) :=
  (reads_render fuel).1 v canonical enough rest

/-- Reading the text of a canonical value gives the value back. -/
theorem parse?_render {v : Json} (canonical : v.Canonical) : parse? (render v) = some v := by
  have read := readValue_render canonical (Nat.lt_succ_self _) []
  rw [List.append_nil] at read
  simp [parse?, read]

end ChartCatalog.Json
