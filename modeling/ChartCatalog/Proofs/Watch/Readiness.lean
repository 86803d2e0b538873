import ChartCatalog.Watch.Object

/-!
# When a repository object is ready

A repository object is ready when the first condition of type `Ready` in its
`status.conditions` list has the status `True`. The reading walks the list in order. A
condition whose type is missing, `null` or another text is passed over, and so is an
element that is not an object, since it has no fields at all. The first condition of type
`Ready` decides by its status. A type before it, or its own status, that is present but
not text stops the reading with an error, and so does a `status.conditions` that is
present but neither a list nor `null`.

The fields are read through two accessors, one for texts and one for lists, each of
which tells a missing or `null` field, a field of its kind, and a field of another kind
apart (`nestedText?_of_absent`, `nestedText?_of_text`, `nestedText?_of_notText` and the
same three for lists).

The scan over the list is characterised in `readyAmong_eq_error_iff` and
`readyAmong_eq_ok_iff`, by one induction each over the list. The reading of a whole object
is then `true`, `false` or an error exactly as the fields say
(`readiness_follows_first_ready_condition`).
-/

set_option autoImplicit false

namespace ChartCatalog

namespace Json

variable {value : Json} {path : List String}

/-! ## What a field holds -/

/-- The field at a path is missing, lies under a value that is not an object, or is
`null`. -/
def Absent (value : Json) (path : List String) : Prop :=
  value.walk? path = none ∨ value.walk? path = some .null

/-- The field at a path holds a value that is neither text nor `null`. -/
def NotText (value : Json) (path : List String) : Prop :=
  ∃ found, value.walk? path = some found ∧ found ≠ .null ∧ ∀ s, found ≠ .str s

/-- The field at a path holds a value that is neither a list nor `null`. -/
def NotList (value : Json) (path : List String) : Prop :=
  ∃ found, value.walk? path = some found ∧ found ≠ .null ∧ ∀ items, found ≠ .arr items

/-- Every field is absent, a text, or something else. -/
theorem absent_or_text_or_notText (value : Json) (path : List String) :
    value.Absent path ∨ (∃ s, value.walk? path = some (.str s)) ∨ value.NotText path := by
  cases at_path : value.walk? path with
  | none => exact .inl (.inl at_path)
  | some found =>
    cases found with
    | null => exact .inl (.inr at_path)
    | str s => exact .inr (.inl ⟨s, rfl⟩)
    | bool b => exact .inr (.inr ⟨_, at_path, by simp, by simp⟩)
    | num n => exact .inr (.inr ⟨_, at_path, by simp, by simp⟩)
    | arr items => exact .inr (.inr ⟨_, at_path, by simp, by simp⟩)
    | obj fields => exact .inr (.inr ⟨_, at_path, by simp, by simp⟩)

/-- Every field is absent, a list, or something else. -/
theorem absent_or_list_or_notList (value : Json) (path : List String) :
    value.Absent path ∨ (∃ items, value.walk? path = some (.arr items)) ∨ value.NotList path := by
  cases at_path : value.walk? path with
  | none => exact .inl (.inl at_path)
  | some found =>
    cases found with
    | null => exact .inl (.inr at_path)
    | arr items => exact .inr (.inl ⟨items, rfl⟩)
    | bool b => exact .inr (.inr ⟨_, at_path, by simp, by simp⟩)
    | num n => exact .inr (.inr ⟨_, at_path, by simp, by simp⟩)
    | str s => exact .inr (.inr ⟨_, at_path, by simp, by simp⟩)
    | obj fields => exact .inr (.inr ⟨_, at_path, by simp, by simp⟩)

theorem not_notText_of_text {s : String} (text : value.walk? path = some (.str s)) :
    ¬value.NotText path := by
  rintro ⟨found, at_path, -, notText⟩
  rw [text] at at_path
  cases at_path
  exact notText s rfl

/-- An absent field holds no value other than `null`. -/
theorem Absent.ne_some {found : Json} (absent : value.Absent path) (notNull : found ≠ .null) :
    value.walk? path ≠ some found := by
  intro at_path
  rcases absent with missing | null
  · rw [missing] at at_path
    cases at_path
  · rw [null] at at_path
    cases at_path
    exact notNull rfl

theorem not_notText_of_absent (absent : value.Absent path) : ¬value.NotText path := by
  rintro ⟨found, at_path, notNull, -⟩
  exact absent.ne_some notNull at_path

theorem not_notList_of_absent (absent : value.Absent path) : ¬value.NotList path := by
  rintro ⟨found, at_path, notNull, -⟩
  exact absent.ne_some notNull at_path

theorem NotList.ne_arr (notList : value.NotList path) (items : List Json) :
    value.walk? path ≠ some (.arr items) := by
  obtain ⟨found, at_path, -, noList⟩ := notList
  rw [at_path]
  intro same
  cases same
  exact noList items rfl

/-! ## Reading a field -/

theorem nestedText?_of_absent (absent : value.Absent path) : nestedText? value path = .ok none := by
  unfold nestedText?
  rcases absent with missing | null
  · rw [missing]
  · rw [null]

theorem nestedText?_of_text {s : String} (text : value.walk? path = some (.str s)) :
    nestedText? value path = .ok (some s) := by
  unfold nestedText?
  rw [text]

/-- A field that is not text is an error that names its path and the kind found. -/
theorem nestedText?_of_notText (notText : value.NotText path) :
    ∃ found, value.walk? path = some found ∧
      nestedText? value path = .error (wrongType path "string" found) := by
  obtain ⟨found, at_path, notNull, noText⟩ := notText
  refine ⟨found, at_path, ?_⟩
  unfold nestedText?
  rw [at_path]
  cases found with
  | null => exact absurd rfl notNull
  | str s => exact absurd rfl (noText s)
  | bool b => rfl
  | num n => rfl
  | arr items => rfl
  | obj fields => rfl

theorem nestedList?_of_absent (absent : value.Absent path) : nestedList? value path = .ok none := by
  unfold nestedList?
  rcases absent with missing | null
  · rw [missing]
  · rw [null]

theorem nestedList?_of_list {items : List Json} (list : value.walk? path = some (.arr items)) :
    nestedList? value path = .ok (some items) := by
  unfold nestedList?
  rw [list]

/-- A field that is not a list is an error that names its path and the kind found. -/
theorem nestedList?_of_notList (notList : value.NotList path) :
    ∃ found, value.walk? path = some found ∧
      nestedList? value path = .error (wrongType path "list" found) := by
  obtain ⟨found, at_path, notNull, noList⟩ := notList
  refine ⟨found, at_path, ?_⟩
  unfold nestedList?
  rw [at_path]
  cases found with
  | null => exact absurd rfl notNull
  | arr items => exact absurd rfl (noList items)
  | bool b => rfl
  | num n => rfl
  | str s => rfl
  | obj fields => rfl

end Json

namespace RepoObject

open Json

/-! ## The scan over the conditions -/

/-- Whether a condition's type is the text `Ready`. -/
def isReadyCondition (condition : Json) : Bool :=
  match condition.walk? ["type"] with
  | some (.str kind) => kind == "Ready"
  | _ => false

/-- What stops the scan of a condition list with an error: a condition before the first
`Ready` one whose type is neither text nor `null`, or a first `Ready` condition whose status
is neither text nor `null`. -/
def ScanFault (conditions : List Json) : Prop :=
  (∃ c ∈ conditions.takeWhile (fun c => !isReadyCondition c), c.NotText ["type"]) ∨
    ∃ c, conditions.find? isReadyCondition = some c ∧ c.NotText ["status"]

/-- The first `Ready` condition of a list has the status `True`. -/
def FirstReadyTrue (conditions : List Json) : Prop :=
  ∃ c, conditions.find? isReadyCondition = some c ∧ c.walk? ["status"] = some (.str "True")

variable {c : Json} {rest : List Json}

theorem isReadyCondition_iff : isReadyCondition c = true ↔ c.walk? ["type"] = some (.str "Ready") := by
  unfold isReadyCondition
  rcases c.walk? ["type"] with _ | (_ | _ | _ | kind | _ | _) <;> simp

/-- A condition that is passed over: its type is absent or a text other than `Ready`. -/
def PassedOver (c : Json) : Prop :=
  c.Absent ["type"] ∨ ∃ kind, kind ≠ "Ready" ∧ c.walk? ["type"] = some (.str kind)

/-- Every condition is passed over, of type `Ready`, or has a type that is not text. -/
theorem passedOver_or_ready_or_notText (c : Json) :
    PassedOver c ∨ isReadyCondition c = true ∨ c.NotText ["type"] := by
  rcases absent_or_text_or_notText c ["type"] with absent | ⟨kind, text⟩ | notText
  · exact .inl (.inl absent)
  · by_cases ready : kind = "Ready"
    · subst ready
      exact .inr (.inl (isReadyCondition_iff.2 text))
    · exact .inl (.inr ⟨kind, ready, text⟩)
  · exact .inr (.inr notText)

theorem PassedOver.not_ready (passed : PassedOver c) : isReadyCondition c = false := by
  rcases passed with absent | ⟨kind, other, text⟩
  · rcases absent with missing | null <;> simp [isReadyCondition, *]
  · simp [isReadyCondition, text, other]

theorem PassedOver.not_notText (passed : PassedOver c) : ¬c.NotText ["type"] := by
  rcases passed with absent | ⟨kind, -, text⟩
  · exact not_notText_of_absent absent
  · exact not_notText_of_text text

theorem not_ready_of_notText (notText : c.NotText ["type"]) : isReadyCondition c = false := by
  cases ready : isReadyCondition c with
  | false => rfl
  | true => exact absurd notText (not_notText_of_text (isReadyCondition_iff.1 ready))

theorem readyAmong_of_passedOver (passed : PassedOver c) : readyAmong (c :: rest) = readyAmong rest := by
  rcases passed with absent | ⟨kind, other, text⟩
  · simp only [readyAmong, nestedText?_of_absent absent, bind, Except.bind]
    simp
  · simp only [readyAmong, nestedText?_of_text text, bind, Except.bind]
    simp [other]

/-- The first `Ready` condition decides by its status. -/
theorem readyAmong_of_ready (ready : isReadyCondition c = true) :
    readyAmong (c :: rest) = (nestedText? c ["status"]).map (· == some "True") := by
  simp only [readyAmong, nestedText?_of_text (isReadyCondition_iff.1 ready), bind, Except.bind]
  cases nestedText? c ["status"] <;> rfl

theorem readyAmong_of_notText (notText : c.NotText ["type"]) :
    ∃ e, readyAmong (c :: rest) = .error e := by
  obtain ⟨found, -, failed⟩ := nestedText?_of_notText notText
  exact ⟨wrongType ["type"] "string" found, by simp only [readyAmong, failed, bind, Except.bind]⟩

/-- Past a condition that is passed over, the scan faults exactly when it faults on the
rest. -/
theorem scanFault_cons_of_passedOver (passed : PassedOver c) : ScanFault (c :: rest) ↔ ScanFault rest := by
  have skipped := passed.not_ready
  simp only [ScanFault, List.takeWhile_cons, skipped, Bool.not_false, ↓reduceIte,
    List.find?_cons_of_neg (by simp [skipped] : ¬isReadyCondition c), List.mem_cons, or_and_right,
    exists_or, exists_eq_left, passed.not_notText, false_or]

theorem scanFault_cons_of_ready (ready : isReadyCondition c = true) :
    ScanFault (c :: rest) ↔ c.NotText ["status"] := by
  simp [ScanFault, ready, List.find?_cons_of_pos]

theorem scanFault_cons_of_notText (notText : c.NotText ["type"]) : ScanFault (c :: rest) := by
  have skipped := not_ready_of_notText notText
  exact .inl ⟨c, by simp [skipped], notText⟩

theorem firstReadyTrue_cons_of_passedOver (passed : PassedOver c) :
    FirstReadyTrue (c :: rest) ↔ FirstReadyTrue rest := by
  simp [FirstReadyTrue, List.find?_cons_of_neg, passed.not_ready]

theorem firstReadyTrue_cons_of_ready (ready : isReadyCondition c = true) :
    FirstReadyTrue (c :: rest) ↔ c.walk? ["status"] = some (.str "True") := by
  simp [FirstReadyTrue, List.find?_cons_of_pos, ready]

/-- The scan ends in an error exactly when it faults. -/
theorem readyAmong_eq_error_iff (conditions : List Json) :
    (∃ e, readyAmong conditions = .error e) ↔ ScanFault conditions := by
  induction conditions with
  | nil => simp [readyAmong, ScanFault]
  | cons c rest ih =>
    rcases passedOver_or_ready_or_notText c with passed | ready | notText
    · rw [readyAmong_of_passedOver passed, scanFault_cons_of_passedOver passed]
      exact ih
    · rw [readyAmong_of_ready ready, scanFault_cons_of_ready ready]
      -- the first `Ready` condition ends the scan, by its status
      rcases absent_or_text_or_notText c ["status"] with absent | ⟨s, text⟩ | notText
      · simp [nestedText?_of_absent absent, not_notText_of_absent absent, Except.map]
      · simp [nestedText?_of_text text, not_notText_of_text text, Except.map]
      · obtain ⟨found, -, failed⟩ := nestedText?_of_notText notText
        simp [failed, notText, Except.map]
    · exact iff_of_true (readyAmong_of_notText notText) (scanFault_cons_of_notText notText)

/-- The scan ends in a value exactly when it does not fault, and the value says whether the
first `Ready` condition has the status `True`. -/
theorem readyAmong_eq_ok_iff (conditions : List Json) (ready : Bool) :
    readyAmong conditions = .ok ready ↔ ¬ScanFault conditions ∧ (ready = true ↔ FirstReadyTrue conditions) := by
  induction conditions with
  | nil => simp [readyAmong, ScanFault, FirstReadyTrue, eq_comm]
  | cons c rest ih =>
    rcases passedOver_or_ready_or_notText c with passed | isReady | notText
    · rw [readyAmong_of_passedOver passed, scanFault_cons_of_passedOver passed,
        firstReadyTrue_cons_of_passedOver passed]
      exact ih
    · rw [readyAmong_of_ready isReady, scanFault_cons_of_ready isReady, firstReadyTrue_cons_of_ready isReady]
      rcases absent_or_text_or_notText c ["status"] with absent | ⟨s, text⟩ | notText
      · have notTrue : c.walk? ["status"] ≠ some (.str "True") := absent.ne_some (by simp)
        simp [nestedText?_of_absent absent, not_notText_of_absent absent, Except.map, notTrue, eq_comm]
      · rw [nestedText?_of_text text, text, iff_true_intro (not_notText_of_text text), true_and]
        show Except.ok (some s == some "True") = .ok ready ↔ _
        cases ready <;> simp
      · obtain ⟨found, -, failed⟩ := nestedText?_of_notText notText
        simp [failed, notText, Except.map]
    · obtain ⟨e, failed⟩ : ∃ e, readyAmong (c :: rest) = .error e := readyAmong_of_notText notText
      simp [failed, scanFault_cons_of_notText notText]

/-! ## Elements that are not objects -/

theorem passedOver_of_not_obj (notObj : c.isObj = false) : PassedOver c := by
  refine .inl (.inl ?_)
  cases c <;> simp_all [Json.walk?, Json.get?, Json.isObj]

/-- Conditions in front of lists on which the scan agrees keep it agreeing. -/
theorem readyAmong_cons_congr {l₁ l₂ : List Json} (same : readyAmong l₁ = readyAmong l₂) (c : Json) :
    readyAmong (c :: l₁) = readyAmong (c :: l₂) := by
  simp only [readyAmong, same]

/-- Elements that are not objects take no part in the scan. -/
theorem readyAmong_filter_isObj (conditions : List Json) :
    readyAmong (conditions.filter Json.isObj) = readyAmong conditions := by
  induction conditions with
  | nil => rfl
  | cons c rest ih =>
    cases isObj : c.isObj with
    | true =>
      rw [List.filter_cons_of_pos isObj]
      exact readyAmong_cons_congr ih c
    | false =>
      rw [List.filter_cons_of_neg (by simp [isObj]), readyAmong_of_passedOver (passedOver_of_not_obj isObj)]
      exact ih

/-! ## Readiness of an object -/

/-- A list of conditions that says "not ready": it has no `Ready` condition, or the first
one has a status that is missing, `null`, or a text other than `True`. -/
def FirstReadyNotTrue (conditions : List Json) : Prop :=
  conditions.find? isReadyCondition = none ∨
    ∃ c, conditions.find? isReadyCondition = some c ∧
      (c.Absent ["status"] ∨ ∃ s, s ≠ "True" ∧ c.walk? ["status"] = some (.str s))

/-- Where the scan does not fault, a list that does not say "ready" says "not ready". -/
theorem not_firstReadyTrue_iff {conditions : List Json} (clean : ¬ScanFault conditions) :
    ¬FirstReadyTrue conditions ↔ FirstReadyNotTrue conditions := by
  cases first : conditions.find? isReadyCondition with
  | none => simp [FirstReadyTrue, FirstReadyNotTrue, first]
  | some c =>
    have statusText : ¬c.NotText ["status"] := fun notText => clean (.inr ⟨c, first, notText⟩)
    rcases absent_or_text_or_notText c ["status"] with absent | ⟨s, text⟩ | notText
    · have notTrue : c.walk? ["status"] ≠ some (.str "True") := absent.ne_some (by simp)
      simp [FirstReadyTrue, FirstReadyNotTrue, first, notTrue, absent]
    · by_cases isTrue : s = "True"
      · subst isTrue
        simp [FirstReadyTrue, FirstReadyNotTrue, first, text, Json.Absent]
      · simp [FirstReadyTrue, FirstReadyNotTrue, first, text, isTrue, Json.Absent]
    · exact absurd notText statusText

variable {obj : Json} {conditions : List Json}

/-- What makes reading an object's readiness fail: `status.conditions` holds something
that is neither a list nor `null`, or a list whose scan faults. -/
def ReadinessFault (obj : Json) : Prop :=
  obj.NotList ["status", "conditions"] ∨
    ∃ conditions, obj.walk? ["status", "conditions"] = some (.arr conditions) ∧ ScanFault conditions

/-- An object is ready by its conditions: `status.conditions` is a list whose first `Ready`
condition has the status `True`. -/
def ReadyByConditions (obj : Json) : Prop :=
  ∃ conditions, obj.walk? ["status", "conditions"] = some (.arr conditions) ∧
    FirstReadyTrue conditions

/-- An object is not ready by its conditions: `status.conditions` is missing or `null`, or
a list that says "not ready". -/
def NotReadyByConditions (obj : Json) : Prop :=
  obj.Absent ["status", "conditions"] ∨
    ∃ conditions, obj.walk? ["status", "conditions"] = some (.arr conditions) ∧
      FirstReadyNotTrue conditions

theorem isReady_of_absent (absent : obj.Absent ["status", "conditions"]) : isReady obj = .ok false := by
  simp only [isReady, nestedList?_of_absent absent, bind, Except.bind]
  rfl

theorem isReady_of_list (list : obj.walk? ["status", "conditions"] = some (.arr conditions)) :
    isReady obj = readyAmong conditions := by
  simp only [isReady, nestedList?_of_list list, bind, Except.bind]

theorem isReady_of_notList (notList : obj.NotList ["status", "conditions"]) :
    ∃ e, isReady obj = .error e := by
  obtain ⟨found, -, failed⟩ := nestedList?_of_notList notList
  exact ⟨wrongType ["status", "conditions"] "list" found, by simp only [isReady, failed, bind, Except.bind]⟩

/-- Where `status.conditions` is missing or `null`, nothing faults and the object is not
ready. -/
theorem readiness_of_absent (absent : obj.Absent ["status", "conditions"]) :
    ¬ReadinessFault obj ∧ ¬ReadyByConditions obj ∧ NotReadyByConditions obj := by
  have noList : ∀ conditions, obj.walk? ["status", "conditions"] ≠ some (.arr conditions) :=
    fun _ => absent.ne_some (by simp)
  refine ⟨?_, ?_, .inl absent⟩
  · rintro (notList | ⟨conditions, list, -⟩)
    · exact not_notList_of_absent absent notList
    · exact noList conditions list
  · rintro ⟨conditions, list, -⟩
    exact noList conditions list

/-- Where `status.conditions` is a list, the readiness is the list's. -/
theorem readiness_of_list (list : obj.walk? ["status", "conditions"] = some (.arr conditions)) :
    (ReadinessFault obj ↔ ScanFault conditions) ∧ (ReadyByConditions obj ↔ FirstReadyTrue conditions) ∧
      (NotReadyByConditions obj ↔ FirstReadyNotTrue conditions) := by
  have same : ∀ other, obj.walk? ["status", "conditions"] = some (.arr other) → other = conditions := by
    intro other list'
    rw [list] at list'
    cases list'
    rfl
  refine ⟨⟨?_, fun fault => .inr ⟨conditions, list, fault⟩⟩,
    ⟨?_, fun ready => ⟨conditions, list, ready⟩⟩, ⟨?_, fun notReady => .inr ⟨conditions, list, notReady⟩⟩⟩
  · rintro (notList | ⟨other, list', fault⟩)
    · exact absurd list (notList.ne_arr conditions)
    · exact same other list' ▸ fault
  · rintro ⟨other, list', ready⟩
    exact same other list' ▸ ready
  · rintro (absent | ⟨other, list', notReady⟩)
    · exact absurd list (absent.ne_some (by simp))
    · exact same other list' ▸ notReady

/-- Where `status.conditions` holds something else, reading the readiness faults. -/
theorem readiness_of_notList (notList : obj.NotList ["status", "conditions"]) :
    ReadinessFault obj ∧ ¬ReadyByConditions obj ∧ ¬NotReadyByConditions obj := by
  refine ⟨.inl notList, ?_, ?_⟩
  · rintro ⟨conditions, list, -⟩
    exact notList.ne_arr conditions list
  · rintro (absent | ⟨conditions, list, -⟩)
    · exact not_notList_of_absent absent notList
    · exact notList.ne_arr conditions list

/-- Readiness is decided by the first `Ready` condition. Reading it is `true` exactly when
nothing faults and `status.conditions` is a list whose first `Ready` condition has the
status `True`; `false` exactly when nothing faults and `status.conditions` is missing,
`null`, or a list with no `Ready` condition or whose first one has a status that is
missing, `null` or another text; and an error exactly when `status.conditions` holds
something other than a list or `null`, a condition before the first `Ready` one has a
type that is neither text nor `null`, or the first `Ready` condition has such a status.
Elements of the list that are not objects are passed over. -/
theorem readiness_follows_first_ready_condition (obj : Json) :
    (isReady obj = .ok true ↔ ¬ReadinessFault obj ∧ ReadyByConditions obj) ∧
      (isReady obj = .ok false ↔ ¬ReadinessFault obj ∧ NotReadyByConditions obj) ∧
      ((∃ e, isReady obj = .error e) ↔ ReadinessFault obj) ∧
      ∀ conditions, readyAmong (conditions.filter Json.isObj) = readyAmong conditions := by
  rcases absent_or_list_or_notList obj ["status", "conditions"] with absent | ⟨conditions, list⟩ | notList
  · obtain ⟨clean, notReady, notReady'⟩ := readiness_of_absent absent
    rw [isReady_of_absent absent]
    refine ⟨?_, ?_, ?_, readyAmong_filter_isObj⟩ <;> simp [clean, notReady, notReady']
  · -- a list is read by the scan
    obtain ⟨fault, ready, notReady⟩ := readiness_of_list list
    simp only [isReady_of_list list, readyAmong_eq_ok_iff, readyAmong_eq_error_iff, fault, ready, notReady]
    refine ⟨by simp, ⟨?_, ?_⟩, trivial, readyAmong_filter_isObj⟩
    · rintro ⟨clean, decided⟩
      exact ⟨clean, (not_firstReadyTrue_iff clean).1 fun isTrue => absurd (decided.2 isTrue) (by simp)⟩
    · rintro ⟨clean, notTrue⟩
      exact ⟨clean, by simpa using (not_firstReadyTrue_iff clean).2 notTrue⟩
  · obtain ⟨fault, -, -⟩ := readiness_of_notList notList
    obtain ⟨e, failed⟩ := isReady_of_notList notList
    rw [failed]
    refine ⟨?_, ?_, ?_, readyAmong_filter_isObj⟩ <;> simp [fault]

/-- A condition before the first `Ready` one whose type is a number stops the reading, even
though the first `Ready` condition has the status `True`. -/
example : isReady (.obj [("status", .obj [("conditions", .arr [.obj [("type", .num (.int 5))],
    .obj [("status", .str "True"), ("type", .str "Ready")]])])]) =
    .error (wrongType ["type"] "string" (.num (.int 5))) := by
  rfl

/-- A text, a condition of another type and a malformed condition after the first `Ready`
one take no part. -/
example : isReady (.obj [("status", .obj [("conditions", .arr [.str "Ready",
    .obj [("type", .str "Fetched")], .obj [("status", .str "True"), ("type", .str "Ready")],
    .obj [("type", .num (.int 5))]])])]) = .ok true := by
  rfl

end RepoObject

end ChartCatalog
