import ChartCatalog.Config.Settings

/-!
# Reading durations

A duration is read from its text trimmed and lowercased (`Duration.prepared`). What is
left must be a count, possibly with blanks around it, and an optional unit letter
(`Duration.Written`). The count is what an unsigned 64-bit reader takes: an optional `+`
and at least one decimal digit, of value below `2 ^ 64` (`Duration.IsCount`).

Reading is exact (`Duration.parseSeconds_eq_ok_iff`): it gives the count times the
seconds of the unit exactly when the text has that form and the product stays below
`2 ^ 64`. When the text has that form and the product does not fit, reading ends in the
arithmetic overflow (`Duration.parseSeconds_eq_overflow_iff`), the failure that aborts
the program instead of reporting a fault; every other text is a reading fault
(`Duration.parseSeconds_invalid_iff`). Checking settings aborts exactly when the first
duration that gets read overflows (`Settings.validate_overflow_iff`).

The proof follows the three steps of reading: the unit letter is split off
(`Duration.splitUnit_append`), the blanks around the count are cut
(`Text.trimChars_frame`), and the digits are read with the range checked at every step
(`readDigits_eq_ok_iff`), which comes to the same as checking the value of all the
digits once.

ASCII text without capitals is its own lowercase form (`Text.lowerChars_of_ascii`). The
lowercase table is checked once for this, not character by character. So such a duration
text is prepared by cutting its blanks alone (`Duration.prepared_of_ascii`).
-/

set_option autoImplicit false

namespace ChartCatalog

/-! ## Counts -/

/-- Reading digits onto a value gives the value of all the digits, when each is a digit
and the value stays below `2 ^ 64`. -/
theorem readDigits_eq_ok_iff (ds : List Char) {acc : Nat} (fits : acc < wordLimit) (n : Nat) :
    readDigits acc ds = .ok n ↔
      (∀ d ∈ ds, d.isDigit = true) ∧ Nat.ofDigitChars 10 ds acc = n ∧ n < wordLimit := by
  induction ds generalizing acc with
  | nil =>
    simp only [readDigits, Except.ok.injEq, List.not_mem_nil, false_implies, implies_true,
      Nat.ofDigitChars_nil, true_and]
    constructor
    · rintro rfl
      exact ⟨rfl, fits⟩
    · exact And.left
  | cons c rest ih =>
    have step : Nat.ofDigitChars 10 (c :: rest) acc =
        Nat.ofDigitChars 10 rest (10 * acc + (c.toNat - 48)) := Nat.ofDigitChars_cons
    -- digits only make the value larger, so a step past the range is never undone
    have grows : 10 * acc + (c.toNat - 48) ≤
        Nat.ofDigitChars 10 rest (10 * acc + (c.toNat - 48)) := by
      rw [Nat.ofDigitChars_eq_ofDigitChars_zero]
      have power : 1 ≤ 10 ^ rest.length := Nat.one_le_pow _ _ (by decide)
      have scaled := Nat.le_mul_of_pos_left (10 * acc + (c.toNat - 48)) power
      omega
    simp only [readDigits, List.mem_cons, forall_eq_or_imp, step]
    by_cases digit : c.isDigit = true
    · by_cases within : 10 * acc + (c.toNat - 48) < wordLimit
      · simp only [digit, within, if_true, ih within, true_and]
      · simp only [digit, within, if_true, if_false, true_and]
        constructor
        · intro failed
          cases failed
        · rintro ⟨-, rfl, below⟩
          omega
    · simp [digit]

namespace Duration

/-- A count as an unsigned 64-bit reader takes it: an optional `+`, then decimal digits
whose value `n` is below `2 ^ 64`. -/
def IsCount (cs : List Char) (n : Nat) : Prop :=
  ∃ digits : List Char, (cs = digits ∨ cs = '+' :: digits) ∧ digits ≠ [] ∧
    (∀ d ∈ digits, d.isDigit = true) ∧ Nat.ofDigitChars 10 digits 0 = n ∧ n < wordLimit

end Duration

theorem readCount_plus {digits : List Char} (nonempty : digits ≠ []) :
    readCount ('+' :: digits) = readDigits 0 digits := by
  obtain ⟨c, rest, rfl⟩ := List.exists_cons_of_ne_nil nonempty
  rfl

theorem readCount_unsigned {c : Char} (rest : List Char) (unsigned : c ≠ '+') :
    readCount (c :: rest) = readDigits 0 (c :: rest) := by
  cases rest <;> simp [readCount, unsigned]

/-- A count reads as `n` exactly when it is written as the count `n`. -/
theorem readCount_eq_ok_iff (cs : List Char) (n : Nat) :
    readCount cs = .ok n ↔ Duration.IsCount cs n := by
  have zero : (0 : Nat) < wordLimit := by decide
  constructor
  · intro read
    cases cs with
    | nil => cases read
    | cons c rest =>
      by_cases plus : c = '+'
      · subst plus
        cases rest with
        | nil => cases read
        | cons d more =>
          rw [readCount_plus (List.cons_ne_nil d more), readDigits_eq_ok_iff _ zero] at read
          exact ⟨d :: more, .inr rfl, List.cons_ne_nil d more, read⟩
      · rw [readCount_unsigned rest plus, readDigits_eq_ok_iff _ zero] at read
        exact ⟨c :: rest, .inl rfl, List.cons_ne_nil c rest, read⟩
  · rintro ⟨digits, written, nonempty, allDigits, value, below⟩
    have read : readDigits 0 digits = .ok n := (readDigits_eq_ok_iff _ zero n).2
      ⟨allDigits, value, below⟩
    rcases written with rfl | rfl
    · obtain ⟨c, rest, rfl⟩ := List.exists_cons_of_ne_nil nonempty
      -- a digit is no sign
      have unsigned : c ≠ '+' := by
        rintro rfl
        exact absurd (allDigits '+' List.mem_cons_self) (by decide)
      rw [readCount_unsigned rest unsigned]
      exact read
    · rw [readCount_plus nonempty]
      exact read

/-! ## Blanks around the count -/

namespace Text

theorem dropBlanks_blanks_append {blanks : List Char} (rest : List Char)
    (allBlank : ∀ c ∈ blanks, isBlank c = true) :
    dropBlanks (blanks ++ rest) = dropBlanks rest :=
  List.dropWhile_append_of_pos allBlank

theorem dropBlanks_of_head {cs : List Char} (first : ∀ c, cs.head? = some c → isBlank c = false) :
    dropBlanks cs = cs := by
  cases cs with
  | nil => rfl
  | cons c rest => exact List.dropWhile_cons_of_neg (by simp [first c rfl])

/-- Every text is its trimmed text between blanks. -/
theorem trimChars_between (cs : List Char) :
    ∃ lead trail, cs = lead ++ trimChars cs ++ trail ∧ ∀ c ∈ lead ++ trail, isBlank c = true := by
  -- the blanks cut at the front, and those cut at the back of what is left
  have front : cs = cs.takeWhile isBlank ++ dropBlanks cs := List.takeWhile_append_dropWhile.symm
  have back : dropBlanks cs =
      trimChars cs ++ ((dropBlanks cs).reverse.takeWhile isBlank).reverse := by
    have split : (dropBlanks cs).reverse.takeWhile isBlank ++ dropBlanks (dropBlanks cs).reverse =
        (dropBlanks cs).reverse := List.takeWhile_append_dropWhile
    calc dropBlanks cs = (dropBlanks cs).reverse.reverse := (List.reverse_reverse _).symm
      _ = ((dropBlanks cs).reverse.takeWhile isBlank ++
            dropBlanks (dropBlanks cs).reverse).reverse := by rw [split]
      _ = trimChars cs ++ ((dropBlanks cs).reverse.takeWhile isBlank).reverse := by
        rw [List.reverse_append]
        rfl
  refine ⟨cs.takeWhile isBlank, ((dropBlanks cs).reverse.takeWhile isBlank).reverse, ?_, ?_⟩
  · rw [List.append_assoc, ← back]
    exact front
  · intro c member
    rcases List.mem_append.1 member with inFront | inBack
    · exact List.all_eq_true.1 List.all_takeWhile c inFront
    · exact List.all_eq_true.1 List.all_takeWhile c (List.mem_reverse.1 inBack)

/-- Cutting the blanks around a text that neither starts nor ends with a blank gives the
text. -/
theorem trimChars_frame {lead body trail : List Char}
    (blanks : ∀ c ∈ lead ++ trail, isBlank c = true)
    (first : ∀ c, body.head? = some c → isBlank c = false)
    (last : ∀ c, body.getLast? = some c → isBlank c = false) :
    trimChars (lead ++ body ++ trail) = body := by
  have leadBlank : ∀ c ∈ lead, isBlank c = true := fun c member =>
    blanks c (List.mem_append_left _ member)
  have trailBlank : ∀ c ∈ trail.reverse, isBlank c = true := fun c member =>
    blanks c (List.mem_append_right _ (List.mem_reverse.1 member))
  have front : dropBlanks (lead ++ body ++ trail) = dropBlanks (body ++ trail) := by
    rw [List.append_assoc, dropBlanks_blanks_append _ leadBlank]
  cases body with
  | nil =>
    have gone : dropBlanks (trail ++ []) = dropBlanks [] :=
      dropBlanks_blanks_append [] fun c member => blanks c (List.mem_append_right _ member)
    rw [List.append_nil] at gone
    rw [trimChars, front, List.nil_append, gone]
    rfl
  | cons c rest =>
    have kept : dropBlanks (c :: rest ++ trail) = c :: rest ++ trail :=
      dropBlanks_of_head fun d head => first d (by simpa using head)
    have backKept : dropBlanks (c :: rest ++ trail).reverse = (c :: rest).reverse := by
      rw [List.reverse_append, dropBlanks_blanks_append _ trailBlank]
      exact dropBlanks_of_head fun d head => last d (by rwa [List.head?_reverse] at head)
    rw [trimChars, front, kept, backKept, List.reverse_reverse]

/-- What is left after cutting blanks was in the text. -/
theorem mem_of_mem_trimChars {cs : List Char} {c : Char} (member : c ∈ trimChars cs) : c ∈ cs := by
  obtain ⟨lead, trail, around, -⟩ := trimChars_between cs
  rw [around]
  exact List.mem_append_left _ (List.mem_append_right _ member)

end Text

/-! ## Lowercase ASCII -/

namespace Text

/-- Only the first run of the lowercase table starts in ASCII, and it holds exactly the
capitals. -/
theorem lowercaseRuns_past_ascii :
    lowercaseRuns.toList.all
        (fun run => decide (0x41 ≤ run.first ∧ (run.first < 0x80 → run.last = 0x5A))) = true := by
  decide +kernel

/-- An ASCII code point that is no capital has no other lowercase form. -/
theorem lowerCode?_of_ascii {n : Nat} (ascii : n < 0x80) (notCapital : n < 0x41 ∨ 0x5A < n) :
    lowerCode? n = none := by
  unfold lowerCode?
  rw [Array.findSome?_eq_none_iff]
  intro run member
  have past := List.all_eq_true.1 lowercaseRuns_past_ascii run (Array.mem_toList_iff.2 member)
  simp only [decide_eq_true_eq] at past
  split
  · rename_i within
    simp only [Bool.and_eq_true, decide_eq_true_eq, beq_iff_eq] at within
    omega
  · rfl

/-- ASCII text without capitals is its own lowercase form. -/
theorem lowerChars_of_ascii {before cs : List Char}
    (ascii : ∀ c ∈ cs, c.toNat < 0x80 ∧ (c.toNat < 0x41 ∨ 0x5A < c.toNat)) :
    lowerChars before cs = cs := by
  induction cs generalizing before with
  | nil => rfl
  | cons c rest ih =>
    obtain ⟨low, notCapital⟩ := ascii c List.mem_cons_self
    have same : lowerChar c = c := by
      unfold lowerChar
      rw [lowerCode?_of_ascii low notCapital]
    -- neither of the two letters the table does not cover
    have notDotted : (c.toNat == 0x130) = false := by simp only [beq_eq_false_iff_ne]; omega
    have notSigma : (c.toNat == 0x3A3) = false := by simp only [beq_eq_false_iff_ne]; omega
    simp only [lowerChars, notDotted, notSigma, same, Bool.false_eq_true, if_false,
      ih fun d member => ascii d (List.mem_cons_of_mem c member)]

end Text

/-! ## Unit letters -/

namespace Duration

/-- The unit letters and the seconds they stand for; a text without one counts seconds. -/
def units : List (List Char × Nat) :=
  [([], 1), (['d'], 86400), (['h'], 3600), (['m'], 60), (['s'], 1)]

/-- Whether a character is one of the unit letters. -/
def isUnitLetter (c : Char) : Bool := c == 'd' || c == 'h' || c == 'm' || c == 's'

theorem eq_append_of_reverse_eq {cs rest : List Char} {c : Char} (reversed : cs.reverse = c :: rest) :
    cs = rest.reverse ++ [c] := by
  rw [← List.reverse_reverse cs, reversed, List.reverse_cons]

/-- A text is the text before its unit letter, followed by the letter if it has one. -/
theorem splitUnit_spec (cs : List Char) :
    ∃ suffix, cs = (splitUnit cs).1 ++ suffix ∧ (suffix, (splitUnit cs).2) ∈ units := by
  unfold splitUnit
  split
  · rename_i rest reversed
    exact ⟨['d'], eq_append_of_reverse_eq reversed, by simp [units]⟩
  · rename_i rest reversed
    exact ⟨['h'], eq_append_of_reverse_eq reversed, by simp [units]⟩
  · rename_i rest reversed
    exact ⟨['m'], eq_append_of_reverse_eq reversed, by simp [units]⟩
  · rename_i rest reversed
    exact ⟨['s'], eq_append_of_reverse_eq reversed, by simp [units]⟩
  · exact ⟨[], by simp, by simp [units]⟩

/-- A text followed by a unit letter splits off that letter; a text that ends in no unit
letter is all count. -/
theorem splitUnit_append {body suffix : List Char} {unit : Nat}
    (unitWritten : (suffix, unit) ∈ units)
    (noLetter : suffix = [] → ∀ c, body.getLast? = some c → isUnitLetter c = false) :
    splitUnit (body ++ suffix) = (body, unit) := by
  simp only [units, List.mem_cons, Prod.mk.injEq, List.not_mem_nil, or_false] at unitWritten
  rcases unitWritten with ⟨rfl, rfl⟩ | ⟨rfl, rfl⟩ | ⟨rfl, rfl⟩ | ⟨rfl, rfl⟩ | ⟨rfl, rfl⟩
  case inl =>
    rw [List.append_nil]
    rcases reversed : body.reverse with _ | ⟨c, rest⟩
    · simp [splitUnit, reversed]
    · -- the last letter, read first backwards, is no unit letter
      have notLetter := noLetter rfl c (by rw [← List.head?_reverse, reversed]; rfl)
      simp only [isUnitLetter, Bool.or_eq_false_iff, beq_eq_false_iff_ne] at notLetter
      obtain ⟨⟨⟨notD, notH⟩, notM⟩, notS⟩ := notLetter
      unfold splitUnit
      rw [reversed]
      split <;> simp_all
  all_goals simp [splitUnit]

/-- Neither a blank nor a digit is a unit letter. -/
theorem isUnitLetter_eq_false {c : Char} (notLetter : Text.isBlank c = true ∨ c.isDigit = true) :
    isUnitLetter c = false := by
  simp only [isUnitLetter, Bool.or_eq_false_iff, beq_eq_false_iff_ne]
  refine ⟨⟨⟨?_, ?_⟩, ?_⟩, ?_⟩ <;>
    · rintro rfl
      rcases notLetter with blank | digit
      · exact absurd blank (by decide)
      · exact absurd digit (by decide)

/-- A digit is no blank. -/
theorem isBlank_eq_false_of_isDigit {c : Char} (digit : c.isDigit = true) :
    Text.isBlank c = false := by
  simp only [Char.isDigit, Bool.and_eq_true, decide_eq_true_eq] at digit
  have low : 48 ≤ c.toNat := digit.1
  have high : c.toNat ≤ 57 := digit.2
  simp only [Text.isBlank, Bool.or_eq_false_iff, Bool.and_eq_false_iff, decide_eq_false_iff_not,
    beq_eq_false_iff_ne]
  omega

/-! ## Duration texts -/

/-- The text a duration is read from: trimmed, then lowercased. -/
def prepared (text : String) : List Char := (Text.toLower (Text.trim text)).toList

/-- A duration text in ASCII without capitals is prepared by cutting its blanks alone. -/
theorem prepared_of_ascii {text : String}
    (ascii : ∀ c ∈ text.toList, c.toNat < 0x80 ∧ (c.toNat < 0x41 ∨ 0x5A < c.toNat)) :
    prepared text = Text.trimChars text.toList := by
  rw [prepared, Text.trim, Text.toLower, String.toList_ofList, String.toList_ofList,
    Text.lowerChars_of_ascii fun c member => ascii c (Text.mem_of_mem_trimChars member)]

/-- A trimmed, lowercased duration text for the count `n` and a unit of `unit` seconds:
blanks, the count, blanks, and the unit's letter if it has one. -/
def Written (t : List Char) (n unit : Nat) : Prop :=
  ∃ lead count trail suffix, t = lead ++ count ++ trail ++ suffix ∧
    (∀ c ∈ lead ++ trail, Text.isBlank c = true) ∧ IsCount count n ∧ (suffix, unit) ∈ units

/-- A count is not empty, starts with a sign or a digit and ends with a digit. -/
theorem IsCount.ends {cs : List Char} {n : Nat} (count : IsCount cs n) :
    (∀ c, cs.head? = some c → Text.isBlank c = false) ∧
      ∃ d, cs.getLast? = some d ∧ d.isDigit = true := by
  obtain ⟨digits, written, nonempty, allDigits, -, -⟩ := count
  obtain ⟨init, d, shape⟩ := (List.eq_nil_or_concat digits).resolve_left nonempty
  have lastDigit : d.isDigit = true := allDigits d (by rw [shape]; simp)
  rcases written with rfl | rfl
  · refine ⟨fun c head => isBlank_eq_false_of_isDigit (allDigits c (List.mem_of_mem_head? head)),
      d, by rw [shape]; simp, lastDigit⟩
  · refine ⟨fun c head => ?_, d, ?_, lastDigit⟩
    · cases head
      decide
    · rw [shape, List.concat_eq_append, ← List.cons_append, List.getLast?_concat]

/-- A text whose count, once split from its unit and cut of blanks, reads as `n` is
written for `n` and that unit. -/
theorem Written.of_split {t count : List Char} {n unit : Nat}
    (split : splitUnit t = (count, unit)) (read : readCount (Text.trimChars count) = .ok n) :
    Written t n unit := by
  obtain ⟨suffix, atEnd, unitWritten⟩ := splitUnit_spec t
  rw [split] at atEnd unitWritten
  obtain ⟨lead, trail, around, blanks⟩ := Text.trimChars_between count
  refine ⟨lead, Text.trimChars count, trail, suffix, ?_, blanks,
    (readCount_eq_ok_iff _ _).1 read, unitWritten⟩
  exact atEnd.trans (congrArg (· ++ suffix) around)

/-- A written duration splits into its unit and a count that reads as its own. -/
theorem Written.split {t count : List Char} {n unit unit' : Nat} (written : Written t n unit)
    (split : splitUnit t = (count, unit')) :
    unit' = unit ∧ readCount (Text.trimChars count) = .ok n := by
  obtain ⟨lead, digits, trail, suffix, rfl, blanks, isCount, unitWritten⟩ := written
  obtain ⟨first, d, countLast, lastDigit⟩ := isCount.ends
  -- the text before the unit ends in a blank after the count, or else in the count's digit
  have noLetter : suffix = [] →
      ∀ c, (lead ++ digits ++ trail).getLast? = some c → isUnitLetter c = false := by
    intro _ c last
    rw [List.getLast?_append, List.getLast?_append, countLast] at last
    cases trailLast : trail.getLast? with
    | none =>
      simp only [trailLast, Option.none_or, Option.some_or, Option.some.injEq] at last
      subst last
      exact isUnitLetter_eq_false (.inr lastDigit)
    | some e =>
      simp only [trailLast, Option.some_or, Option.some.injEq] at last
      subst last
      exact isUnitLetter_eq_false
        (.inl (blanks e (List.mem_append_right _ (List.mem_of_getLast? trailLast))))
  have countLastBlank : ∀ c, digits.getLast? = some c → Text.isBlank c = false := by
    intro c last
    rw [countLast] at last
    cases last
    exact isBlank_eq_false_of_isDigit lastDigit
  rw [splitUnit_append unitWritten noLetter, Prod.mk.injEq] at split
  obtain ⟨rfl, rfl⟩ := split
  rw [Text.trimChars_frame blanks first countLastBlank]
  exact ⟨rfl, (readCount_eq_ok_iff _ _).2 isCount⟩

/-! ## Reading a duration -/

/-- A text whose count does not read is no written duration. -/
theorem Written.not_of_error {t count : List Char} {unit : Nat} {cause : CountError}
    (split : splitUnit t = (count, unit)) (failed : readCount (Text.trimChars count) = .error cause)
    {n unit' : Nat} : ¬Written t n unit' := fun written => by
  rw [(written.split split).2] at failed
  cases failed

/-- A text whose count reads is written with that count and its unit only. -/
theorem Written.eq_of_ok {t count : List Char} {n m unit unit' : Nat}
    (written : Written t m unit') (split : splitUnit t = (count, unit))
    (read : readCount (Text.trimChars count) = .ok n) : m = n ∧ unit' = unit := by
  obtain ⟨same, again⟩ := written.split split
  rw [read, Except.ok.injEq] at again
  exact ⟨again.symm, same.symm⟩

/-- A count that does not read is the fault of the duration. -/
theorem parseSeconds_of_error {text : String} {count : List Char} {unit : Nat} {cause : CountError}
    (split : splitUnit (prepared text) = (count, unit))
    (failed : readCount (Text.trimChars count) = .error cause) :
    parseSeconds text = .error (.invalidNumber (String.ofList count) cause) := by
  unfold prepared at split
  -- unfolded by `delta`: the equation lemmas would have Lean evaluate the whole reading
  delta parseSeconds
  simp only [split, failed]

/-- A count that reads is multiplied by the seconds of the unit, unless that overflows. -/
theorem parseSeconds_of_ok {text : String} {count : List Char} {unit n : Nat}
    (split : splitUnit (prepared text) = (count, unit))
    (read : readCount (Text.trimChars count) = .ok n) :
    parseSeconds text = if n * unit < wordLimit then .ok (n * unit) else .error .overflow := by
  unfold prepared at split
  delta parseSeconds
  simp only [split, read]

/-- A duration reads as a number of seconds exactly when its text is a count and a unit
whose product fits in 64 bits, and then as that product. -/
theorem parseSeconds_eq_ok_iff (text : String) (seconds : Nat) :
    parseSeconds text = .ok seconds ↔
      ∃ n unit, Written (prepared text) n unit ∧ n * unit < wordLimit ∧ seconds = n * unit := by
  rcases split : splitUnit (prepared text) with ⟨count, unit⟩
  cases counted : readCount (Text.trimChars count) with
  | error cause =>
    rw [parseSeconds_of_error split counted]
    refine ⟨fun failed => (by cases failed), ?_⟩
    rintro ⟨n, unit', written, -, -⟩
    exact absurd written (Written.not_of_error split counted)
  | ok n =>
    rw [parseSeconds_of_ok split counted]
    constructor
    · intro read
      split at read
      · rename_i fits
        cases read
        exact ⟨n, unit, Written.of_split split counted, fits, rfl⟩
      · cases read
    · rintro ⟨m, unit', written, fits, rfl⟩
      obtain ⟨rfl, rfl⟩ := written.eq_of_ok split counted
      simp [fits]

/-- A duration overflows exactly when its text is a count and a unit whose product does
not fit in 64 bits. -/
theorem parseSeconds_eq_overflow_iff (text : String) :
    parseSeconds text = .error .overflow ↔
      ∃ n unit, Written (prepared text) n unit ∧ wordLimit ≤ n * unit := by
  rcases split : splitUnit (prepared text) with ⟨count, unit⟩
  cases counted : readCount (Text.trimChars count) with
  | error cause =>
    rw [parseSeconds_of_error split counted]
    refine ⟨fun failed => (by cases failed), ?_⟩
    rintro ⟨n, unit', written, -⟩
    exact absurd written (Written.not_of_error split counted)
  | ok n =>
    rw [parseSeconds_of_ok split counted]
    constructor
    · intro read
      split at read
      · cases read
      · rename_i tooLarge
        exact ⟨n, unit, Written.of_split split counted, Nat.le_of_not_lt tooLarge⟩
    · rintro ⟨m, unit', written, tooLarge⟩
      obtain ⟨rfl, rfl⟩ := written.eq_of_ok split counted
      simp [Nat.not_lt.2 tooLarge]

/-- Every other text is a fault of its count. -/
theorem parseSeconds_invalid_iff (text : String) :
    (∃ count cause, parseSeconds text = .error (.invalidNumber count cause)) ↔
      ¬∃ n unit, Written (prepared text) n unit := by
  rcases split : splitUnit (prepared text) with ⟨count, unit⟩
  cases counted : readCount (Text.trimChars count) with
  | error cause =>
    rw [parseSeconds_of_error split counted]
    refine ⟨fun _ => ?_, fun _ => ⟨_, cause, rfl⟩⟩
    rintro ⟨n, unit', written⟩
    exact absurd written (Written.not_of_error split counted)
  | ok n =>
    rw [parseSeconds_of_ok split counted]
    refine ⟨?_, fun notWritten => absurd ⟨n, unit, Written.of_split split counted⟩ notWritten⟩
    rintro ⟨count, cause, read⟩
    split at read <;> cases read

end Duration

/-! ## Checking settings -/

namespace Settings

/-- A repository section is refused by one of its rules, never by an overflow. -/
theorem checkRepo_isOverflow {name : String} {repo : RepoSection} {fault : SettingsFault}
    (refused : checkRepo name repo = .error fault) : fault.isOverflow = false := by
  unfold checkRepo at refused
  split at refused
  · cases refused
    rfl
  · split at refused
    · cases refused
      rfl
    · cases refused

theorem forM_checkRepo_isOverflow {repos : List (String × RepoSection)} {fault : SettingsFault}
    (refused : repos.forM (fun entry => checkRepo entry.1 entry.2) = .error fault) :
    fault.isOverflow = false := by
  induction repos with
  | nil => cases refused
  | cons entry rest ih =>
    simp only [List.forM] at refused
    cases checked : checkRepo entry.1 entry.2 with
    | error e =>
      rw [checked] at refused
      cases refused
      exact checkRepo_isOverflow checked
    | ok u =>
      rw [checked] at refused
      exact ih refused

/-- A duration field that reads gives its seconds. -/
theorem durationOf_ok {field text : String} {seconds : Nat}
    (read : Duration.parseSeconds text = .ok seconds) : durationOf field text = .ok seconds := by
  delta durationOf
  rw [read]

/-- A duration field that does not read is refused under its name. -/
theorem durationOf_error {field text : String} {e : DurationError}
    (failed : Duration.parseSeconds text = .error e) :
    durationOf field text = .error (.badDuration field e) := by
  delta durationOf
  rw [failed]

/-- Checking settings aborts on an overflow exactly when the checks before the durations
pass and the first duration that gets read overflows: the interval, or the timeout after
an interval that reads. -/
theorem validate_overflow_iff (s : Settings) :
    (∃ fault, s.validate = .error fault ∧ fault.isOverflow = true) ↔
      s.sync.workers ≠ 0 ∧ s.cache.maxWorkers ≠ 0 ∧ s.http.maxBodySize ≠ 0 ∧
        (Duration.parseSeconds s.sync.interval = .error .overflow ∨
          (∃ seconds, Duration.parseSeconds s.sync.interval = .ok seconds) ∧
            Duration.parseSeconds s.http.timeout = .error .overflow) := by
  by_cases workers : s.sync.workers = 0
  · simp [validate, workers, SettingsFault.isOverflow, bind, Except.bind, throw, throwThe,
      MonadExceptOf.throw]
  by_cases cache : s.cache.maxWorkers = 0
  · simp [validate, workers, cache, SettingsFault.isOverflow, bind, Except.bind, throw, throwThe,
      MonadExceptOf.throw]
  by_cases body : s.http.maxBodySize = 0
  · simp [validate, workers, cache, body, SettingsFault.isOverflow, bind, Except.bind, throw,
      throwThe, MonadExceptOf.throw]
  -- the guards pass; the interval is read first, then the timeout, then the repositories
  cases interval : Duration.parseSeconds s.sync.interval with
  | error e =>
    cases e <;> simp [validate, workers, cache, body, durationOf_error interval,
      SettingsFault.isOverflow, bind, Except.bind]
  | ok seconds =>
    cases timeout : Duration.parseSeconds s.http.timeout with
    | error e =>
      cases e <;>
        simp [validate, workers, cache, body, durationOf_ok interval, durationOf_error timeout,
          SettingsFault.isOverflow, bind, Except.bind]
    | ok _ =>
      simp [validate, workers, cache, body, durationOf_ok interval, durationOf_ok timeout, bind,
        Except.bind]
      intro fault refused
      exact forM_checkRepo_isOverflow refused

end Settings

/-- Reading a duration is exact: a count and a unit whose product fits in 64 bits read as
that product, and every text that is not a count and a unit is a fault of its count. A
product that does not fit is no fault but an overflow, which aborts instead of answering;
checking settings meets it exactly when the first duration it reads overflows. -/
theorem durations_read_exactly_or_overflow (text : String) :
    (∀ seconds, Duration.parseSeconds text = .ok seconds ↔
        ∃ n unit, Duration.Written (Duration.prepared text) n unit ∧ n * unit < wordLimit ∧
          seconds = n * unit) ∧
      (Duration.parseSeconds text = .error .overflow ↔
        ∃ n unit, Duration.Written (Duration.prepared text) n unit ∧ wordLimit ≤ n * unit) ∧
      ((∃ count cause, Duration.parseSeconds text = .error (.invalidNumber count cause)) ↔
        ¬∃ n unit, Duration.Written (Duration.prepared text) n unit) ∧
      ∀ s : Settings, (∃ fault, s.validate = .error fault ∧ fault.isOverflow = true) ↔
        s.sync.workers ≠ 0 ∧ s.cache.maxWorkers ≠ 0 ∧ s.http.maxBodySize ≠ 0 ∧
          (Duration.parseSeconds s.sync.interval = .error .overflow ∨
            (∃ seconds, Duration.parseSeconds s.sync.interval = .ok seconds) ∧
              Duration.parseSeconds s.http.timeout = .error .overflow) :=
  ⟨Duration.parseSeconds_eq_ok_iff text, Duration.parseSeconds_eq_overflow_iff text,
    Duration.parseSeconds_invalid_iff text, Settings.validate_overflow_iff⟩

/-- A count of days whose seconds pass `2 ^ 64 - 1` overflows rather than being refused. -/
theorem duration_of_too_many_days_overflows :
    Duration.parseSeconds "213503982334602d" = .error .overflow := by
  -- the characters are listed once by `simp`, so no check below reads the string itself
  have digits : "213503982334602".toList =
      ['2', '1', '3', '5', '0', '3', '9', '8', '2', '3', '3', '4', '6', '0', '2'] := by
    simp
  have chars : "213503982334602d".toList = "213503982334602".toList ++ ['d'] := by
    simp
  have prepared : Duration.prepared "213503982334602d" = "213503982334602".toList ++ ['d'] := by
    rw [Duration.prepared_of_ascii (by rw [chars, digits]; simp), chars, digits]
    decide
  have count : Duration.IsCount "213503982334602".toList 213503982334602 := by
    rw [digits]
    exact ⟨_, .inl rfl, by simp, List.all_eq_true.1 (by decide), by decide, by decide⟩
  refine (Duration.parseSeconds_eq_overflow_iff _).2 ⟨213503982334602, 86400, ?_, by decide⟩
  exact ⟨[], _, [], ['d'], by rw [prepared]; rfl, by simp, count, by simp [Duration.units]⟩

end ChartCatalog
