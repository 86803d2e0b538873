import ChartCatalog.Web.Url.Read
import Mathlib.Data.List.Basic
import Mathlib.Data.List.TakeWhile

/-!
# Relative paths read after their base

A relative reference that is a path is resolved against a base URL by putting it in place
of the base's last path segment. When the base is a special URL written with a separator at
its end, writing the reference after it says the same thing: the joined text reads as the
resolved URL (`Url.read_append_path`). When the base's text does not end in a separator,
adding one reads as the URL of its path's directory (`Url.read_append_slash`), and URLs of
one directory resolve a path alike (`Url.SameDirectory.readRelative_eq`).

Three facts of the reader carry this. The authority ends at the first separator, so what
follows it is never read as authority (`readAuthority_append`). Path segments are read one
separator at a time, so reading a text that ends in a separator and then more goes on
from the path the text reached (`readSegments_append`, `readSegments_dirOf`). And text
joined where neither part has a control or a space is prepared part by part
(`prepareInput_append`).
-/
set_option autoImplicit false

namespace ChartCatalog.Web

/-- A character that a path segment of a special URL may hold: no separator, `?` or `#`. -/
def SegmentChar (c : Char) : Prop := isSlash true c = false ∧ c ≠ '?' ∧ c ≠ '#'

theorem SegmentChar.keeps {c : Char} (plain : SegmentChar c) :
    (!(isSlash true c || c == '?' || c == '#')) = true := by
  obtain ⟨notSlash, notQuery, notFragment⟩ := plain
  simp [notSlash, notQuery, notFragment]

theorem SegmentChar.of_keeps {c : Char} (keeps : (!(isSlash true c || c == '?' || c == '#')) = true) :
    SegmentChar c := by
  simp only [Bool.not_eq_true', Bool.or_eq_false_iff, beq_eq_false_iff_ne] at keeps
  exact ⟨keeps.1.1, keeps.1.2, keeps.2⟩

/-- A text checked character by character holds only segment characters. -/
theorem segmentChars_of_all {l : List Char}
    (all : (l.all fun c => !(isSlash true c || c == '?' || c == '#')) = true) :
    ∀ x ∈ l, SegmentChar x :=
  fun x member => SegmentChar.of_keeps (List.all_eq_true.1 all x member)

/-! ## Path segments -/

section Segments

variable {isFile : Bool}

/-- A segment followed by a separator is pushed, and reading goes on after the separator. -/
theorem readSegments_sep {raw rest : List Char} {c : Char} (plain : ∀ x ∈ raw, SegmentChar x)
    (sep : isSlash true c = true) (n : Nat) (path : List String) :
    readSegments true isFile (n + 1) path (raw ++ c :: rest) =
      readSegments true isFile n (pushSegment isFile path raw true) rest := by
  have kept : ∀ x ∈ raw, (!(isSlash true x || x == '?' || x == '#')) = true :=
    fun x member => (plain x member).keeps
  have take : (raw ++ c :: rest).takeWhile (fun x => !(isSlash true x || x == '?' || x == '#')) =
      raw := by
    rw [List.takeWhile_append_of_pos kept]
    simp [sep]
  have drop : (raw ++ c :: rest).dropWhile (fun x => !(isSlash true x || x == '?' || x == '#')) =
      c :: rest := by
    rw [List.dropWhile_append_of_pos kept]
    simp [sep]
  rw [readSegments]
  dsimp only
  rw [take, drop]
  simp only [sep, if_true]

/-- The last segment is pushed with nothing after it. -/
theorem readSegments_last {raw : List Char} (plain : ∀ x ∈ raw, SegmentChar x) (n : Nat)
    (path : List String) :
    readSegments true isFile (n + 1) path raw = (pushSegment isFile path raw false, []) := by
  have kept : ∀ x ∈ raw, (!(isSlash true x || x == '?' || x == '#')) = true :=
    fun x member => (plain x member).keeps
  have take : raw.takeWhile (fun x => !(isSlash true x || x == '?' || x == '#')) = raw :=
    List.takeWhile_eq_self_iff.2 kept
  have drop : raw.dropWhile (fun x => !(isSlash true x || x == '?' || x == '#')) = [] :=
    List.dropWhile_eq_nil_iff.2 kept
  rw [readSegments]
  dsimp only
  rw [take, drop]
  simp only [Bool.false_eq_true, if_false]

/-- A segment that a query or a fragment follows is the last one. -/
theorem readSegments_stop {raw rest : List Char} {c : Char} (plain : ∀ x ∈ raw, SegmentChar x)
    (stop : c = '?' ∨ c = '#') (n : Nat) (path : List String) :
    readSegments true isFile (n + 1) path (raw ++ c :: rest) =
      (pushSegment isFile path raw false, c :: rest) := by
  have kept : ∀ x ∈ raw, (!(isSlash true x || x == '?' || x == '#')) = true :=
    fun x member => (plain x member).keeps
  have notSlash : isSlash true c = false := by rcases stop with rfl | rfl <;> rfl
  have take : (raw ++ c :: rest).takeWhile (fun x => !(isSlash true x || x == '?' || x == '#')) =
      raw := by
    rw [List.takeWhile_append_of_pos kept]
    rcases stop with rfl | rfl <;> simp
  have drop : (raw ++ c :: rest).dropWhile (fun x => !(isSlash true x || x == '?' || x == '#')) =
      c :: rest := by
    rw [List.dropWhile_append_of_pos kept]
    rcases stop with rfl | rfl <;> simp
  rw [readSegments]
  dsimp only
  rw [take, drop]
  simp only [notSlash, Bool.false_eq_true, if_false]

/-- A text is one segment, or a segment and then a character that ends it. -/
theorem segment_split (cs : List Char) :
    (∀ x ∈ cs, SegmentChar x) ∨
      ∃ raw c rest, (∀ x ∈ raw, SegmentChar x) ∧ ¬ SegmentChar c ∧ cs = raw ++ c :: rest := by
  induction cs with
  | nil => exact .inl (by simp)
  | cons c rest ih =>
    by_cases plain : SegmentChar c
    · rcases ih with whole | ⟨raw, d, more, rawPlain, ends, split⟩
      · exact .inl fun x member => (List.mem_cons.1 member).elim (· ▸ plain) (whole x)
      · refine .inr ⟨c :: raw, d, more, fun x member => ?_, ends, by rw [split, List.cons_append]⟩
        exact (List.mem_cons.1 member).elim (· ▸ plain) (rawPlain x)
    · exact .inr ⟨[], c, rest, by simp, plain, rfl⟩

/-- A character that ends a segment is a separator, `?` or `#`. -/
theorem ends_segment {c : Char} (ends : ¬ SegmentChar c) :
    isSlash true c = true ∨ c = '?' ∨ c = '#' := by
  unfold SegmentChar at ends
  cases slash : isSlash true c
  · by_cases query : c = '?'
    · exact .inr (.inl query)
    · exact .inr (.inr (Classical.byContradiction fun fragment => ends ⟨slash, query, fragment⟩))
  · exact .inl rfl

/-- Enough fuel reads a text to its end, so more fuel changes nothing. -/
theorem readSegments_fuel {n m : Nat} {cs : List Char} (hn : cs.length < n) (hm : cs.length < m)
    (path : List String) :
    readSegments true isFile n path cs = readSegments true isFile m path cs := by
  induction n generalizing m cs path with
  | zero => cases hn
  | succ n ih =>
    obtain ⟨m, rfl⟩ : ∃ k, m = k + 1 := ⟨m - 1, by omega⟩
    rcases segment_split cs with whole | ⟨raw, c, rest, plain, ends, rfl⟩
    · rw [readSegments_last whole, readSegments_last whole]
    · rcases ends_segment ends with sep | stop
      · -- a separator is consumed, so what is left is shorter
        rw [readSegments_sep plain sep, readSegments_sep plain sep]
        have shorter : rest.length < (raw ++ c :: rest).length := by
          simp only [List.length_append, List.length_cons]
          omega
        exact ih (by omega) (by omega) _
      · rw [readSegments_stop plain stop, readSegments_stop plain stop]

/-- An empty last segment adds an empty segment. -/
theorem pushSegment_nil_last (path : List String) : pushSegment isFile path [] false = path ++ [""] := by
  simp [pushSegment, isDoubleDot, isSingleDot, encodeChars]

/-- Reading a text that ends in a separator, and then more, goes on from the path the text
reached before the empty segment after its separator. -/
theorem readSegments_append {X Z : List Char} (plain : ∀ x ∈ X, x ≠ '?' ∧ x ≠ '#')
    (ends : ∀ c ∈ X.getLast?, isSlash true c = true) (path : List String) {n m : Nat}
    (hn : (X ++ Z).length < n) (hm : Z.length < m) :
    readSegments true isFile n path (X ++ Z) =
      readSegments true isFile m (readSegments true isFile (X.length + 1) path X).1.dropLast Z := by
  induction h : X.length using Nat.strong_induction_on generalizing X path n with
  | _ len ih =>
    obtain ⟨n, rfl⟩ : ∃ k, n = k + 1 := ⟨n - 1, by omega⟩
    rcases segment_split X with whole | ⟨raw, c, rest, rawPlain, cEnds, rfl⟩
    · -- a text without a separator that ends in one is empty
      cases X.eq_nil_or_concat with
      | inl empty =>
        subst empty
        rw [readSegments_last whole, pushSegment_nil_last, List.dropLast_concat]
        exact readSegments_fuel hn hm path
      | inr last =>
        obtain ⟨init, c, rfl⟩ := last
        have slash := ends c (by simp)
        exact absurd slash (by rw [(whole c (by simp)).1]; decide)
    · have sep : isSlash true c = true := by
        rcases ends_segment cEnds with sep | stop
        · exact sep
        · exact absurd (plain c (by simp)) (by rcases stop with rfl | rfl <;> simp)
      have restPlain : ∀ x ∈ rest, x ≠ '?' ∧ x ≠ '#' := fun x member => plain x (by simp [member])
      have restEnds : ∀ d ∈ rest.getLast?, isSlash true d = true := by
        intro d last
        have nonempty : rest ≠ [] := by rintro rfl; cases last
        apply ends d
        rw [show raw ++ c :: rest = (raw ++ [c]) ++ rest by simp,
          List.getLast?_append_of_ne_nil _ nonempty]
        exact last
      have lengths : (raw ++ c :: rest).length = raw.length + rest.length + 1 := by
        simp only [List.length_append, List.length_cons]
        omega
      have inner : readSegments true isFile len (pushSegment isFile path raw true) rest =
          readSegments true isFile (rest.length + 1) (pushSegment isFile path raw true) rest :=
        readSegments_fuel (by omega) (by omega) _
      rw [List.append_assoc, List.cons_append, readSegments_sep rawPlain sep,
        readSegments_sep rawPlain sep, inner]
      have fits : (rest ++ Z).length < n := by
        simp only [List.length_append, List.length_cons] at hn ⊢
        omega
      exact ih rest.length (by omega) restPlain restEnds _ fits rfl

/-- Percent-encoding leaves no character out, so only the empty text encodes to nothing. -/
theorem encodeChars_ne_nil (set : EncodeSet) {cs : List Char} (nonempty : cs ≠ []) :
    encodeChars set cs ≠ [] := by
  obtain ⟨c, rest, rfl⟩ := List.exists_cons_of_ne_nil nonempty
  have first : encodeChar set c ≠ [] := by
    unfold encodeChar
    split
    · obtain ⟨b, bytes, split⟩ := List.exists_cons_of_ne_nil (String.utf8EncodeChar_ne_nil (c := c))
      rw [split, List.flatMap_cons]
      simp [percentByte]
    · simp
  intro empty
  rw [encodeChars, List.flatMap_cons] at empty
  exact first (List.append_eq_nil_iff.1 empty).1

/-- Outside `file` URLs a segment other than `.` and `..` is added encoded. -/
theorem pushSegment_plain {raw : List Char} (notDouble : isDoubleDot raw = false)
    (notSingle : isSingleDot raw = false) (path : List String) (slash : Bool) :
    pushSegment false path raw slash = path ++ [String.ofList (encodeChars .path raw)] := by
  unfold pushSegment
  rw [if_neg (by simp [notDouble]), if_neg (by simp [notSingle])]
  split <;> simp

/-- Outside `file` URLs shortening a path drops its last segment. -/
theorem shortenPath_false (path : List String) : shortenPath false path = path.dropLast := by
  unfold shortenPath
  split <;> simp

/-- The directory a path names: the path itself when it ends in an empty segment, else the
path with that segment added, in both cases without its last segment. -/
def dirOf (path : List String) : List String :=
  (if path.getLast? == some "" then path else path ++ [""]).dropLast

/-- A last segment without a separator after it names the directory that the same segment
with a separator reaches, unless it is empty. -/
theorem dirOf_pushSegment {raw : List Char} (nonempty : raw ≠ []) (path : List String) :
    dirOf (pushSegment false path raw false) = pushSegment false path raw true := by
  unfold dirOf
  cases double : isDoubleDot raw
  · cases single : isSingleDot raw
    · -- an ordinary segment is encoded to a segment that is not empty
      rw [pushSegment_plain double single, pushSegment_plain double single]
      have encoded : String.ofList (encodeChars .path raw) ≠ "" := by
        intro empty
        exact encodeChars_ne_nil .path nonempty (String.ofList_eq_empty_iff.1 empty)
      simp [encoded]
    · simp [pushSegment, double, single]
  · simp [pushSegment, double]

/-- Reading a text that does not end in a separator, and then a separator, reaches the
directory of the text's own path. -/
theorem readSegments_dirOf {X : List Char} (plain : ∀ x ∈ X, x ≠ '?' ∧ x ≠ '#')
    (ends : ∀ c ∈ X.getLast?, isSlash true c = false) (nonempty : X ≠ []) (path : List String)
    {n m : Nat} (hn : X.length + 1 < n) (hm : X.length < m) :
    (readSegments true false n path (X ++ ['/'])).1.dropLast =
      dirOf (readSegments true false m path X).1 := by
  induction h : X.length using Nat.strong_induction_on generalizing X path n m with
  | _ len ih =>
    obtain ⟨n, rfl⟩ : ∃ k, n = k + 1 := ⟨n - 1, by omega⟩
    obtain ⟨m, rfl⟩ : ∃ k, m = k + 1 := ⟨m - 1, by omega⟩
    rcases segment_split X with whole | ⟨raw, c, rest, rawPlain, cEnds, rfl⟩
    · -- one segment: it is pushed with the separator on the left, alone on the right
      obtain ⟨n, rfl⟩ : ∃ k, n = k + 1 := ⟨n - 1, by omega⟩
      rw [readSegments_sep whole rfl, readSegments_last (by simp), pushSegment_nil_last,
        List.dropLast_concat, readSegments_last whole, dirOf_pushSegment nonempty]
    · have sep : isSlash true c = true := by
        rcases ends_segment cEnds with sep | stop
        · exact sep
        · exact absurd (plain c (by simp)) (by rcases stop with rfl | rfl <;> simp)
      have restNonempty : rest ≠ [] := by
        rintro rfl
        have last := ends c (by simp)
        rw [sep] at last
        cases last
      have restPlain : ∀ x ∈ rest, x ≠ '?' ∧ x ≠ '#' := fun x member => plain x (by simp [member])
      have restEnds : ∀ d ∈ rest.getLast?, isSlash true d = false := by
        intro d last
        apply ends d
        rw [show raw ++ c :: rest = (raw ++ [c]) ++ rest by simp,
          List.getLast?_append_of_ne_nil _ restNonempty]
        exact last
      have lengths : (raw ++ c :: rest).length = raw.length + rest.length + 1 := by
        simp only [List.length_append, List.length_cons]
        omega
      rw [List.append_assoc, List.cons_append, readSegments_sep rawPlain sep,
        readSegments_sep rawPlain sep]
      exact ih rest.length (by omega) restPlain restEnds restNonempty _
        (by simp only [List.length_append, List.length_cons] at h ⊢; omega) (by omega) rfl

end Segments

/-! ## The authority -/

/-- A character at which the authority of a special URL ends. -/
def AuthorityEnd (c : Char) : Prop := c = '/' ∨ c = '\\' ∨ c = '?' ∨ c = '#'

/-- Text after an authority's own text cannot be read into it: that text holds an end of the
authority, or what follows is empty or starts at one. -/
def Closes (cs Z : List Char) : Prop := (∃ c ∈ cs, AuthorityEnd c) ∨ ∀ c ∈ Z.head?, AuthorityEnd c

/-- An authority end is no colon, so no port starts there. -/
theorem AuthorityEnd.ne_colon {c : Char} (ends : AuthorityEnd c) : c ≠ ':' := by
  rcases ends with rfl | rfl | rfl | rfl <;> decide

/-- A prefix read while a predicate holds is read from the first text alone when the
predicate fails in that text or at the start of what follows. -/
theorem takeWhile_append_of_stop {p : Char → Bool} {cs Z : List Char}
    (stops : (∃ c ∈ cs, p c = false) ∨ ∀ c ∈ Z.head?, p c = false) :
    (cs ++ Z).takeWhile p = cs.takeWhile p := by
  rw [List.takeWhile_append]
  split
  · rename_i whole
    have taken : cs.takeWhile p = cs := (List.takeWhile_prefix p).eq_of_length whole
    rcases stops with ⟨c, member, fails⟩ | atStart
    · have holds := List.takeWhile_eq_self_iff.1 taken c member
      rw [fails] at holds
      cases holds
    · rw [taken]
      cases Z with
      | nil => simp
      | cons d more => simp [atStart d rfl]
  · rfl

/-- Closing text stops the scan of an authority's region, whatever the scan looks for. -/
theorem Closes.stops {cs Z : List Char} (closes : Closes cs Z) :
    (∃ c ∈ cs, (!(c == '/' || c == '?' || c == '#' || true && c == '\\')) = false) ∨
      ∀ c ∈ Z.head?, (!(c == '/' || c == '?' || c == '#' || true && c == '\\')) = false := by
  rcases closes with ⟨c, member, ends⟩ | atStart
  · exact .inl ⟨c, member, by rcases ends with rfl | rfl | rfl | rfl <;> rfl⟩
  · exact .inr fun c first => by rcases atStart c first with rfl | rfl | rfl | rfl <;> rfl

/-- Credentials are read from the authority's own text when more than the host follows them. -/
theorem readCredentials_append {cs Z rest : List Char} {creds : Credentials}
    (read : readCredentials true cs = .ok (creds, rest)) (closes : Closes cs Z) (more : rest ≠ []) :
    readCredentials true (cs ++ Z) = .ok (creds, rest ++ Z) := by
  unfold readCredentials at read ⊢
  dsimp only at read ⊢
  rw [takeWhile_append_of_stop (Closes.stops closes)]
  have bound := (List.takeWhile_prefix (l := cs)
    (fun c => !(c == '/' || c == '?' || c == '#' || true && c == '\\'))).length_le
  generalize List.takeWhile (fun c => !(c == '/' || c == '?' || c == '#' || true && c == '\\')) cs =
    region at read bound ⊢
  by_cases noAt : (!region.contains '@') = true
  · rw [if_pos noAt] at read ⊢
    cases read
    rfl
  · rw [if_neg noAt] at read ⊢
    have hasAt : region ≠ [] := by
      rintro rfl
      exact noAt rfl
    have nonzero : 0 < region.length := List.length_pos_iff.2 hasAt
    rw [List.drop_append_of_le_length (by omega)]
    split at read
    · rename_i emptyUser
      rw [if_pos emptyUser]
      cases after : List.drop (region.length - 1 - List.idxOf '@' region.reverse + 1) cs with
      | nil =>
        rw [after] at read
        cases read
        exact absurd rfl more
      | cons c tail =>
        rw [after] at read
        rw [List.cons_append]
        dsimp only at read ⊢
        by_cases endsHere : (c == '/' || c == '?' || c == '#' || true && c == '\\') = true
        · rw [if_pos endsHere] at read
          cases read
        · rw [if_neg endsHere] at read ⊢
          cases read
          rfl
    · rename_i namedUser
      rw [if_neg namedUser]
      cases read
      rfl

theorem Closes.of_append {pre rest Z : List Char} (closes : Closes (pre ++ rest) Z)
    (clean : ∀ c ∈ pre, ¬ AuthorityEnd c) : Closes rest Z := by
  rcases closes with ⟨c, member, ends⟩ | atStart
  · rcases List.mem_append.1 member with inPre | inRest
    · exact absurd ends (clean c inPre)
    · exact .inl ⟨c, inRest, ends⟩
  · exact .inr atStart

theorem Closes.head_ne_colon {cs Z : List Char} (closes : Closes cs Z) (empty : cs = []) :
    ∀ c ∈ Z.head?, c ≠ ':' := by
  subst empty
  rcases closes with ⟨c, member, _⟩ | atStart
  · cases member
  · exact fun c first => (atStart c first).ne_colon

/-- The host text ends at the authority's end at the latest. -/
theorem splitHost_append {inside : Bool} {cs Z : List Char} (closes : Closes cs Z) :
    splitHost true inside (cs ++ Z) =
      ((splitHost true inside cs).1, (splitHost true inside cs).2 ++ Z) := by
  induction cs generalizing inside with
  | nil =>
    rcases closes with ⟨c, member, _⟩ | atStart
    · cases member
    · cases Z with
      | nil => rfl
      | cons e more =>
        rcases atStart e rfl with rfl | rfl | rfl | rfl <;> simp [splitHost]
  | cons c rest ih =>
    by_cases stop : ((c == ':' && !inside) || c == '/' || c == '?' || c == '#' || (true && c == '\\')) = true
    · rw [List.cons_append, splitHost, splitHost, if_pos stop, if_pos stop]
      rfl
    · have notEnd : ¬ AuthorityEnd c := by
        rintro (rfl | rfl | rfl | rfl) <;> simp at stop
      rw [List.cons_append, splitHost, splitHost, if_neg stop, if_neg stop]
      dsimp only
      have closesRest : Closes rest Z :=
        Closes.of_append (show Closes ([c] ++ rest) Z from closes) (by simpa using notEnd)
      rw [ih closesRest]

/-- The host text holds no end of the authority. -/
theorem splitHost_suffix (inside : Bool) (cs : List Char) :
    ∃ pre, cs = pre ++ (splitHost true inside cs).2 ∧ ∀ c ∈ pre, ¬ AuthorityEnd c := by
  induction cs generalizing inside with
  | nil => exact ⟨[], rfl, by simp⟩
  | cons c rest ih =>
    by_cases stop : ((c == ':' && !inside) || c == '/' || c == '?' || c == '#' || (true && c == '\\')) = true
    · rw [splitHost, if_pos stop]
      exact ⟨[], rfl, by simp⟩
    · have notEnd : ¬ AuthorityEnd c := by
        rintro (rfl | rfl | rfl | rfl) <;> simp at stop
      obtain ⟨pre, split, clean⟩ := ih (if c == '[' then true else if c == ']' then false else inside)
      rw [splitHost, if_neg stop]
      dsimp only
      refine ⟨c :: pre, by rw [List.cons_append, ← split], ?_⟩
      intro d member
      rcases List.mem_cons.1 member with rfl | inPre
      · exact notEnd
      · exact clean d inPre

/-- A port is read from the authority's own text: its digits stop at the authority's end. -/
theorem readPort_append {scheme : String} {cs Z rest : List Char} {port : Option Nat}
    (read : readPort scheme cs = .ok (port, rest)) (closes : Closes cs Z) :
    readPort scheme (cs ++ Z) = .ok (port, rest ++ Z) := by
  have stops : (∃ c ∈ cs, c.isDigit = false) ∨ ∀ c ∈ Z.head?, c.isDigit = false := by
    rcases closes with ⟨c, member, ends⟩ | atStart
    · exact .inl ⟨c, member, by rcases ends with rfl | rfl | rfl | rfl <;> rfl⟩
    · exact .inr fun c first => by rcases atStart c first with rfl | rfl | rfl | rfl <;> rfl
  have bound := (List.takeWhile_prefix (l := cs) Char.isDigit).length_le
  unfold readPort at read ⊢
  dsimp only at read ⊢
  rw [takeWhile_append_of_stop stops, List.drop_append_of_le_length bound]
  cases after : cs.drop (cs.takeWhile Char.isDigit).length with
  | cons c tail =>
    rw [after] at read
    rw [List.cons_append]
    split_ifs at read ⊢ <;> cases read <;> rfl
  | nil =>
    rw [after] at read
    rw [List.nil_append]
    -- the digits run to the end, so what follows starts at an end of the authority
    have allDigits : cs.takeWhile Char.isDigit = cs :=
      (List.takeWhile_prefix Char.isDigit).eq_of_length
        (by have := List.drop_eq_nil_iff.1 after; omega)
    have atStart : ∀ c ∈ Z.head?, AuthorityEnd c := by
      rcases closes with ⟨c, member, ends⟩ | atStart
      · have digit := List.takeWhile_eq_self_iff.1 allDigits c member
        rcases ends with rfl | rfl | rfl | rfl <;> cases digit
      · exact atStart
    cases Z with
    | nil => rw [List.append_nil]; exact read
    | cons e more =>
      have endsWell : (e == '/' || e == '\\' || e == '?' || e == '#') = true := by
        rcases atStart e rfl with rfl | rfl | rfl | rfl <;> rfl
      simp only [endsWell] at read ⊢
      split_ifs at read ⊢ <;> cases read <;> rfl

theorem readPortAfter_colon (scheme : String) (more : List Char) :
    readPortAfter scheme (':' :: more) = readPort scheme more := rfl

/-- Without a colon there is no port, and nothing is read. -/
theorem readPortAfter_of_head {scheme : String} {cs : List Char} (noColon : ∀ c ∈ cs.head?, c ≠ ':') :
    readPortAfter scheme cs = pure (none, cs) := by
  unfold readPortAfter
  split
  · exact absurd rfl (noColon ':' rfl)
  · rfl

theorem readPortAfter_append {scheme : String} {cs Z rest : List Char} {port : Option Nat}
    (read : readPortAfter scheme cs = .ok (port, rest)) (closes : Closes cs Z) :
    readPortAfter scheme (cs ++ Z) = .ok (port, rest ++ Z) := by
  by_cases colon : cs.head? = some ':'
  · obtain ⟨more, rfl⟩ : ∃ more, cs = ':' :: more := by
      cases cs with
      | nil => cases colon
      | cons c more => exact ⟨more, by cases colon; rfl⟩
    rw [List.cons_append, readPortAfter_colon] at *
    have closesMore : Closes more Z :=
      Closes.of_append (show Closes ([':'] ++ more) Z from closes) (by simp [AuthorityEnd])
    exact readPort_append read closesMore
  · have noColon : ∀ c ∈ cs.head?, c ≠ ':' := fun c first same => colon (same ▸ first)
    rw [readPortAfter_of_head noColon] at read
    cases read
    have noColonAfter : ∀ c ∈ (cs ++ Z).head?, c ≠ ':' := by
      cases cs with
      | nil => exact Closes.head_ne_colon closes rfl
      | cons c more => exact noColon
    rw [readPortAfter_of_head noColonAfter]
    rfl

/-- The credentials read hold no end of the authority. -/
theorem readCredentials_suffix {cs rest : List Char} {creds : Credentials}
    (read : readCredentials true cs = .ok (creds, rest)) :
    ∃ pre, cs = pre ++ rest ∧ ∀ c ∈ pre, ¬ AuthorityEnd c := by
  unfold readCredentials at read
  dsimp only at read
  have isPrefix := List.takeWhile_prefix (l := cs)
    (fun c => !(c == '/' || c == '?' || c == '#' || true && c == '\\'))
  have kept : ∀ x ∈ List.takeWhile (fun c => !(c == '/' || c == '?' || c == '#' || true && c == '\\')) cs,
      ¬ AuthorityEnd x := by
    intro x member ends
    have holds := List.mem_takeWhile_imp member
    rcases ends with rfl | rfl | rfl | rfl <;> cases holds
  generalize List.takeWhile (fun c => !(c == '/' || c == '?' || c == '#' || true && c == '\\')) cs =
    region at read isPrefix kept
  by_cases noAt : (!region.contains '@') = true
  · rw [if_pos noAt] at read
    cases read
    exact ⟨[], rfl, by simp⟩
  · rw [if_neg noAt] at read
    -- every way through keeps the text after the last `@` of the region
    have after : rest = cs.drop (region.length - 1 - List.idxOf '@' region.reverse + 1) := by
      split at read
      · split at read
        · split at read
          · cases read
          · cases read; rfl
        · cases read; rfl
      · cases read; rfl
    refine ⟨cs.take (region.length - 1 - List.idxOf '@' region.reverse + 1), by rw [after, List.take_append_drop], ?_⟩
    have within : region.length - 1 - List.idxOf '@' region.reverse + 1 ≤ region.length := by
      have nonempty : region ≠ [] := by rintro rfl; exact noAt rfl
      have := List.length_pos_iff.2 nonempty
      omega
    intro c member
    apply kept c
    obtain ⟨more, rfl⟩ := isPrefix
    rw [List.take_append_of_le_length within] at member
    exact List.mem_of_mem_take member

/-- Host and port are read from the authority's own text. -/
theorem readHostAndPort_append {scheme : String} {creds : Credentials} {cs Z rest : List Char}
    {auth : Authority} (special : isSpecialScheme scheme = true)
    (read : readHostAndPort scheme creds cs = .ok (auth, rest)) (closes : Closes cs Z) :
    readHostAndPort scheme creds (cs ++ Z) = .ok (auth, rest ++ Z) := by
  obtain ⟨pre, split, clean⟩ := splitHost_suffix false cs
  have closesAfter : Closes (splitHost true false cs).2 Z := Closes.of_append (split ▸ closes) clean
  unfold readHostAndPort at read ⊢
  rw [special] at read ⊢
  rw [splitHost_append closes]
  generalize splitHost true false cs = parts at read closesAfter ⊢
  obtain ⟨hostText, after⟩ := parts
  dsimp only at read ⊢
  cases host : readHostText true hostText with
  | error e => rw [host] at read; cases read
  | ok h =>
    rw [host] at read
    dsimp only at closesAfter
    dsimp only [bind, Except.bind] at read ⊢
    have sameHead : ((after ++ Z).head? == some ':') = (after.head? == some ':') := by
      cases after with
      | cons c more => rfl
      | nil =>
        have noColon := Closes.head_ne_colon closesAfter rfl
        cases Z with
        | nil => rfl
        | cons e more => simp [noColon e rfl]
    rw [sameHead]
    split at read
    · cases read
    · rename_i fine
      rw [if_neg fine]
      cases port : readPortAfter scheme after with
      | error e => rw [port] at read; cases read
      | ok result =>
        rw [port] at read
        cases read
        rw [readPortAfter_append port closesAfter]
        rfl

/-- A special URL's host is never empty. -/
theorem readHostAndPort_nil (scheme : String) (creds : Credentials)
    (special : isSpecialScheme scheme = true) :
    readHostAndPort scheme creds [] = .error .emptyHost := by
  unfold readHostAndPort
  rw [special]
  rfl

/-- An authority is read from its own text: text after it that it closes is left unread. -/
theorem readAuthority_append {scheme : String} {A Z rest : List Char} {auth : Authority}
    (special : isSpecialScheme scheme = true)
    (read : readAuthority scheme A = .ok (auth, rest)) (closes : Closes A Z) :
    readAuthority scheme (A ++ Z) = .ok (auth, rest ++ Z) := by
  unfold readAuthority at read ⊢
  rw [special] at read ⊢
  cases creds : readCredentials true A with
  | error e => rw [creds] at read; cases read
  | ok result =>
    obtain ⟨creds', after⟩ := result
    rw [creds] at read
    dsimp only [bind, Except.bind] at read
    -- the host cannot be empty, so something follows the credentials
    have more : after ≠ [] := by
      rintro rfl
      rw [readHostAndPort_nil scheme creds' special] at read
      cases read
    obtain ⟨pre, split, clean⟩ := readCredentials_suffix creds
    rw [readCredentials_append creds closes more]
    dsimp only [bind, Except.bind]
    exact readHostAndPort_append special read (Closes.of_append (split ▸ closes) clean)

/-- What a prefix scan leaves is the rest of the text after the prefix. -/
theorem takeWhile_append_drop (p : Char → Bool) (cs : List Char) :
    cs.takeWhile p ++ cs.drop (cs.takeWhile p).length = cs := by
  obtain ⟨more, split⟩ := List.takeWhile_prefix p (l := cs)
  generalize cs.takeWhile p = taken at split ⊢
  subst split
  rw [List.drop_left]

/-- A port's digits hold no end of the authority. -/
theorem readPort_suffix {scheme : String} {cs rest : List Char} {port : Option Nat}
    (read : readPort scheme cs = .ok (port, rest)) :
    ∃ pre, cs = pre ++ rest ∧ ∀ c ∈ pre, ¬ AuthorityEnd c := by
  have after : rest = cs.drop (cs.takeWhile Char.isDigit).length := by
    unfold readPort at read
    dsimp only at read
    split_ifs at read <;> cases read <;> rfl
  refine ⟨cs.takeWhile Char.isDigit, by rw [after, takeWhile_append_drop], fun c member ends => ?_⟩
  have digit := List.mem_takeWhile_imp member
  rcases ends with rfl | rfl | rfl | rfl <;> cases digit

/-- A colon and a port's digits hold no end of the authority. -/
theorem readPortAfter_suffix {scheme : String} {cs rest : List Char} {port : Option Nat}
    (read : readPortAfter scheme cs = .ok (port, rest)) :
    ∃ pre, cs = pre ++ rest ∧ ∀ c ∈ pre, ¬ AuthorityEnd c := by
  unfold readPortAfter at read
  split at read
  · obtain ⟨pre, split, clean⟩ := readPort_suffix read
    refine ⟨':' :: pre, by rw [split]; rfl, fun c member => ?_⟩
    rcases List.mem_cons.1 member with rfl | inPre
    · exact fun ends => ends.ne_colon rfl
    · exact clean c inPre
  · cases read
    exact ⟨[], rfl, by simp⟩

/-- Host and port hold no end of the authority. -/
theorem readHostAndPort_suffix {scheme : String} {creds : Credentials} {cs rest : List Char}
    {auth : Authority} (special : isSpecialScheme scheme = true)
    (read : readHostAndPort scheme creds cs = .ok (auth, rest)) :
    ∃ pre, cs = pre ++ rest ∧ ∀ c ∈ pre, ¬ AuthorityEnd c := by
  obtain ⟨pre, split, clean⟩ := splitHost_suffix false cs
  unfold readHostAndPort at read
  rw [special] at read
  generalize splitHost true false cs = parts at read split
  obtain ⟨hostText, after⟩ := parts
  dsimp only at read split
  cases host : readHostText true hostText with
  | error e => rw [host] at read; cases read
  | ok h =>
    rw [host] at read
    dsimp only [bind, Except.bind] at read
    split at read
    · cases read
    · cases port : readPortAfter scheme after with
      | error e => rw [port] at read; cases read
      | ok result =>
        rw [port] at read
        cases read
        obtain ⟨pre', split', clean'⟩ := readPortAfter_suffix port
        exact ⟨pre ++ pre', by rw [split, split', List.append_assoc],
          List.forall_mem_append.2 ⟨clean, clean'⟩⟩

/-- An authority holds no end of itself: it ends where the text left starts. -/
theorem readAuthority_suffix {scheme : String} {cs rest : List Char} {auth : Authority}
    (special : isSpecialScheme scheme = true) (read : readAuthority scheme cs = .ok (auth, rest)) :
    ∃ pre, cs = pre ++ rest ∧ ∀ c ∈ pre, ¬ AuthorityEnd c := by
  unfold readAuthority at read
  rw [special] at read
  cases creds : readCredentials true cs with
  | error e => rw [creds] at read; cases read
  | ok result =>
    rw [creds] at read
    dsimp only [bind, Except.bind] at read
    obtain ⟨pre, split, clean⟩ := readCredentials_suffix creds
    obtain ⟨pre', split', clean'⟩ := readHostAndPort_suffix special read
    exact ⟨pre ++ pre', by rw [split, split', List.append_assoc],
      List.forall_mem_append.2 ⟨clean, clean'⟩⟩

/-- A special URL has an authority, so its text cannot stop before one. -/
theorem readAuthority_nil (scheme : String) (special : isSpecialScheme scheme = true) :
    readAuthority scheme [] = .error .emptyHost := by
  unfold readAuthority
  rw [special]
  exact readHostAndPort_nil scheme ⟨"", "", false⟩ special

/-! ## The scheme -/

/-- A scheme ends at its colon, so text after it is left unread. -/
theorem readScheme?_append {cs Z rest : List Char} {scheme : String}
    (read : readScheme? cs = some (scheme, rest)) : readScheme? (cs ++ Z) = some (scheme, rest ++ Z) := by
  cases cs with
  | nil => cases read
  | cons c t =>
    unfold readScheme? at read ⊢
    rw [List.cons_append]
    dsimp only at read ⊢
    by_cases alpha : c.isAlpha = true
    · rw [if_pos alpha] at read ⊢
      rw [← List.cons_append]
      split at read
      · rename_i rest' colon
        cases read
        -- the colon ends the scheme's name inside the first text
        have stops : ∃ x ∈ c :: t, (x.isAlphanum || x == '+' || x == '-' || x == '.') = false :=
          ⟨':', List.mem_of_mem_drop (colon ▸ List.mem_cons_self), by decide⟩
        have bound := (List.takeWhile_prefix (l := c :: t)
          fun x => x.isAlphanum || x == '+' || x == '-' || x == '.').length_le
        rw [takeWhile_append_of_stop (.inl stops), List.drop_append_of_le_length bound, colon]
        rfl
      · cases read
    · rw [if_neg alpha] at read
      cases read

/-- The text after a scheme is the end of the text. -/
theorem readScheme?_suffix {cs rest : List Char} {scheme : String}
    (read : readScheme? cs = some (scheme, rest)) : ∃ front, cs = front ++ rest := by
  cases cs with
  | nil => cases read
  | cons c t =>
    unfold readScheme? at read
    dsimp only at read
    split_ifs at read
    split at read
    · rename_i rest' colon
      cases read
      refine ⟨(c :: t).take ((c :: t).takeWhile
        fun x => x.isAlphanum || x == '+' || x == '-' || x == '.').length ++ [':'], ?_⟩
      rw [List.append_assoc, List.singleton_append, ← colon, List.take_append_drop]
    · cases read

/-! ## Preparing joined texts -/

/-- Dropping a prefix from a joined text drops it from both parts when the second starts
where the prefix ends. -/
theorem dropWhile_append_of_head {p : Char → Bool} {ys zs : List Char}
    (stops : ∀ c ∈ zs.head?, p c = false) :
    (ys ++ zs).dropWhile p = ys.dropWhile p ++ zs.dropWhile p := by
  have kept : zs.dropWhile p = zs := by
    cases zs with
    | nil => rfl
    | cons z more => exact List.dropWhile_cons_of_neg (by simp [stops z rfl])
  rw [List.dropWhile_append, kept]
  split
  · rename_i empty
    rw [List.isEmpty_iff.1 empty, List.nil_append]
  · rfl

/-- The last character of a text is the last of every nonempty end of it. -/
theorem getLast?_of_suffix {l₁ l₂ : List Char} (suffix : l₁ <:+ l₂) {c : Char}
    (last : c ∈ l₁.getLast?) : c ∈ l₂.getLast? := by
  obtain ⟨t, rfl⟩ := suffix
  rw [Option.mem_def] at last ⊢
  rw [List.getLast?_append, last]
  rfl

/-- Preparing keeps no character that the text did not have. -/
theorem mem_of_mem_prepareInput {s : String} {c : Char} (member : c ∈ prepareInput s) :
    c ∈ s.toList := by
  unfold prepareInput at member
  dsimp only at member
  have kept := (List.mem_filter.1 member).1
  rw [List.mem_reverse] at kept
  have front := (List.dropWhile_suffix _).subset kept
  rw [List.mem_reverse] at front
  exact (List.dropWhile_suffix _).subset front

/-- Preparing removes no character above the controls and the space. -/
theorem visible_kept {c : Char} (visible : 0x20 < c.toNat) :
    (c != '\t' && c != '\n' && c != '\r') = true := by
  simp only [Bool.and_eq_true, bne_iff_ne, ne_eq]
  refine ⟨⟨?_, ?_⟩, ?_⟩ <;> rintro rfl <;> exact absurd visible (by decide)

/-- Joining two texts at a point where neither has a control or a space prepares each part
on its own. -/
theorem prepareInput_append {a b : String} (aEnds : ∀ c ∈ a.toList.getLast?, 0x20 < c.toNat)
    (bStarts : ∀ c ∈ b.toList.head?, 0x20 < c.toNat) :
    prepareInput (a ++ b) = prepareInput a ++ prepareInput b := by
  unfold prepareInput
  dsimp only
  rw [String.toList_append, ← List.filter_append]
  congr 1
  generalize a.toList = x at aEnds
  generalize b.toList = y at bStarts
  have front : (x ++ y).dropWhile (fun c => decide (c.toNat ≤ 0x20)) =
      x.dropWhile (fun c => decide (c.toNat ≤ 0x20)) ++ y.dropWhile (fun c => decide (c.toNat ≤ 0x20)) :=
    dropWhile_append_of_head fun c first => by simpa using bStarts c first
  -- what is left of the first part still ends in its last character
  have back : ∀ c ∈ (x.dropWhile fun c => decide (c.toNat ≤ 0x20)).reverse.head?,
      decide (c.toNat ≤ 0x20) = false := by
    intro c first
    rw [List.head?_reverse] at first
    simpa using aEnds c (getLast?_of_suffix (List.dropWhile_suffix _) first)
  rw [front, List.reverse_append, dropWhile_append_of_head back, List.reverse_append]

/-- A text that starts with a character other than a control or a space is prepared to a text
that starts with it. -/
theorem prepareInput_head {s : String} {c : Char} (first : s.toList.head? = some c)
    (visible : 0x20 < c.toNat) : ∃ tail, prepareInput s = c :: tail := by
  obtain ⟨t, split⟩ := List.head?_eq_some_iff.1 first
  unfold prepareInput
  dsimp only
  have keepsFirst : decide (c.toNat ≤ 0x20) = false := by simpa using visible
  rw [split, List.dropWhile_cons_of_neg (by simp [keepsFirst]), List.reverse_cons,
    dropWhile_append_of_head (by simpa using keepsFirst), List.dropWhile_cons_of_neg (by simp [keepsFirst]),
    List.reverse_append, List.reverse_singleton, List.singleton_append]
  simp only [List.filter_cons, visible_kept visible, if_true]
  exact ⟨_, rfl⟩

/-- A text that ends with a character other than a control or a space is prepared to a text
that ends with it. -/
theorem prepareInput_getLast? {s : String} {c : Char} (last : s.toList.getLast? = some c)
    (visible : 0x20 < c.toNat) : (prepareInput s).getLast? = some c := by
  obtain ⟨t, split⟩ := List.getLast?_eq_some_iff.1 last
  unfold prepareInput
  dsimp only
  have keepsLast : decide (c.toNat ≤ 0x20) = false := by simpa using visible
  rw [split, dropWhile_append_of_head (by simpa using keepsLast),
    List.dropWhile_cons_of_neg (by simp [keepsLast]), List.reverse_append,
    List.reverse_singleton, List.singleton_append, List.dropWhile_cons_of_neg (by simp [keepsLast]),
    List.reverse_cons, List.reverse_reverse, List.filter_append, List.getLast?_append]
  simp only [List.filter_singleton, visible_kept visible]
  rfl

/-! ## Whole URLs -/

/-- Every URL read after the `file` scheme is a `file` URL. -/
theorem readFile_scheme {cs : List Char} {url : Url} (read : readFile cs = .ok url) :
    url.scheme = "file" := by
  unfold readFile at read
  dsimp only [bind, Except.bind, pure, Except.pure] at read
  -- every way through either fails or builds a `file` URL
  repeat' split at read
  all_goals cases read
  all_goals rfl

/-- A URL read without a base has the scheme written at its front. -/
theorem Url.read_none_scheme {cs : List Char} {url : Url} (read : Url.read cs none = .ok url) :
    ∃ rest, readScheme? cs = some (url.scheme, rest) := by
  unfold Url.read at read
  split at read
  · rename_i scheme rest found
    have same : url.scheme = scheme := by
      split at read
      · rename_i isFile
        exact (readFile_scheme read).trans (beq_iff_eq.1 isFile).symm
      · -- every other way through builds the URL with the scheme read
        dsimp only [Except.map] at read
        repeat' split at read
        all_goals cases read
        all_goals rfl
    exact ⟨rest, by rw [found, same]⟩
  · cases read

/-- Without a base, a special scheme other than `file` is followed by slashes, an authority
and the rest of the URL. -/
theorem Url.read_special {cs rest : List Char} {scheme : String}
    (found : readScheme? cs = some (scheme, rest)) (notFile : scheme ≠ "file")
    (special : isSpecialScheme scheme = true) :
    Url.read cs none = (readAuthority scheme (rest.drop (rest.takeWhile (isSlash true)).length)).map
      fun read => finishHierarchical scheme (some read.1) read.2 := by
  unfold Url.read
  rw [found]
  dsimp only
  rw [if_neg (by simpa using notFile), if_pos special]

/-- How a special URL other than a `file` URL is read: its authority leaves a text `after`,
which ends the URL's own text, and the authority's text before it holds no end of the
authority. More text that the authority closes is read after `after`. -/
theorem Url.read_special_split {S : List Char} {url : Url} (read : Url.read S none = .ok url)
    (special : isSpecialScheme url.scheme = true) (notFile : url.scheme ≠ "file") :
    ∃ auth after, url = finishHierarchical url.scheme (some auth) after ∧
      (∃ front mid, S = front ++ (mid ++ after) ∧ mid ++ after ≠ [] ∧ ∀ c ∈ mid, ¬ AuthorityEnd c) ∧
      ∀ Z, Closes after Z →
        Url.read (S ++ Z) none = .ok (finishHierarchical url.scheme (some auth) (after ++ Z)) := by
  obtain ⟨rest, found⟩ := Url.read_none_scheme read
  rw [Url.read_special found notFile special] at read
  have bound := (List.takeWhile_prefix (l := rest) (isSlash true)).length_le
  generalize slashes : (rest.takeWhile (isSlash true)).length = k at read bound
  cases authority : readAuthority url.scheme (rest.drop k) with
  | error e => rw [authority] at read; cases read
  | ok result =>
    obtain ⟨auth, after⟩ := result
    rw [authority] at read
    injection read with built
    have nonempty : rest.drop k ≠ [] := by
      intro empty
      rw [empty, readAuthority_nil _ special] at authority
      cases authority
    obtain ⟨mid, split, clean⟩ := readAuthority_suffix special authority
    obtain ⟨front, splitS⟩ := readScheme?_suffix found
    refine ⟨auth, after, built.symm, ⟨front ++ rest.take k, mid, ?_, split ▸ nonempty, clean⟩,
      fun Z closes => ?_⟩
    · rw [← split, List.append_assoc, List.take_append_drop, splitS]
    · have closesAll : Closes (rest.drop k) Z := by
        rw [split]
        rcases closes with ⟨c, member, ends⟩ | atStart
        · exact .inl ⟨c, List.mem_append_right _ member, ends⟩
        · exact .inr atStart
      -- the authority is not empty, so the slashes before it end inside `rest`
      have stops : ∃ c ∈ rest, isSlash true c = false := by
        refine Classical.byContradiction fun allSlash => nonempty ?_
        have whole : rest.takeWhile (isSlash true) = rest := List.takeWhile_eq_self_iff.2
          fun c member => Bool.not_eq_false _ ▸ fun slash => allSlash ⟨c, member, slash⟩
        rw [← slashes, whole, List.drop_length]
      rw [Url.read_special (readScheme?_append found) notFile special,
        takeWhile_append_of_stop (.inl stops), slashes, List.drop_append_of_le_length bound,
        readAuthority_append special authority closesAll]
      rfl

/-- A path text that ends in a separator, read and then shortened, goes on to read more as
the joined text does. -/
theorem readPath_shorten_append {T R : List Char} (plain : ∀ x ∈ T, x ≠ '?' ∧ x ≠ '#')
    (ends : ∀ x ∈ T.getLast?, isSlash true x = true) :
    readPath true false (shortenPath false (readPath true false [] T).1) R =
      readPath true false [] (T ++ R) := by
  unfold readPath
  rw [shortenPath_false]
  refine (readSegments_append plain ends [] ?_ (by omega)).symm
  simp only [List.length_append]
  omega

/-- A path reference resolved against a special URL whose path text ends in a separator reads
as the reference written after that text. -/
theorem readRelative_finishHierarchical {scheme : String} {auth : Authority} {after R : List Char}
    {c : Char} (special : isSpecialScheme scheme = true) (notFile : scheme ≠ "file")
    (plain : ∀ x ∈ after, x ≠ '?' ∧ x ≠ '#') (ends : ∀ x ∈ after.getLast?, isSlash true x = true)
    (first : SegmentChar c) :
    readRelative (finishHierarchical scheme (some auth) after) (c :: R) =
      .ok (finishHierarchical scheme (some auth) (after ++ c :: R)) := by
  obtain ⟨notSlash, notQuery, notFragment⟩ := first
  have notFile' : (scheme == "file") = false := by simpa using notFile
  unfold finishHierarchical readRelative
  dsimp only
  rw [special, notFile']
  simp only [if_true, notSlash, Bool.false_eq_true, if_false, beq_iff_eq, notQuery, notFragment]
  -- one separator after the authority is skipped on both sides
  cases after with
  | nil =>
    dsimp only
    rw [List.nil_append, readPath_shorten_append (by simp) (by simp)]
    simp only [notSlash, Bool.false_eq_true, if_false, List.nil_append]
  | cons a X =>
    have plainX : ∀ x ∈ X, x ≠ '?' ∧ x ≠ '#' := fun x member => plain x (List.mem_cons_of_mem a member)
    have endsX : ∀ x ∈ X.getLast?, isSlash true x = true := by
      intro x last
      apply ends x
      rw [List.getLast?_cons, Option.mem_def, last]
      rfl
    by_cases slash : isSlash true a = true
    · simp only [List.cons_append, slash, if_true]
      rw [readPath_shorten_append plainX endsX]
    · simp only [List.cons_append, slash, Bool.false_eq_true, if_false]
      rw [← List.cons_append, readPath_shorten_append plain ends]

/-- A separator ends an authority. -/
theorem AuthorityEnd.of_slash {c : Char} (slash : isSlash true c = true) : AuthorityEnd c := by
  unfold isSlash at slash
  simp only [Bool.true_and, Bool.or_eq_true, beq_iff_eq] at slash
  rcases slash with rfl | rfl
  · exact .inl rfl
  · exact .inr (.inl rfl)

/-- A special URL whose text ends in a separator: the text after its authority holds that
separator, so any more text is read after it. -/
theorem Url.read_special_sep {S : List Char} {url : Url} (read : Url.read S none = .ok url)
    (special : isSpecialScheme url.scheme = true) (notFile : url.scheme ≠ "file")
    (plain : ∀ x ∈ S, x ≠ '?' ∧ x ≠ '#') (ends : ∀ x ∈ S.getLast?, isSlash true x = true) :
    ∃ auth after, url = finishHierarchical url.scheme (some auth) after ∧
      (∀ y ∈ after, y ≠ '?' ∧ y ≠ '#') ∧ (∀ y ∈ after.getLast?, isSlash true y = true) ∧
      ∀ Z, Url.read (S ++ Z) none = .ok (finishHierarchical url.scheme (some auth) (after ++ Z)) := by
  obtain ⟨auth, after, built, ⟨front, mid, split, nonempty, clean⟩, more⟩ :=
    Url.read_special_split read special notFile
  -- the separator at the end ends the authority, so the text after the authority holds it
  obtain ⟨x, last⟩ : ∃ x, (mid ++ after).getLast? = some x :=
    Option.isSome_iff_exists.1 (List.getLast?_isSome.2 nonempty)
  have sep : isSlash true x = true :=
    ends x (by rw [split, List.getLast?_append_of_ne_nil _ nonempty]; exact last)
  have afterNonempty : after ≠ [] := by
    rintro rfl
    rw [List.append_nil] at last
    exact clean x (List.mem_of_getLast? last) (AuthorityEnd.of_slash sep)
  have lastAfter : after.getLast? = some x := by
    rwa [List.getLast?_append_of_ne_nil _ afterNonempty] at last
  refine ⟨auth, after, built, fun y member => ?_, fun y member => ?_,
    fun Z => more Z (.inl ⟨x, List.mem_of_getLast? lastAfter, AuthorityEnd.of_slash sep⟩)⟩
  · exact plain y (by rw [split]; exact List.mem_append_right _ (List.mem_append_right _ member))
  · rw [lastAfter] at member
    cases member
    exact sep

/-- Writing a path reference after a special URL whose text ends in a separator resolves the
reference against that URL. -/
theorem Url.read_append_path {S R : List Char} {c : Char} {base : Url}
    (read : Url.read S none = .ok base) (special : isSpecialScheme base.scheme = true)
    (notFile : base.scheme ≠ "file") (plain : ∀ x ∈ S, x ≠ '?' ∧ x ≠ '#')
    (ends : ∀ x ∈ S.getLast?, isSlash true x = true) (first : SegmentChar c) :
    Url.read (S ++ c :: R) none = readRelative base (c :: R) := by
  obtain ⟨auth, after, built, plainAfter, endsAfter, more⟩ :=
    Url.read_special_sep read special notFile plain ends
  generalize base.scheme = scheme at special notFile built more
  subst built
  rw [more, readRelative_finishHierarchical special notFile plainAfter endsAfter first]

/-- A path text that ends in a separator reads to a path that ends in an empty segment. -/
theorem readPath_ends_empty {T : List Char} (plain : ∀ x ∈ T, x ≠ '?' ∧ x ≠ '#')
    (ends : ∀ x ∈ T.getLast?, isSlash true x = true) :
    (readPath true false [] T).1.getLast? = some "" := by
  have joined : readSegments true false (T.length + 1) [] T =
      readSegments true false 1 (readSegments true false (T.length + 1) [] T).1.dropLast [] := by
    simpa using readSegments_append (Z := []) plain ends [] (n := T.length + 1) (m := 1)
      (by simp) (by simp)
  unfold readPath
  rw [joined, readSegments_last (by simp) 0, pushSegment_nil_last]
  simp

/-- A special URL whose text ends in a separator has a path that ends in an empty segment. -/
theorem finishHierarchical_ends_empty {scheme : String} {auth : Authority} {after : List Char}
    (special : isSpecialScheme scheme = true) (notFile : scheme ≠ "file")
    (plain : ∀ x ∈ after, x ≠ '?' ∧ x ≠ '#') (ends : ∀ x ∈ after.getLast?, isSlash true x = true) :
    (finishHierarchical scheme (some auth) after).path.segmentsOrEmpty.getLast? = some "" := by
  have notFile' : (scheme == "file") = false := by simpa using notFile
  unfold finishHierarchical
  dsimp only
  rw [special, notFile']
  simp only [if_true, UrlPath.segmentsOrEmpty]
  cases after with
  | nil => exact readPath_ends_empty (by simp) (by simp)
  | cons a X =>
    by_cases slash : isSlash true a = true
    · simp only [slash, if_true]
      refine readPath_ends_empty (fun x member => plain x (List.mem_cons_of_mem a member)) ?_
      intro x last
      apply ends x
      rw [List.getLast?_cons, Option.mem_def, last]
      rfl
    · simp only [slash, Bool.false_eq_true, if_false]
      exact readPath_ends_empty plain ends

/-- A special URL whose text ends in a separator has a path that ends in an empty segment. -/
theorem Url.read_ends_empty {S : List Char} {url : Url} (read : Url.read S none = .ok url)
    (special : isSpecialScheme url.scheme = true) (notFile : url.scheme ≠ "file")
    (plain : ∀ x ∈ S, x ≠ '?' ∧ x ≠ '#') (ends : ∀ x ∈ S.getLast?, isSlash true x = true) :
    url.path.segmentsOrEmpty.getLast? = some "" := by
  obtain ⟨auth, after, built, plainAfter, endsAfter, -⟩ :=
    Url.read_special_sep read special notFile plain ends
  rw [built]
  exact finishHierarchical_ends_empty special notFile plainAfter endsAfter

/-- Adding a separator to a special URL whose text does not end in one leads to the directory
of its path. -/
theorem finishHierarchical_slash_dirOf {scheme : String} {auth : Authority} {after : List Char}
    (special : isSpecialScheme scheme = true) (notFile : scheme ≠ "file")
    (plain : ∀ x ∈ after, x ≠ '?' ∧ x ≠ '#') (ends : ∀ x ∈ after.getLast?, isSlash true x = false) :
    (finishHierarchical scheme (some auth) (after ++ ['/'])).path.segmentsOrEmpty.dropLast =
      dirOf (finishHierarchical scheme (some auth) after).path.segmentsOrEmpty := by
  have notFile' : (scheme == "file") = false := by simpa using notFile
  unfold finishHierarchical
  dsimp only
  rw [special, notFile']
  simp only [if_true, UrlPath.segmentsOrEmpty]
  cases after with
  | nil => rfl
  | cons a X =>
    by_cases slash : isSlash true a = true
    · simp only [List.cons_append, slash, if_true]
      -- the separator at the front is not the last character, so more follows it
      have nonempty : X ≠ [] := by
        rintro rfl
        have last := ends a rfl
        rw [slash] at last
        cases last
      have endsX : ∀ x ∈ X.getLast?, isSlash true x = false := by
        intro x last
        apply ends x
        rw [List.getLast?_cons, Option.mem_def, last]
        rfl
      exact readSegments_dirOf (fun x member => plain x (List.mem_cons_of_mem a member)) endsX
        nonempty [] (by simp) (by simp)
    · simp only [List.cons_append, slash, Bool.false_eq_true, if_false]
      rw [← List.cons_append]
      exact readSegments_dirOf plain ends (List.cons_ne_nil a X) [] (by simp) (by simp)

/-- Adding a separator to the text of a special URL that does not end in one reads as the URL
with its path's directory. -/
theorem Url.read_append_slash {S : List Char} {url : Url} (read : Url.read S none = .ok url)
    (special : isSpecialScheme url.scheme = true) (notFile : url.scheme ≠ "file")
    (plain : ∀ x ∈ S, x ≠ '?' ∧ x ≠ '#') (ends : ∀ x ∈ S.getLast?, isSlash true x = false) :
    ∃ base, Url.read (S ++ ['/']) none = .ok base ∧ base.scheme = url.scheme ∧
      base.username = url.username ∧ base.password = url.password ∧ base.host = url.host ∧
      base.port = url.port ∧ base.path.segmentsOrEmpty.dropLast = dirOf url.path.segmentsOrEmpty := by
  obtain ⟨auth, after, built, ⟨front, mid, split, -, -⟩, more⟩ :=
    Url.read_special_split read special notFile
  have plainAfter : ∀ y ∈ after, y ≠ '?' ∧ y ≠ '#' := fun y member =>
    plain y (by rw [split]; exact List.mem_append_right _ (List.mem_append_right _ member))
  have endsAfter : ∀ y ∈ after.getLast?, isSlash true y = false := fun y last =>
    ends y (getLast?_of_suffix ⟨front ++ mid, by rw [split, List.append_assoc]⟩ last)
  -- a separator closes the authority
  have closes : Closes after ['/'] := .inr fun c first => by
    cases first
    exact .inl rfl
  generalize url.scheme = scheme at special notFile built more ⊢
  subst built
  exact ⟨_, more _ closes, rfl, rfl, rfl, rfl, rfl,
    finishHierarchical_slash_dirOf special notFile plainAfter endsAfter⟩

/-- A path reference puts its path in place of the base's last segment, keeping the base's
scheme, credentials, host and port. -/
theorem readRelative_path (b : Url) {c : Char} (R : List Char) (first : SegmentChar c) :
    readRelative b (c :: R) =
      let read := readPath (isSpecialScheme b.scheme) (b.scheme == "file")
        (shortenPath (b.scheme == "file") b.path.segmentsOrEmpty) (c :: R);
      .ok { b with
        path := .segments read.1
        query := (readQueryAndFragment (isSpecialScheme b.scheme) read.2).1
        fragment := (readQueryAndFragment (isSpecialScheme b.scheme) read.2).2 } := by
  obtain ⟨notSlash, notQuery, notFragment⟩ := first
  have anySlash : isSlash (isSpecialScheme b.scheme) c = false := by
    unfold isSlash at notSlash ⊢
    simp only [Bool.true_and, Bool.or_eq_false_iff] at notSlash
    simp [notSlash.1, notSlash.2]
  unfold readRelative
  dsimp only
  simp only [anySlash, Bool.false_eq_true, if_false, beq_iff_eq, notQuery, notFragment]
  obtain ⟨scheme, username, password, host, port, path, query, fragment⟩ := b
  cases path <;> rfl

/-- Two URLs against which a path reference resolves alike: they agree on everything but
their last path segment, query and fragment. -/
structure Url.SameDirectory (a b : Url) : Prop where
  scheme : a.scheme = b.scheme
  username : a.username = b.username
  password : a.password = b.password
  host : a.host = b.host
  port : a.port = b.port
  directory : shortenPath (a.scheme == "file") a.path.segmentsOrEmpty =
    shortenPath (b.scheme == "file") b.path.segmentsOrEmpty

theorem Url.SameDirectory.trans {a b d : Url} (first : a.SameDirectory b)
    (second : b.SameDirectory d) : a.SameDirectory d :=
  ⟨first.scheme.trans second.scheme, first.username.trans second.username,
    first.password.trans second.password, first.host.trans second.host,
    first.port.trans second.port, first.directory.trans second.directory⟩

/-- A path reference resolves alike against URLs of the same directory. -/
theorem Url.SameDirectory.readRelative_eq {a b : Url} (same : a.SameDirectory b) {c : Char}
    (R : List Char) (first : SegmentChar c) : readRelative a (c :: R) = readRelative b (c :: R) := by
  rw [readRelative_path a R first, readRelative_path b R first]
  obtain ⟨scheme, username, password, host, port, directory⟩ := same
  dsimp only
  rw [directory, scheme]
  obtain ⟨_, _, _, _, _, _, _, _⟩ := a
  obtain ⟨_, _, _, _, _, _, _, _⟩ := b
  dsimp only at scheme username password host port ⊢
  rw [username, password, host, port]

/-- Text without a scheme is resolved against a base with a path of segments. -/
theorem Url.read_relative {cs : List Char} {b : Url} {items : List String}
    (noScheme : readScheme? cs = none) (segmented : b.path = .segments items) :
    Url.read cs (some b) = readRelative b cs := by
  unfold Url.read
  rw [noScheme]
  dsimp only
  rw [segmented]

end ChartCatalog.Web
