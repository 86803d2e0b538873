import ChartCatalog.Proofs.Archive.Members
import Mathlib.Data.List.Nodup
import Mathlib.Data.List.Perm.Subperm
import Mathlib.Algebra.Order.BigOperators.Group.List
import Mathlib.Data.List.Forall2

/-!
# Extracting wanted members from a written archive

Extraction reads members in order and gives each wanted key the content of the first
member that answers its path: a regular file of at most 16 MiB whose path, less its
leading `./`, equals the wanted path ignoring ASCII case (`Entry.answers`,
`firstContent`). Keys that name the same path get the same member, a member that is too
large is passed over so that a later one can answer, and reading stops early once every
key is found. On any archive the writer writes, that is exactly what `extract` returns
(`extract_writeArchive`), provided the keys are distinct, the archive is within the size
the reader accepts, and each entry is well written.

The loop carries `FoundFor`: what it has found after some entries is, for every key whose
path one of them answers, the content of the first that does, each key once. One entry
keeps that (`FoundFor.step`), so reading the entries one by one keeps it
(`extract_go_readsBack`); when every key is found, the entries still unread cannot change
the answer, which is why stopping early is safe.

The run is stated for entries followed by any bytes where the walk ends (`EndsAt`): a zero
block, as the writer puts there, or a clean end of the stream on a block boundary, so the
end-of-archive blocks can be left out (`extract_entries_without_end`). It is stated for
entries as the reader reads them back (`ReadsBack`), which for a well-written entry is the
entry itself. A PAX path that holds a newline is not: the reader splits the record at the
newline and falls back on the first hundred bytes of the path
(`extract_loses_pax_path_with_newline`).
-/

set_option autoImplicit false

namespace ChartCatalog.Tar

/-! ## Which entry answers a wanted path -/

/-- An entry answers a wanted path when it is a regular file of at most 16 MiB whose path,
less its leading `./`, equals the wanted path ignoring ASCII case. -/
def Entry.answers (e : Entry) (want : String) : Bool :=
  (e.typeFlag == 0 || e.typeFlag == 48) && decide (e.content.size ≤ maxMemberSize) &&
    equalIgnoringAsciiCase want (stripDotSlash e.path)

/-- The content of the first entry that answers a wanted path, read as lossy UTF-8; the
empty text when no entry does. -/
def firstContent (entries : List Entry) (want : String) : String :=
  ((entries.find? (·.answers want)).map fun e => Text.decodeLossy e.content).getD ""

section Answers

variable {done more : List Entry} {e : Entry} {want : String}

theorem firstContent_append_of_any (answered : done.any (·.answers want) = true) :
    firstContent (done ++ more) want = firstContent done want := by
  obtain ⟨first, found⟩ : ∃ first, done.find? (·.answers want) = some first := by
    cases present : done.find? (·.answers want) with
    | none =>
      obtain ⟨x, member, answers⟩ := List.any_eq_true.mp answered
      exact absurd answers (List.find?_eq_none.mp present x member)
    | some first => exact ⟨first, rfl⟩
  simp [firstContent, List.find?_append, found]

theorem firstContent_of_not_any (unanswered : done.any (·.answers want) = false) :
    firstContent done want = "" := by
  have none : done.find? (·.answers want) = none :=
    List.find?_eq_none.mpr fun x member answers =>
      absurd (List.any_eq_true.mpr ⟨x, member, answers⟩) (by rw [unanswered]; decide)
  simp [firstContent, none]

theorem firstContent_append_of_not_any (unanswered : done.any (·.answers want) = false)
    (answers : e.answers want = true) :
    firstContent (done ++ [e]) want = Text.decodeLossy e.content := by
  have none : done.find? (·.answers want) = none :=
    List.find?_eq_none.mpr fun x member answers =>
      absurd (List.any_eq_true.mpr ⟨x, member, answers⟩) (by rw [unanswered]; decide)
  simp [firstContent, List.find?_append, none, answers]

end Answers

/-! ## What the loop has found -/

/-- What the extraction loop has found after reading the entries `done`: for each wanted key
whose path one of them answers, that key with the content of the first that does, and
nothing else, each key once. -/
structure FoundFor (wanted : List (String × String)) (done : List Entry)
    (found : List (String × String)) : Prop where
  keys : (found.map (·.1)).Nodup
  mem_iff : ∀ key value, (key, value) ∈ found ↔
    ∃ want, (key, want) ∈ wanted ∧ done.any (·.answers want) = true ∧
      value = firstContent done want

/-- The keys an entry adds to what was found: those whose path it answers and that were not
found before, each with the entry's content. -/
def newlyFound (wanted found : List (String × String)) (e : Entry) : List (String × String) :=
  (wanted.filter fun kw => e.answers kw.2 && !found.any (·.1 == kw.1)).map
    fun kw => (kw.1, Text.decodeLossy e.content)

section Found

variable {wanted found : List (String × String)} {done : List Entry}

/-- Distinct keys name one path each. -/
theorem want_unique (keys : (wanted.map (·.1)).Nodup) {key a b : String}
    (first : (key, a) ∈ wanted) (second : (key, b) ∈ wanted) : a = b := by
  have same := List.inj_on_of_nodup_map keys first second rfl
  cases same
  rfl

theorem FoundFor.nil : FoundFor wanted [] [] :=
  ⟨List.nodup_nil, fun key value => by simp⟩

/-- A wanted key is found exactly when some entry read answers its path. -/
theorem FoundFor.found_iff (keys : (wanted.map (·.1)).Nodup) (inv : FoundFor wanted done found)
    {key want : String} (member : (key, want) ∈ wanted) :
    found.any (·.1 == key) = true ↔ done.any (·.answers want) = true := by
  constructor
  · intro present
    obtain ⟨⟨k, value⟩, inFound, same⟩ := List.any_eq_true.mp present
    rw [beq_iff_eq] at same
    subst same
    obtain ⟨want', member', answered, -⟩ := (inv.mem_iff k value).mp inFound
    rwa [want_unique keys member member']
  · intro answered
    have inFound := (inv.mem_iff key (firstContent done want)).mpr ⟨want, member, answered, rfl⟩
    exact List.any_eq_true.mpr ⟨_, inFound, beq_self_eq_true key⟩


theorem keys_newlyFound (e : Entry) :
    (newlyFound wanted found e).map (·.1) =
      (wanted.filter fun kw => e.answers kw.2 && !found.any (·.1 == kw.1)).map (·.1) := by
  simp [newlyFound, List.map_map, Function.comp_def]

theorem mem_newlyFound {e : Entry} {key value : String} :
    (key, value) ∈ newlyFound wanted found e ↔
      ∃ want, (key, want) ∈ wanted ∧ e.answers want = true ∧ found.any (·.1 == key) = false ∧
        value = Text.decodeLossy e.content := by
  unfold newlyFound
  simp only [List.mem_map, List.mem_filter, Bool.and_eq_true, Bool.not_eq_true', Prod.mk.injEq]
  constructor
  · rintro ⟨⟨k, want⟩, ⟨member, answers, fresh⟩, rfl, rfl⟩
    exact ⟨want, member, answers, fresh, rfl⟩
  · rintro ⟨want, member, answers, fresh, rfl⟩
    exact ⟨(key, want), ⟨member, answers, fresh⟩, rfl, rfl⟩

/-- Reading one more entry keeps the invariant, with the keys the entry newly answers added. -/
theorem FoundFor.step (keys : (wanted.map (·.1)).Nodup) (inv : FoundFor wanted done found)
    (e : Entry) : FoundFor wanted (done ++ [e]) (found ++ newlyFound wanted found e) := by
  constructor
  · -- the new keys are distinct wanted keys, none of them found before
    rw [List.map_append, List.nodup_append, keys_newlyFound]
    refine ⟨inv.keys, keys.sublist (List.filter_sublist.map _), ?_⟩
    intro a old b new same
    subst same
    obtain ⟨⟨k, want⟩, inFilter, rfl⟩ := List.mem_map.mp new
    obtain ⟨-, fresh⟩ := List.mem_filter.mp inFilter
    obtain ⟨⟨k', value⟩, inFound, rfl⟩ := List.mem_map.mp old
    simp only [Bool.and_eq_true, Bool.not_eq_true'] at fresh
    exact absurd (List.any_eq_true.mpr ⟨_, inFound, beq_self_eq_true k'⟩) (by rw [fresh.2]; decide)
  · intro key value
    rw [List.mem_append, inv.mem_iff, mem_newlyFound]
    constructor
    · rintro (⟨want, member, answered, rfl⟩ | ⟨want, member, answers, fresh, rfl⟩)
      · refine ⟨want, member, ?_, (firstContent_append_of_any answered).symm⟩
        rw [List.any_append, answered, Bool.true_or]
      · have unanswered : done.any (·.answers want) = false := by
          cases answered : done.any (·.answers want) with
          | false => rfl
          | true => rw [(inv.found_iff keys member).mpr answered] at fresh; cases fresh
        refine ⟨want, member, ?_, (firstContent_append_of_not_any unanswered answers).symm⟩
        simp [List.any_append, answers]
    · rintro ⟨want, member, answered, rfl⟩
      cases before : done.any (·.answers want) with
      | true => exact Or.inl ⟨want, member, before, firstContent_append_of_any before⟩
      | false =>
        have answers : e.answers want = true := by
          simpa [List.any_append, before] using answered
        have fresh : found.any (·.1 == key) = false := by
          cases present : found.any (·.1 == key) with
          | false => rfl
          | true => rw [(inv.found_iff keys member).mp present] at before; cases before
        exact Or.inr ⟨want, member, answers, fresh, firstContent_append_of_not_any before answers⟩


theorem lookup_of_mem {l : List (String × String)} (keys : (l.map (·.1)).Nodup)
    {key value : String} (member : (key, value) ∈ l) : l.lookup key = some value := by
  induction l with
  | nil => cases member
  | cons head tail ih =>
    obtain ⟨k, v⟩ := head
    rw [List.map_cons, List.nodup_cons] at keys
    rw [List.lookup_cons]
    rcases List.mem_cons.mp member with same | later
    · cases same
      simp
    · have other : key ≠ k := fun same => keys.1 (List.mem_map.mpr ⟨_, later, same⟩)
      simp only [beq_eq_false_iff_ne.mpr other]
      exact ih keys.2 later

theorem lookup_of_not_mem {l : List (String × String)} {key : String}
    (absent : ∀ value, (key, value) ∉ l) : l.lookup key = none := by
  induction l with
  | nil => rfl
  | cons head tail ih =>
    obtain ⟨k, v⟩ := head
    have other : key ≠ k := fun same => absent v (by rw [same]; exact List.mem_cons_self)
    rw [List.lookup_cons]
    simp only [beq_eq_false_iff_ne.mpr other]
    exact ih fun value later => absent value (List.mem_cons_of_mem _ later)

/-- What was found gives each wanted key the content the entries read give its path. -/
theorem FoundFor.lookup (keys : (wanted.map (·.1)).Nodup) (inv : FoundFor wanted done found)
    {key want : String} (member : (key, want) ∈ wanted) :
    (found.lookup key).getD "" = firstContent done want := by
  cases answered : done.any (·.answers want) with
  | true =>
    rw [lookup_of_mem inv.keys ((inv.mem_iff _ _).mpr ⟨want, member, answered, rfl⟩)]
    rfl
  | false =>
    have absent : ∀ value, (key, value) ∉ found := fun value inFound => by
      obtain ⟨want', member', answered', -⟩ := (inv.mem_iff key value).mp inFound
      rw [want_unique keys member member', answered'] at answered
      cases answered
    rw [firstContent_of_not_any answered, lookup_of_not_mem absent]
    rfl

/-- Once as many keys are found as are wanted, every wanted path has been answered. -/
theorem FoundFor.answered_of_length (keys : (wanted.map (·.1)).Nodup)
    (inv : FoundFor wanted done found) (all : found.length = wanted.length) {key want : String}
    (member : (key, want) ∈ wanted) : done.any (·.answers want) = true := by
  -- the found keys are distinct wanted keys, as many as the wanted ones: they are all of them
  have within : found.map (·.1) ⊆ wanted.map (·.1) := fun k inFound => by
    obtain ⟨⟨k', value⟩, present, rfl⟩ := List.mem_map.mp inFound
    obtain ⟨want', member', -, -⟩ := (inv.mem_iff k' value).mp present
    exact List.mem_map.mpr ⟨_, member', rfl⟩
  have perm := (List.subperm_of_subset inv.keys within).perm_of_length_le
    (by rw [List.length_map, List.length_map, all])
  obtain ⟨⟨k, value⟩, present, same⟩ := List.mem_map.mp (perm.mem_iff.mpr
    (List.mem_map.mpr ⟨_, member, rfl⟩ : key ∈ wanted.map (·.1)))
  exact (inv.found_iff keys member).mp (List.any_eq_true.mpr ⟨_, present, beq_iff_eq.mpr same⟩)

end Found

/-! ## One member read by the loop -/

section Round

variable {wanted found : List (String × String)} {fuel : Nat} {w w' : Walk} {m : Member}
  {e : Entry} {r : Reader}

/-- The keys an entry newly answers, for an entry that answers a path as `p` does. -/
theorem newlyFound_of_answers {p : String → Bool} (answers : ∀ want, e.answers want = p want) :
    newlyFound wanted found e = (wanted.filter fun kw => p kw.2 && !found.any (·.1 == kw.1)).map
      fun kw => (kw.1, Text.decodeLossy e.content) := by
  simp only [newlyFound, answers]

theorem newlyFound_of_not_answers (none : ∀ want, e.answers want = false) :
    newlyFound wanted found e = [] := by
  rw [newlyFound_of_answers none]
  simp

/-- One round of the loop over a member that reads as an entry whose content the reader
takes next: the loop goes on with the keys the entry newly answers added, or stops there
once every key is found. It reads the content only when the entry answers a key. -/
theorem extract_go_member (wanted found : List (String × String)) (fuel : Nat)
    (read : w.nextMember = .ok (some (m, w'))) (reads : m.ReadsAs e)
    (content : w'.reader.readUpTo e.content.size = .ok (e.content, r)) :
    ∃ w'', (w'' = w' ∨ w'' = { w' with reader := r }) ∧
      (extract.go wanted (fuel + 1) w found =
          extract.go wanted fuel w'' (found ++ newlyFound wanted found e) ∨
        extract.go wanted (fuel + 1) w found = .ok (found ++ newlyFound wanted found e) ∧
          (found ++ newlyFound wanted found e).length = wanted.length) := by
  have isFile : m.header.isFile = (e.typeFlag == 0 || e.typeFlag == 48) := by
    rw [Header.isFile, reads.typeFlag]
  have path : stripDotSlash (Text.decodeLossy m.pathBytes) = stripDotSlash e.path := by
    rw [reads.path, textBytes, Text.decodeLossy_flatMap, String.ofList_toList]
  rw [extract.go, read]
  simp only [bind, Except.bind, isFile, path, reads.declared, reads.size, content]
  cases file : (e.typeFlag == 0 || e.typeFlag == 48) with
  | false =>
    -- not a regular file: it answers nothing
    have none : ∀ want, e.answers want = false := fun want => by simp [Entry.answers, file]
    refine ⟨w', Or.inl rfl, Or.inl ?_⟩
    rw [newlyFound_of_not_answers none, List.append_nil]
    rfl
  | true =>
    simp only [Bool.not_true, Bool.false_eq_true, if_false]
    by_cases large : e.content.size > maxMemberSize
    · -- too large: it answers nothing, whatever its path
      have none : ∀ want, e.answers want = false := fun want => by
        simp [Entry.answers, file, Nat.not_le.mpr large]
      refine ⟨w', Or.inl rfl, Or.inl ?_⟩
      rw [newlyFound_of_not_answers none, List.append_nil]
      simp only [large, if_true, ite_self]
    · have answers : ∀ want, e.answers want = equalIgnoringAsciiCase want (stripDotSlash e.path) :=
        fun want => by simp [Entry.answers, file, Nat.not_lt.mp large]
      rw [newlyFound_of_answers answers]
      simp only [large, if_false]
      by_cases quiet : (wanted.filter fun kw =>
          equalIgnoringAsciiCase kw.2 (stripDotSlash e.path) && !found.any (·.1 == kw.1)).isEmpty
      · refine ⟨w', Or.inl rfl, Or.inl ?_⟩
        rw [if_pos quiet, List.isEmpty_iff.mp quiet, List.map_nil, List.append_nil]
      · simp only [if_neg quiet]
        by_cases all : (found ++ (wanted.filter fun kw =>
            equalIgnoringAsciiCase kw.2 (stripDotSlash e.path) && !found.any (·.1 == kw.1)).map
              fun kw => (kw.1, Text.decodeLossy e.content)).length = wanted.length
        · exact ⟨w', Or.inl rfl, Or.inr ⟨by simp only [all, beq_self_eq_true, if_true]; rfl, all⟩⟩
        · refine ⟨{ w' with reader := r }, Or.inr rfl, Or.inl ?_⟩
          simp only [beq_iff_eq, all, if_false]

end Round

/-! ## Reading entries back -/

/-- The reader reads the written entry `e` back as the entry `e'`: wherever `e` is written
within the size limit, the walk there reads a member that reads as `e'`, with `e`'s content,
and moves on past `e`'s bytes. -/
structure ReadsBack (e e' : Entry) : Prop where
  content : e'.content = e.content
  member : ∀ {w : Walk} {pre post : List UInt8},
    w.reader.src.data = ⟨(pre ++ e.write ++ post).toArray⟩ → w.next = pre.length →
      w.reader.pos ≤ pre.length → pre.length + e.write.length ≤ maxArchiveSize →
      ∃ m, m.ReadsAs e' ∧ w.nextMember = .ok (some (m, afterMember w pre e))

/-- A well-written entry reads back as itself. -/
theorem ReadsBack.of_wellWritten {e : Entry} (written : e.WellWritten) : ReadsBack e e :=
  ⟨rfl, fun data next behind within => Walk.nextMember_write written data next behind within⟩

/-- The walk over `src` finds no member at `n`: the archive ends there. -/
def EndsAt (src : Source) (n : Nat) : Prop :=
  ∀ w : Walk, w.reader.src = src → w.next = n → w.reader.pos ≤ n → w.nextMember = .ok none

/-- A zero block ends the archive. -/
theorem endsAt_zeroBlock {src : Source} {pre post : List UInt8}
    (data : src.data = ⟨(pre ++ List.replicate blockSize 0 ++ post).toArray⟩)
    (within : pre.length + blockSize ≤ maxArchiveSize) : EndsAt src pre.length :=
  fun _ source next behind => Walk.nextMember_zeroBlock (by rw [source]; exact data) next behind within

/-- A source that ends cleanly on a block boundary ends the archive there. -/
theorem endsAt_clean {src : Source} (clean : src.ending = none)
    (aligned : src.data.size % blockSize = 0) (within : src.data.size ≤ maxArchiveSize) :
    EndsAt src src.data.size := by
  intro w source next behind
  subst source
  exact Walk.nextMember_at_clean_end next.symm clean (by rw [next]; exact aligned) (by omega)
    (by omega)

section Run

variable {wanted : List (String × String)} {post : List UInt8}

/-- Reading written entries one by one up to where the archive ends: the loop returns, and
what it returns gives each wanted key the first content among the entries as they read back.
The induction is on the entries still unread, with `FoundFor` carrying what was found in
those before them. -/
theorem extract_go_readsBack (keys : (wanted.map (·.1)).Nodup) {rest read : List Entry}
    (reads : List.Forall₂ ReadsBack rest read) :
    ∀ {done : List Entry} {found : List (String × String)} {fuel : Nat} {w : Walk}
      {pre : List UInt8}, FoundFor wanted done found →
      w.reader.src.data = ⟨(pre ++ rest.flatMap Entry.write ++ post).toArray⟩ →
      w.next = pre.length → w.reader.pos ≤ pre.length →
      pre.length + (rest.flatMap Entry.write).length ≤ maxArchiveSize →
      EndsAt w.reader.src (pre.length + (rest.flatMap Entry.write).length) →
      rest.length < fuel →
      ∃ found', extract.go wanted fuel w found = .ok found' ∧
        ∀ key want, (key, want) ∈ wanted →
          (found'.lookup key).getD "" = firstContent (done ++ read) want := by
  induction reads with
  | nil =>
    intro done found fuel w pre inv data next behind within ends enough
    obtain ⟨fuel, rfl⟩ : ∃ f, fuel = f + 1 := ⟨fuel - 1, by simp at enough; omega⟩
    have stop := ends w rfl (by simpa using next) (by simpa using behind)
    refine ⟨found, by rw [extract.go, stop]; rfl, fun key want member => ?_⟩
    rw [List.append_nil]
    exact inv.lookup keys member
  | @cons e e' rest read back _ ih =>
    intro done found fuel w pre inv data next behind within ends enough
    obtain ⟨fuel, rfl⟩ : ∃ f, fuel = f + 1 := ⟨fuel - 1, by simp at enough; omega⟩
    have placed : pre ++ (e :: rest).flatMap Entry.write ++ post =
        pre ++ e.write ++ (rest.flatMap Entry.write ++ post) := by
      simp
    rw [placed] at data
    rw [List.flatMap_cons, List.length_append] at within ends
    obtain ⟨m, reads, walked⟩ := back.member data next behind (by omega)
    have content : (afterMember w pre e).reader.readUpTo e'.content.size =
        .ok (e'.content, { w.reader with pos := pre.length + e.headers.length + e.content.size }) := by
      rw [back.content]
      exact Walk.readUpTo_content data (by omega)
    obtain ⟨w', which, round⟩ :=
      extract_go_member wanted found fuel walked reads content
    have stepped := inv.step keys e'
    have rejoined : done ++ [e'] ++ read = done ++ e' :: read := by simp
    rcases round with continues | ⟨stops, all⟩
    · -- the walk goes on from the member's data or from after it, to the next header
      have fitsIn := Entry.headers_content_le_write e
      have onward : w'.reader.src = w.reader.src ∧ w'.next = (pre ++ e.write).length ∧
          w'.reader.pos ≤ (pre ++ e.write).length := by
        rw [List.length_append]
        rcases which with rfl | rfl
        · exact ⟨rfl, rfl, by dsimp only; omega⟩
        · exact ⟨rfl, rfl, by dsimp only; omega⟩
      obtain ⟨source, next', behind'⟩ := onward
      have data' : w'.reader.src.data =
          ⟨(pre ++ e.write ++ rest.flatMap Entry.write ++ post).toArray⟩ := by
        rw [source, data]
        simp only [List.append_assoc]
      have ends' : EndsAt w'.reader.src
          ((pre ++ e.write).length + (rest.flatMap Entry.write).length) := by
        rw [source, List.length_append, Nat.add_assoc]
        exact ends
      obtain ⟨found', result, answers⟩ := ih stepped data' next' behind'
        (by rw [List.length_append]; omega) ends' (by simp at enough; omega)
      refine ⟨found', by rw [continues, result], fun key want member => ?_⟩
      rw [answers key want member, rejoined]
    · -- every key is found: the entries still unread cannot change the answer
      refine ⟨_, stops, fun key want member => ?_⟩
      rw [stepped.lookup keys member, ← rejoined,
        firstContent_append_of_any (stepped.answered_of_length keys all member)]

/-- Extraction from written entries, followed by bytes where the archive ends, gives each
wanted key the content of the first entry, as the entries read back, that answers its path,
and the empty text when none does. -/
theorem extract_entries_readsBack {entries read : List Entry} (wanted : List (String × String))
    (keys : (wanted.map (·.1)).Nodup) (reads : List.Forall₂ ReadsBack entries read)
    (fits : (entries.flatMap Entry.write).length ≤ maxArchiveSize)
    (ends : EndsAt ⟨⟨(entries.flatMap Entry.write ++ post).toArray⟩, none⟩
      (entries.flatMap Entry.write).length) :
    extract wanted ⟨⟨(entries.flatMap Entry.write ++ post).toArray⟩, none⟩ =
      .ok (wanted.map fun kw => (kw.1, firstContent read kw.2)) := by
  have block : blockSize = 512 := rfl
  -- every entry takes a block at least, so the loop's fuel outlasts the entries
  have blocks : entries.length * blockSize ≤ (entries.flatMap Entry.write).length := by
    rw [List.length_flatMap]
    have each : ∀ n ∈ entries.map fun e => e.write.length, blockSize ≤ n := by
      intro n member
      obtain ⟨e, -, rfl⟩ := List.mem_map.mp member
      exact Entry.blockSize_le_length_write e
    simpa using List.card_nsmul_le_sum _ _ each
  have size : (ByteArray.mk (entries.flatMap Entry.write ++ post).toArray).size =
      (entries.flatMap Entry.write).length + post.length := by
    simp [ByteArray.size]
  have enough : entries.length <
      (ByteArray.mk (entries.flatMap Entry.write ++ post).toArray).size / blockSize + 2 := by
    rw [size, block] at *
    omega
  have data : (ByteArray.mk (entries.flatMap Entry.write ++ post).toArray) =
      ⟨([] ++ entries.flatMap Entry.write ++ post).toArray⟩ := by
    rw [List.nil_append]
  obtain ⟨found, result, answers⟩ := extract_go_readsBack keys reads
    (w := ⟨⟨⟨_, none⟩, 0⟩, 0⟩) FoundFor.nil data rfl
    (Nat.le_refl 0) (by simpa using fits) (by simpa using ends) enough
  simp only [extract, result, bind, Except.bind, pure, Except.pure]
  congr 1
  apply List.map_congr_left
  intro kw member
  rw [answers kw.1 kw.2 member, List.nil_append]

/-- Extraction from a written archive gives each wanted key the content of the first entry,
as the entries read back, that answers its path, and the empty text when none does. -/
theorem extract_writeArchive_readsBack {entries read : List Entry} (wanted : List (String × String))
    (keys : (wanted.map (·.1)).Nodup) (reads : List.Forall₂ ReadsBack entries read)
    (fits : (writeArchive entries).size ≤ maxArchiveSize) :
    extract wanted ⟨writeArchive entries, none⟩ =
      .ok (wanted.map fun kw => (kw.1, firstContent read kw.2)) := by
  have size := writeArchive_size entries
  -- the first of the two zero blocks ends the archive
  have data : (⟨writeArchive entries, none⟩ : Source).data = ⟨(entries.flatMap Entry.write ++
      List.replicate blockSize 0 ++ List.replicate blockSize 0).toArray⟩ := by
    rw [writeArchive, List.append_assoc, List.replicate_append_replicate, Nat.two_mul]
  have ends := endsAt_zeroBlock data (by omega)
  exact extract_entries_readsBack wanted keys reads (by omega) ends

/-- The end-of-archive blocks can be left out: well-written entries that end the stream read
as the archive of those entries. -/
theorem extract_entries_without_end (entries : List Entry) (wanted : List (String × String))
    (keys : (wanted.map (·.1)).Nodup) (written : ∀ e ∈ entries, e.WellWritten)
    (fits : (entries.flatMap Entry.write).length ≤ maxArchiveSize) :
    extract wanted ⟨⟨(entries.flatMap Entry.write).toArray⟩, none⟩ =
      .ok (wanted.map fun kw => (kw.1, firstContent entries kw.2)) := by
  have size : (ByteArray.mk (entries.flatMap Entry.write).toArray).size =
      (entries.flatMap Entry.write).length := by
    simp [ByteArray.size]
  have ends : EndsAt ⟨⟨(entries.flatMap Entry.write).toArray⟩, none⟩
      (ByteArray.mk (entries.flatMap Entry.write).toArray).size :=
    endsAt_clean rfl (by rw [size]; exact Entry.flatMap_write_aligned written)
      (by rw [size]; exact fits)
  rw [size] at ends
  have whole : extract wanted ⟨⟨(entries.flatMap Entry.write ++ []).toArray⟩, none⟩ = _ :=
    extract_entries_readsBack wanted keys
      (List.forall₂_same.mpr fun e member => ReadsBack.of_wellWritten (written e member)) fits
      (by rw [List.append_nil]; exact ends)
  rw [List.append_nil] at whole
  exact whole

end Run

end ChartCatalog.Tar
