import ChartCatalog.Proofs.Archive.Reader
import ChartCatalog.Proofs.Archive.Writer
import ChartCatalog.Proofs.Archive.Extraction
import Mathlib.Tactic.SplitIfs

/-!
# A tar stream cut inside a block

A prefix of a tar stream whose length is not a whole number of blocks is never read as
another archive: extracting members from it fails with an unexpected end, or gives
exactly what the whole stream gives (`extract_of_mid_block_cut`).

The proof runs the reader on the cut and on the whole stream side by side. `Follows`
relates the outcomes of one step on the two sides: the cut meets an unexpected end, or
both fail alike, or both succeed with related values. Readers at the same position
inside the cut are `Twins`; a read that stays inside the cut returns the same bytes on
both sides, and one that leaves it ends mid-block on the cut. Each step of the walk over
the headers lemma by lemma keeps the twins, and `Fuelled` bounds the headers still
inside the cut, so the cut side never runs out of fuel before the whole side does.

A cut on a block boundary is another matter: the reader takes a clean end for the end of
the archive, zero blocks or not (`extract_entries_without_end`), so the stream cut after a
member reads as the archive of the members before the cut
(`extract_of_block_aligned_cut_misses_member`).
-/

set_option autoImplicit false

namespace ChartCatalog.Tar

/-- A stream cut inside a block: `part` is a prefix of `whole` whose length is not a
whole number of blocks. -/
structure Cut where
  part : ByteArray
  whole : ByteArray
  isPrefix : part.data.toList <+: whole.data.toList
  midBlock : part.size % blockSize ≠ 0

/-- The outcomes of one computation on the cut and on the whole stream: the cut meets an
unexpected end, or both fail alike, or both succeed with related values. -/
inductive Follows {α β : Type} (R : α → β → Prop) :
    Except CatalogError α → Except CatalogError β → Prop
  | cut (msg : String) (y : Except CatalogError β) : Follows R (.error (.unexpectedEof msg)) y
  | fail (e : CatalogError) : Follows R (.error e) (.error e)
  | ok {a : α} {b : β} : R a b → Follows R (.ok a) (.ok b)

namespace Follows

variable {α β γ δ : Type} {R : α → β → Prop} {x : Except CatalogError α}
  {y : Except CatalogError β}

theorem bind {S : γ → δ → Prop} {f : α → Except CatalogError γ} {g : β → Except CatalogError δ}
    (first : Follows R x y) (rest : ∀ a b, R a b → Follows S (f a) (g b)) :
    Follows S (x >>= f) (y >>= g) := by
  cases first with
  | cut msg y => exact .cut msg _
  | fail e => exact .fail e
  | ok related => exact rest _ _ related

/-- The same computation on both sides follows itself. -/
theorem refl (x : Except CatalogError α) : Follows Eq x x := by
  cases x with
  | error e => exact .fail e
  | ok a => exact .ok rfl

theorem imp {S : α → β → Prop} (h : Follows R x y) (weaker : ∀ a b, R a b → S a b) :
    Follows S x y := by
  cases h with
  | cut msg y => exact .cut msg y
  | fail e => exact .fail e
  | ok related => exact .ok (weaker _ _ related)

theorem imp_option {R S : α → β → Prop} {x : Except CatalogError (Option α)}
    {y : Except CatalogError (Option β)} (h : Follows (Option.Rel R) x y)
    (weaker : ∀ a b, R a b → S a b) : Follows (Option.Rel S) x y :=
  h.imp fun _ _ rel => by
    cases rel with
    | some related => exact .some (weaker _ _ related)
    | none => exact .none

/-- Following with equal values: the same outcome, or an unexpected end on the cut. -/
theorem eq_or_cut {x' : Except CatalogError α} (h : Follows Eq x x') :
    x = x' ∨ ∃ msg, x = .error (.unexpectedEof msg) := by
  cases h with
  | cut msg y => exact .inr ⟨msg, rfl⟩
  | fail e => exact .inl rfl
  | ok same => exact .inl (same ▸ rfl)

end Follows

/-- Every header read starts a block later than the one before. -/
theorem readHeader_next {block : ByteArray} {next : Nat} {pax : Option ByteArray} {h : Header}
    {size next' : Nat} (read : readHeader block next pax = .ok (some (h, size, next'))) :
    next + blockSize ≤ next' := by
  simp only [readHeader, bind, Except.bind, pure, Except.pure] at read
  -- every failing branch contradicts `read`; the one success places the next header
  repeat' split at read
  all_goals cases read
  all_goals exact Nat.le_add_right _ _

namespace Cut

variable (c : Cut)

theorem size_le : c.part.size ≤ c.whole.size := by
  have lengths := c.isPrefix.length_le
  rwa [Array.length_toList, Array.length_toList] at lengths

/-- Readers of the cut and of the whole stream at one position inside the cut. -/
structure Twins (rP rT : Reader) : Prop where
  part : rP.src = ⟨c.part, none⟩
  whole : rT.src = ⟨c.whole, none⟩
  pos : rP.pos = rT.pos
  inside : rP.pos ≤ c.part.size

/-- Walks over the cut and over the whole stream with twin readers and the same next
header. -/
structure Walks (wP wT : Walk) : Prop where
  twins : c.Twins wP.reader wT.reader
  next : wP.next = wT.next

/-- Walks past a header read from `w`: that header lies inside the cut, and the next one
starts after it. -/
structure Past (w wP wT : Walk) : Prop where
  walks : c.Walks wP wT
  inside : w.next + blockSize ≤ c.part.size
  beyond : w.next + blockSize ≤ wP.next

/-- Fuel for a walk whose next header starts at `next`: more than the blocks left in the
cut. -/
structure Fuelled (next fuel : Nat) : Prop where
  positive : 0 < fuel
  covers : c.part.size < next + blockSize * fuel

variable {c}

/-- On twin readers a read of `n` bytes gives the same bytes on both sides and moves both
by `n`, or ends mid-block on the cut, or fails alike over the archive limit. -/
theorem readUpTo_follows {rP rT : Reader} (twins : c.Twins rP rT) (n : Nat) :
    Follows (fun x y => x.1 = y.1 ∧ c.Twins x.2 y.2 ∧ x.2.pos = rP.pos + n)
      (rP.readUpTo n) (rT.readUpTo n) := by
  obtain ⟨srcP, p⟩ := rP
  obtain ⟨srcT, q⟩ := rT
  obtain ⟨rfl, rfl, rfl, inside⟩ := twins
  dsimp only at inside ⊢
  have sizes := c.size_le
  rcases Nat.eq_zero_or_pos n with rfl | n0
  · rw [Reader.readUpTo_zero, Reader.readUpTo_zero]
    exact .ok ⟨rfl, ⟨rfl, rfl, rfl, inside⟩, rfl⟩
  by_cases fits : p + n ≤ c.part.size
  · by_cases under : p + n ≤ maxArchiveSize
    · rw [Reader.readUpTo_within n0 fits under, Reader.readUpTo_within n0 (by dsimp only; omega) under]
      exact .ok ⟨extract_eq_of_isPrefix c.isPrefix fits, ⟨rfl, rfl, rfl, fits⟩, rfl⟩
    · rw [Reader.readUpTo_too_large n0 (by dsimp only; omega) (by dsimp only; omega),
        Reader.readUpTo_too_large n0 (by dsimp only; omega) (by dsimp only; omega)]
      exact .fail _
  · by_cases atEnd : c.part.size ≤ p
    · have onEnd : p = c.part.size := by omega
      rw [Reader.readUpTo_at_end n0 atEnd rfl (onEnd ▸ c.midBlock)]
      exact .cut _ _
    · by_cases under : c.part.size ≤ maxArchiveSize
      · rw [Reader.readUpTo_past_end (by dsimp only; omega) (by dsimp only; omega) under rfl c.midBlock]
        exact .cut _ _
      · rw [Reader.readUpTo_too_large n0 (by dsimp only; omega) (by dsimp only; omega),
          Reader.readUpTo_too_large n0 (by dsimp only; omega) (by dsimp only; omega)]
        exact .fail _

theorem skip_follows {rP rT : Reader} (twins : c.Twins rP rT) (n : Nat) :
    Follows (fun rP' rT' => c.Twins rP' rT' ∧ rP'.pos = rP.pos + n) (rP.skip n) (rT.skip n) := by
  unfold Reader.skip
  refine (readUpTo_follows twins n).bind ?_
  rintro ⟨got, rP'⟩ ⟨_, rT'⟩ ⟨rfl, twins', advanced⟩
  dsimp only
  split_ifs
  · exact .fail _
  · exact .ok ⟨twins', advanced⟩

theorem readBlock_follows {rP rT : Reader} (twins : c.Twins rP rT) :
    Follows (Option.Rel fun x y => x.1 = y.1 ∧ c.Twins x.2 y.2 ∧ x.2.pos = rP.pos + blockSize)
      rP.readBlock rT.readBlock := by
  unfold Reader.readBlock
  refine (readUpTo_follows twins blockSize).bind ?_
  rintro ⟨block, rP'⟩ ⟨_, rT'⟩ ⟨rfl, twins', advanced⟩
  dsimp only
  split_ifs
  · exact .ok .none
  · exact .fail _
  · exact .ok (.some ⟨rfl, twins', advanced⟩)

theorem Past.trans {w wP wT w' xP xT : Walk} (first : c.Past w wP wT) (second : c.Past w' xP xT)
    (same : w'.next = wP.next) : c.Past w xP xT :=
  ⟨second.walks, first.inside, by have := first.beyond; have := second.beyond; omega⟩

/-- A header read inside the cut leaves a block less of it to cover. -/
theorem Fuelled.step {w wP wT : Walk} {fuel : Nat} (fuelled : c.Fuelled w.next (fuel + 1))
    (past : c.Past w wP wT) : c.Fuelled wP.next fuel := by
  obtain ⟨-, covers⟩ := fuelled
  obtain ⟨-, inside, beyond⟩ := past
  unfold blockSize at covers inside beyond
  constructor
  · omega
  · unfold blockSize; omega

theorem nextRaw_follows {wP wT : Walk} (walks : c.Walks wP wT) (pax : Option ByteArray) :
    Follows (Option.Rel fun x y => x.1 = y.1 ∧ x.2.1 = y.2.1 ∧ c.Past wP x.2.2 y.2.2)
      (wP.nextRaw pax) (wT.nextRaw pax) := by
  obtain ⟨twins, sameNext⟩ := walks
  unfold Walk.nextRaw
  rw [← sameNext, ← twins.pos]
  refine (skip_follows twins _).bind ?_
  rintro rP rT ⟨twins', skipped⟩
  refine (readBlock_follows twins').bind ?_
  rintro _ _ (@⟨⟨block, rP'⟩, ⟨_, rT'⟩, ⟨rfl, twins'', advanced⟩⟩ | _)
  · dsimp only
    rcases read : readHeader block wP.next pax with e | _ | ⟨h, size, next⟩
    · exact .fail e
    · exact .ok .none
    · have inside := twins''.inside
      have beyond := readHeader_next read
      refine .ok (.some ⟨rfl, rfl, ⟨⟨twins'', rfl⟩, ?_, beyond⟩⟩)
      dsimp only at skipped advanced inside
      unfold blockSize at *
      omega
  · exact .ok .none

theorem nextMember_go_follows (fuel fuelT : Nat) (more : fuel ≤ fuelT) {wP wT : Walk}
    (walks : c.Walks wP wT) (fuelled : c.Fuelled wP.next fuel)
    (longName longLink pax : Option ByteArray) (pending : Bool) :
    Follows (Option.Rel fun x y => x.1 = y.1 ∧ c.Past wP x.2 y.2)
      (Walk.nextMember.go fuel wP longName longLink pax pending)
      (Walk.nextMember.go fuelT wT longName longLink pax pending) := by
  -- induction on the cut side's fuel; `Fuelled` makes its last round one that cannot
  -- read a header, so the whole side, with at least as much fuel, never runs out first
  induction fuel generalizing fuelT wP wT longName longLink pax pending with
  | zero => exact absurd fuelled.positive (Nat.lt_irrefl 0)
  | succ fuel ih =>
    obtain ⟨fuelT, rfl⟩ : ∃ k, fuelT = k + 1 := ⟨fuelT - 1, by omega⟩
    rw [Walk.nextMember.go, Walk.nextMember.go]
    refine (nextRaw_follows walks pax).bind ?_
    rintro _ _ (@⟨⟨h, size, wP'⟩, ⟨_, _, wT'⟩, ⟨rfl, rfl, past⟩⟩ | _)
    · dsimp only at past ⊢
      have fuelled' := fuelled.step past
      -- a long-name, long-link or extended header: read its payload into its slot, go on
      have payload : ∀ slots : ByteArray → Option ByteArray × Option ByteArray × Option ByteArray,
          Follows (Option.Rel fun x y => x.1 = y.1 ∧ c.Past wP x.2 y.2)
            (wP'.reader.readUpTo size >>= fun x => Walk.nextMember.go fuel
              { reader := x.2, next := wP'.next } (slots x.1).1 (slots x.1).2.1 (slots x.1).2.2 true)
            (wT'.reader.readUpTo size >>= fun x => Walk.nextMember.go fuelT
              { reader := x.2, next := wT'.next } (slots x.1).1 (slots x.1).2.1 (slots x.1).2.2 true) := by
        intro slots
        refine (readUpTo_follows past.walks.twins size).bind ?_
        rintro ⟨bytes, rP⟩ ⟨_, rT⟩ ⟨rfl, twins, -⟩
        exact (@ih fuelT (by omega) { reader := rP, next := wP'.next } { reader := rT, next := wT'.next }
          ⟨twins, past.walks.next⟩ fuelled' _ _ _ true).imp_option
          fun _ _ rel => ⟨rel.1, past.trans rel.2 rfl⟩
      split_ifs
      · exact .fail _
      · exact payload fun name => (some name, longLink, pax)
      · exact .fail _
      · exact payload fun link => (longName, some link, pax)
      · exact .fail _
      · exact payload fun ext => (longName, longLink, some ext)
      · exact .ok (.some ⟨rfl, past⟩)
    · dsimp only
      split_ifs
      · exact .fail _
      · exact .ok .none

theorem nextMember_follows {wP wT : Walk} (walks : c.Walks wP wT) :
    Follows (Option.Rel fun x y => x.1 = y.1 ∧ c.Past wP x.2 y.2) wP.nextMember wT.nextMember := by
  unfold Walk.nextMember
  rw [walks.twins.part, walks.twins.whole]
  refine nextMember_go_follows _ _ ?_ walks ⟨Nat.succ_pos _, ?_⟩ _ _ _ _
  · exact Nat.add_le_add_right (Nat.div_le_div_right c.size_le) 2
  · dsimp only
    unfold blockSize
    omega

theorem extract_go_follows (wanted : List (String × String)) (fuel fuelT : Nat) (more : fuel ≤ fuelT)
    {wP wT : Walk} (walks : c.Walks wP wT) (fuelled : c.Fuelled wP.next fuel)
    (found : List (String × String)) :
    Follows Eq (extract.go wanted fuel wP found) (extract.go wanted fuelT wT found) := by
  -- as for `nextMember_go_follows`: every member read is a header inside the cut
  induction fuel generalizing fuelT wP wT found with
  | zero => exact absurd fuelled.positive (Nat.lt_irrefl 0)
  | succ fuel ih =>
    obtain ⟨fuelT, rfl⟩ : ∃ k, fuelT = k + 1 := ⟨fuelT - 1, by omega⟩
    rw [extract.go, extract.go]
    refine (nextMember_follows walks).bind ?_
    rintro _ _ (@⟨⟨m, wP'⟩, ⟨_, wT'⟩, ⟨rfl, past⟩⟩ | _)
    · dsimp only at past ⊢
      have fuelled' := fuelled.step past
      split_ifs
      · exact ih fuelT (by omega) past.walks fuelled' found
      · exact ih fuelT (by omega) past.walks fuelled' found
      -- a wanted regular file: the declared size is read the same on both sides
      refine (Follows.refl (numericField (m.header.field 124 12))).bind ?_
      rintro size _ rfl
      split_ifs
      · exact ih fuelT (by omega) past.walks fuelled' found
      refine (readUpTo_follows past.walks.twins m.size).bind ?_
      rintro ⟨content, rP⟩ ⟨_, rT⟩ ⟨rfl, twins, -⟩
      dsimp only
      split_ifs
      · exact .ok rfl
      · exact @ih fuelT (by omega) { reader := rP, next := wP'.next } { reader := rT, next := wT'.next }
          ⟨twins, past.walks.next⟩ fuelled' _
    · exact .ok rfl

theorem extract_follows (wanted : List (String × String)) :
    Follows Eq (extract wanted ⟨c.part, none⟩) (extract wanted ⟨c.whole, none⟩) := by
  have start : c.Walks ⟨⟨⟨c.part, none⟩, 0⟩, 0⟩ ⟨⟨⟨c.whole, none⟩, 0⟩, 0⟩ :=
    ⟨⟨rfl, rfl, rfl, Nat.zero_le _⟩, rfl⟩
  unfold extract
  refine (extract_go_follows wanted _ _ ?_ start ⟨Nat.succ_pos _, ?_⟩ []).bind ?_
  · exact Nat.add_le_add_right (Nat.div_le_div_right c.size_le) 2
  · dsimp only
    unfold blockSize
    omega
  · rintro found _ rfl
    exact .ok rfl

end Cut

/-- A tar stream cut inside a block is never read as another archive: extracting from the
cut fails with an unexpected end, or gives what the whole stream gives. -/
theorem extract_of_mid_block_cut {P T : ByteArray} (isPrefix : P.data.toList <+: T.data.toList)
    (midBlock : P.size % blockSize ≠ 0) (wanted : List (String × String)) :
    extract wanted ⟨P, none⟩ = extract wanted ⟨T, none⟩ ∨
      ∃ msg, extract wanted ⟨P, none⟩ = .error (.unexpectedEof msg) :=
  (Cut.extract_follows (c := ⟨P, T, isPrefix, midBlock⟩) wanted).eq_or_cut

/-- The cut at 700 bytes of a one-member archive, as in the reader's own test. -/
theorem extract_of_mid_block_cut_at_700 :
    let whole := writeArchive [⟨"file.txt", 48, "best file ever".toUTF8, .header .gnu⟩]
    let part := whole.extract 0 700
    part.data.toList <+: whole.data.toList ∧ part.size % blockSize ≠ 0 ∧
      (extract [("f", "other.txt")] ⟨part, none⟩ = extract [("f", "other.txt")] ⟨whole, none⟩ ∨
        ∃ msg, extract [("f", "other.txt")] ⟨part, none⟩ = .error (.unexpectedEof msg)) := by
  intro whole part
  have isPrefix := extract_zero_isPrefix whole 700
  have long : whole.size = _ := writeArchive_size _
  have midBlock : part.size % blockSize ≠ 0 := by
    simp only [part, ByteArray.size_extract]
    unfold blockSize at long ⊢
    omega
  exact ⟨isPrefix, midBlock, extract_of_mid_block_cut isPrefix midBlock _⟩

/-- A cut on a block boundary is read as another archive: the stream cut after its first
member ends there, so the member after the cut is reported missing. -/
theorem extract_of_block_aligned_cut_misses_member :
    let whole := writeArchive [⟨"file.txt", 48, "best file ever".toUTF8, .header .gnu⟩,
      ⟨"b.txt", 48, "x".toUTF8, .header .gnu⟩]
    let part := whole.extract 0 1024
    part.data.toList <+: whole.data.toList ∧ part.size % blockSize = 0 ∧
      extract [("f", "b.txt")] ⟨part, none⟩ = .ok [("f", "")] ∧
      extract [("f", "b.txt")] ⟨whole, none⟩ = .ok [("f", "x")] := by
  intro whole part
  -- a file with a short path and at most a block of content takes two blocks
  have twoBlocks : ∀ (path : String) (content : ByteArray), (textBytes path.toList).length ≤ 100 →
      0 < content.size → content.size ≤ 512 →
      (Entry.write ⟨path, 48, content, .header .gnu⟩).length = 1024 := by
    intro path content fits nonempty small
    have data : content.data.toList.length = content.size := Array.length_toList
    simp only [Entry.write, Entry.headers, List.length_append, length_headerBlock _ _ _ fits,
      length_blockData, data]
    unfold blockSize
    omega
  have first := twoBlocks "file.txt" "best file ever".toUTF8 (by decide) (by decide) (by decide)
  have second := twoBlocks "b.txt" "x".toUTF8 (by decide) (by decide) (by decide)
  have written : ∀ e ∈ ([⟨"file.txt", 48, "best file ever".toUTF8, .header .gnu⟩,
      ⟨"b.txt", 48, "x".toUTF8, .header .gnu⟩] : List Entry), e.WellWritten := by
    have noNul : ("file.txt".toList ++ "b.txt".toList).all (·.toNat != 0) = true := by
      decide +kernel
    intro e member
    rcases List.mem_pair.mp member with rfl | rfl
    · exact ⟨by decide, by decide, by decide, by decide, fun c inPath =>
        bne_iff_ne.mp (List.all_eq_true.mp noNul c (List.mem_append_left _ inPath))⟩
    · exact ⟨by decide, by decide, by decide, by decide, fun c inPath =>
        bne_iff_ne.mp (List.all_eq_true.mp noNul c (List.mem_append_right _ inPath))⟩
  -- the cut holds the first member exactly, with no end blocks
  have cut : part = ⟨([⟨"file.txt", 48, "best file ever".toUTF8, .header .gnu⟩] : List Entry).flatMap
      Entry.write |>.toArray⟩ := by
    have frame := extract_frame [] (Entry.write ⟨"file.txt", 48, "best file ever".toUTF8, .header .gnu⟩)
      (Entry.write ⟨"b.txt", 48, "x".toUTF8, .header .gnu⟩ ++ List.replicate (2 * blockSize) 0)
    rw [first, List.length_nil, Nat.zero_add] at frame
    simp only [List.flatMap_cons, List.flatMap_nil, List.append_nil]
    rw [← frame]
    simp only [part, whole, writeArchive, List.flatMap_cons, List.flatMap_nil, List.append_nil,
      List.nil_append, List.append_assoc]
  have partSize : part.size = 1024 := by
    rw [cut, size_mk, List.flatMap_cons, List.flatMap_nil, List.append_nil, first]
  refine ⟨extract_zero_isPrefix whole 1024, by rw [partSize]; decide, ?_, ?_⟩
  · rw [cut, extract_entries_without_end _ _ (by decide)
      (fun e member => written e (List.mem_cons.mpr (.inl (List.mem_singleton.mp member))))
      (by rw [List.flatMap_cons, List.flatMap_nil, List.append_nil, first]; decide)]
    decide +kernel
  · rw [extract_writeArchive_readsBack _ (by decide)
      (List.forall₂_same.mpr fun e member => ReadsBack.of_wellWritten (written e member))
      (by rw [writeArchive_size, List.flatMap_cons, List.flatMap_cons, List.flatMap_nil,
        List.append_nil, List.length_append, first, second]; decide)]
    decide +kernel

end ChartCatalog.Tar
