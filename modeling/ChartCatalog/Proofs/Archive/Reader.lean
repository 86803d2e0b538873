import ChartCatalog.Archive.Tar

/-!
# What one read of a tar source returns

Spec equations for the archive reader, one for each way a read can end: inside the
source, over the archive limit, at the end of the source in the middle of a block, and
running past the end of a source that stops in the middle of a block. Later proofs cite
these and never unfold the reading loop.

The last lemma compares two sources: the bytes below the end of a prefix are the same
in the prefix and in the whole.
-/

set_option autoImplicit false

namespace ChartCatalog.Tar

variable {r : Reader} {n : Nat}

/-! ## Single reads -/

theorem Reader.read_at_end (n0 : 0 < n) (atEnd : r.src.data.size ≤ r.pos)
    (clean : r.src.ending = none) (mid : r.pos % blockSize ≠ 0) :
    r.read n = .error (endsMidBlock r.pos) := by
  have avail : r.src.data.size - r.pos = 0 := by omega
  simp [Reader.read, Nat.pos_iff_ne_zero.mp n0, avail, clean, mid]
  rfl

/-- At a block boundary, the end of a source that ends cleanly reads as no bytes. -/
theorem Reader.read_at_clean_end (n0 : 0 < n) (atEnd : r.src.data.size ≤ r.pos)
    (clean : r.src.ending = none) (aligned : r.pos % blockSize = 0) :
    r.read n = .ok (ByteArray.empty, r) := by
  have avail : r.src.data.size - r.pos = 0 := by omega
  simp [Reader.read, Nat.pos_iff_ne_zero.mp n0, avail, clean, aligned]
  rfl

theorem Reader.read_too_large (n0 : 0 < n) (inside : r.pos < r.src.data.size)
    (excess : maxArchiveSize < r.pos + min n (r.src.data.size - r.pos)) :
    r.read n = .error archiveTooLarge := by
  have avail : r.src.data.size - r.pos ≠ 0 := by omega
  simp [Reader.read, Nat.pos_iff_ne_zero.mp n0, avail, excess]
  rfl

theorem Reader.read_inside (n0 : 0 < n) (inside : r.pos < r.src.data.size)
    (under : r.pos + min n (r.src.data.size - r.pos) ≤ maxArchiveSize) :
    r.read n = .ok (r.src.data.extract r.pos (r.pos + min n (r.src.data.size - r.pos)),
      { r with pos := r.pos + min n (r.src.data.size - r.pos) }) := by
  have avail : r.src.data.size - r.pos ≠ 0 := by omega
  simp [Reader.read, Nat.pos_iff_ne_zero.mp n0, avail, Nat.not_lt.mpr under]
  rfl

/-! ## Reading up to a count -/

theorem Reader.readUpTo_eq (r : Reader) :
    r.readUpTo n = Reader.readUpTo.go n ((r.src.data.size - r.pos + 1) + 1) r ByteArray.empty :=
  rfl

/-- One round of the reading loop: stop once `n` bytes are held, else read the rest and
stop at a read that gives nothing. -/
theorem Reader.readUpTo_go_succ (fuel : Nat) (r : Reader) (acc : ByteArray) :
    Reader.readUpTo.go n (fuel + 1) r acc =
      if n ≤ acc.size then .ok (acc, r)
      else r.read (n - acc.size) >>= fun x =>
        if x.1.size == 0 then pure (acc, x.2) else Reader.readUpTo.go n fuel x.2 (acc ++ x.1) := by
  rw [Reader.readUpTo.go]
  by_cases held : n ≤ acc.size
  · simp only [ge_iff_le, held, if_true]; rfl
  · simp only [ge_iff_le, held, if_false]

theorem Reader.readUpTo_zero (r : Reader) : r.readUpTo 0 = .ok (ByteArray.empty, r) := by
  rw [Reader.readUpTo_eq, Reader.readUpTo_go_succ, if_pos (Nat.zero_le _)]

theorem Reader.readUpTo_within (n0 : 0 < n) (fits : r.pos + n ≤ r.src.data.size)
    (under : r.pos + n ≤ maxArchiveSize) :
    r.readUpTo n = .ok (r.src.data.extract r.pos (r.pos + n), { r with pos := r.pos + n }) := by
  have least : min n (r.src.data.size - r.pos) = n := by omega
  have first := Reader.read_inside n0 (by omega) (least ▸ under)
  rw [least] at first
  have got : (r.src.data.extract r.pos (r.pos + n)).size = n := by
    simp [ByteArray.size_extract]; omega
  have nonempty : (n == 0) = false := by simp; omega
  rw [Reader.readUpTo_eq, Reader.readUpTo_go_succ, ByteArray.size_empty, if_neg (by omega),
    Nat.sub_zero, first]
  simp only [bind, Except.bind, got, ByteArray.empty_append, nonempty, Bool.false_eq_true,
    if_false]
  rw [Reader.readUpTo_go_succ, if_pos (Nat.le_of_eq got.symm)]

theorem Reader.readUpTo_too_large (n0 : 0 < n) (inside : r.pos < r.src.data.size)
    (excess : maxArchiveSize < r.pos + min n (r.src.data.size - r.pos)) :
    r.readUpTo n = .error archiveTooLarge := by
  rw [Reader.readUpTo_eq, Reader.readUpTo_go_succ, ByteArray.size_empty, if_neg (by omega),
    Nat.sub_zero, Reader.read_too_large n0 inside excess]
  rfl

theorem Reader.readUpTo_at_end (n0 : 0 < n) (atEnd : r.src.data.size ≤ r.pos)
    (clean : r.src.ending = none) (mid : r.pos % blockSize ≠ 0) :
    r.readUpTo n = .error (endsMidBlock r.pos) := by
  rw [Reader.readUpTo_eq, Reader.readUpTo_go_succ, ByteArray.size_empty, if_neg (by omega),
    Nat.sub_zero, Reader.read_at_end n0 atEnd clean mid]
  rfl

theorem Reader.readUpTo_at_clean_end (n0 : 0 < n) (atEnd : r.src.data.size ≤ r.pos)
    (clean : r.src.ending = none) (aligned : r.pos % blockSize = 0) :
    r.readUpTo n = .ok (ByteArray.empty, r) := by
  rw [Reader.readUpTo_eq, Reader.readUpTo_go_succ, ByteArray.size_empty, if_neg (by omega),
    Nat.sub_zero, Reader.read_at_clean_end n0 atEnd clean aligned]
  rfl

/-- A read that runs past the end of a source stopping inside a block takes what is there,
then meets the end. -/
theorem Reader.readUpTo_past_end (inside : r.pos < r.src.data.size)
    (short : r.src.data.size < r.pos + n) (under : r.src.data.size ≤ maxArchiveSize)
    (clean : r.src.ending = none) (mid : r.src.data.size % blockSize ≠ 0) :
    r.readUpTo n = .error (endsMidBlock r.src.data.size) := by
  have least : r.pos + min n (r.src.data.size - r.pos) = r.src.data.size := by omega
  have first := Reader.read_inside (by omega : 0 < n) inside (by omega)
  rw [least] at first
  have got : (r.src.data.extract r.pos r.src.data.size).size = r.src.data.size - r.pos := by
    simp [ByteArray.size_extract]
  -- the second read starts at the end of the source
  have rest := Reader.read_at_end (r := { r with pos := r.src.data.size })
    (by omega : 0 < n - (r.src.data.size - r.pos)) Nat.le.refl clean mid
  have nonempty : (r.src.data.size - r.pos == 0) = false := by simp; omega
  rw [Reader.readUpTo_eq, Reader.readUpTo_go_succ, ByteArray.size_empty, if_neg (by omega),
    Nat.sub_zero, first]
  simp only [bind, Except.bind, got, ByteArray.empty_append, nonempty, Bool.false_eq_true,
    if_false]
  rw [Reader.readUpTo_go_succ, got, if_neg (by omega), rest]
  rfl

/-! ## Blocks and skips -/

theorem Reader.skip_within (fits : r.pos + n ≤ r.src.data.size) (under : r.pos + n ≤ maxArchiveSize) :
    r.skip n = .ok { r with pos := r.pos + n } := by
  cases n with
  | zero =>
    rw [Reader.skip, Reader.readUpTo_zero]
    rfl
  | succ n =>
    have got : (r.src.data.extract r.pos (r.pos + (n + 1))).size = n + 1 := by
      simp [ByteArray.size_extract]
      omega
    rw [Reader.skip, Reader.readUpTo_within (Nat.succ_pos n) fits under]
    simp only [bind, Except.bind, got, Nat.lt_irrefl, if_false]
    rfl

theorem Reader.readBlock_within (fits : r.pos + blockSize ≤ r.src.data.size)
    (under : r.pos + blockSize ≤ maxArchiveSize) :
    r.readBlock = .ok (some (r.src.data.extract r.pos (r.pos + blockSize),
      { r with pos := r.pos + blockSize })) := by
  have got : (r.src.data.extract r.pos (r.pos + blockSize)).size = blockSize := by
    simp [ByteArray.size_extract]
    omega
  rw [Reader.readBlock, Reader.readUpTo_within (by decide) fits under]
  simp only [bind, Except.bind, got]
  rfl

/-- At a block boundary where a clean source ends, there is no next block. -/
theorem Reader.readBlock_at_clean_end (atEnd : r.src.data.size ≤ r.pos)
    (clean : r.src.ending = none) (aligned : r.pos % blockSize = 0) : r.readBlock = .ok none := by
  rw [Reader.readBlock, Reader.readUpTo_at_clean_end (by decide) atEnd clean aligned]
  rfl

/-! ## Prefixes -/

/-- Below the end of a prefix, the prefix and the whole hold the same bytes. -/
theorem extract_eq_of_isPrefix {P T : ByteArray} (isPrefix : P.data.toList <+: T.data.toList)
    {i j : Nat} (within : j ≤ P.size) : P.extract i j = T.extract i j := by
  obtain ⟨rest, whole⟩ := isPrefix
  have length : P.data.toList.length = P.size := Array.length_toList
  apply ByteArray.ext
  apply Array.ext'
  rw [ByteArray.data_extract, ByteArray.data_extract, Array.toList_extract, Array.toList_extract,
    ← whole, List.extract_eq_take_drop, List.extract_eq_take_drop]
  by_cases before : i ≤ P.size
  · rw [List.drop_append_of_le_length (by omega), List.take_append_of_le_length (by simp; omega)]
  · rw [Nat.sub_eq_zero_of_le (by omega), List.take_zero, List.take_zero]

/-- The first `k` bytes of a stream are a prefix of it. -/
theorem extract_zero_isPrefix (T : ByteArray) (k : Nat) :
    (T.extract 0 k).data.toList <+: T.data.toList := by
  rw [ByteArray.data_extract, Array.toList_extract, List.extract_eq_take_drop, List.drop_zero,
    Nat.sub_zero]
  exact List.take_prefix _ _

end ChartCatalog.Tar
